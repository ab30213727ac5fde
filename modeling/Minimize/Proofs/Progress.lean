-- What no iteration takes back. Whether a step succeeds or fails, it leaves the
-- problem with the evaluations made before, and the state of before or one that it
-- took over behind it; so in a run whose costs are numbers, iterations and
-- evaluations never become fewer, and the best cost never becomes higher.
import Minimize.Proofs.Breaks
import Minimize.Proofs.Checks
import Minimize.Proofs.Pace
import Minimize.Proofs.Precision

namespace Minimize

variable {τ : Type}

/-! ## How far runs have gone -/

/-- An outcome of a run that has gone no further than the one of another: not in
iterations, not in evaluations, as the problem and the state count them, and not
in the best cost. -/
structure Outcome.NoFurther (o p : Outcome τ) : Prop where
  iterations : o.iterations ≤ p.iterations
  evaluations : ∀ c, o.problem.counts.get c ≤ p.problem.counts.get c
  counted : ∀ c : Capability, o.state.counted c.counter ≤ p.state.counted c.counter
  best : p.bestCost = o.bestCost ∨ p.bestCost.Below o.bestCost

namespace Outcome.NoFurther

variable {o p q : Outcome τ}

theorem of_kept (hp : ∀ c, o.problem.counts.get c ≤ p.problem.counts.get c)
    (hbook : p.state.book = o.state.book) (hcounts : p.state.counts = o.state.counts) :
    o.NoFurther p where
  iterations := Int.le_of_eq (congrArg Bookkeeping.iteration hbook).symm
  evaluations := hp
  counted c := Int.le_of_eq (by unfold State.counted; rw [hcounts])
  best := .inl (congrArg Bookkeeping.bestCost hbook)

theorem of_same (hp : p.problem = o.problem) (hbook : p.state.book = o.state.book)
    (hcounts : p.state.counts = o.state.counts) : o.NoFurther p :=
  .of_kept (fun c => Int.le_of_eq (by rw [hp])) hbook hcounts

theorem trans (h : o.NoFurther p) (h' : p.NoFurther q) : o.NoFurther q where
  iterations := Int.le_trans h.iterations h'.iterations
  evaluations c := Int.le_trans (h.evaluations c) (h'.evaluations c)
  counted c := Int.le_trans (h.counted c) (h'.counted c)
  best := by
    rcases h'.best with hqp | hqp
    · rw [hqp]
      exact h.best
    · rcases h.best with hpo | hpo
      · rw [← hpo]
        exact .inr hqp
      · exact .inr (Value.Below.trans hqp hpo)

end Outcome.NoFurther

/-- The counter of a capability in the table of the counters. -/
theorem Counts.get?_toTable (n : Counts) (c : Capability) :
    n.toTable.get? c.counter = some (n.get c) := by
  cases c <;> rfl

namespace Engine

variable [Clock τ] {g₀ g v : Engine τ} {kind : CallKind} {past : List (State τ)}
  {record : Option Record}

/-! ## The problem of an iteration -/

theorem consult_problem (kind : CallKind) (g : Engine τ) :
    (Attempt.left ((g.consult kind).map (·.1))).executor.problem = (g.asked kind).problem := by
  unfold consult
  dsimp only
  split <;> rfl

theorem merge_problem (g : Engine τ) (r : Returned τ) (book : Bookkeeping τ) (i : Int)
    (started : τ) :
    (Attempt.left (g.merge r book i started)).executor.problem = g.executor.problem := by
  unfold merge
  dsimp only
  split
  · split <;> rfl
  · split <;> rfl

theorem judge_problem (g : Engine τ) :
    (Attempt.left g.judge).executor.problem = g.executor.problem := by
  obtain ⟨s, hs⟩ := judge_left g
  rw [hs]
  rfl

theorem complete_problem (g : Engine τ) (record : Option Record) :
    (Attempt.left (g.complete record)).executor.problem = g.executor.problem := by
  unfold complete
  dsimp only
  split <;> rfl

theorem take_problem (kind : CallKind) (started : τ) (g : Engine τ) :
    (Attempt.left ((g.take kind started).map (·.1))).executor.problem = (g.asked kind).problem := by
  have hc := consult_problem kind g
  unfold take
  cases h : g.consult kind with
  | error f =>
    rw [h] at hc
    exact hc
  | ok r =>
    rw [h] at hc
    have hm := merge_problem r.1 (r.2.placed kind g.executor.state) (g.kept kind)
      (kind.target g.executor.state.book.iteration) started
    dsimp only [bind, Except.bind]
    cases hr : r.1.merge (r.2.placed kind g.executor.state) (g.kept kind)
        (kind.target g.executor.state.book.iteration) started with
    | error f =>
      rw [hr] at hm
      exact hm.trans hc
    | ok g' =>
      rw [hr] at hm
      exact hm.trans hc

theorem advance_problem (kind : CallKind) (started : τ) (g : Engine τ) :
    (Attempt.left (g.advance kind started)).executor.problem = (g.asked kind).problem := by
  have ht := take_problem kind started (g.enter kind)
  rw [enter_asked] at ht
  unfold advance
  cases h : (g.enter kind).take kind started with
  | error f =>
    rw [h] at ht
    exact ht
  | ok r =>
    rw [h] at ht
    have hj := judge_problem r.1
    dsimp only [bind, Except.bind]
    cases hr : r.1.judge with
    | error f =>
      rw [hr] at hj
      exact hj.trans ht
    | ok v =>
      rw [hr] at hj
      exact (complete_problem v r.2).trans (hj.trans ht)

theorem iterate_problem (kind : CallKind) (started : τ) (g : Engine τ) :
    (Attempt.left (g.iterate kind started)).executor.problem = (g.asked kind).problem := by
  have ha := advance_problem kind started g
  rw [iterate_eq]
  cases h : g.advance kind started with
  | error f =>
    rw [h] at ha
    exact ha
  | ok u =>
    rw [h] at ha
    have hs := (save_stands u false).problem
    dsimp only [Except.bind]
    cases hv : u.save false with
    | error f =>
      rw [hv] at hs
      exact hs.trans ha
    | ok v =>
      rw [hv] at hs
      exact hs.trans ha

/-! ## Costs -/

/-- The costs that a run comes by: the best one that it starts with, if there is
one, and those of the states that the solver returns. -/
inductive ComesBy (g₀ : Engine τ) : Value → Prop
  | start (hb : g₀.executor.state.book.hasBest = true) :
      ComesBy g₀ g₀.executor.state.book.bestCost
  | call {kind : CallKind} {past : List (State τ)} {g u : Engine τ} {r : Returned τ}
      (hc : g₀.ComesTo kind past g) (hr : (g.enter kind).consult kind = .ok (u, r)) :
      ComesBy g₀ r.state.cost

/-- A run all of whose costs are numbers that can be held against each other.
Numbers in the range of floating point always can; a whole number beyond it cannot
be held against a floating-point number of a typed array. -/
structure Numeric (g₀ : Engine τ) : Prop where
  numbers : ∀ c, g₀.ComesBy c → c.IsNumber
  compare : ∀ c d, g₀.ComesBy c → g₀.ComesBy d → ∃ better, c.less d = .ok better

/-- The cost of a state that was taken over is one that the run comes by. -/
theorem ComesTo.cost (hc : g₀.ComesTo kind past g)
    (ht : (g.enter kind).take kind g₀.world.clock = .ok (v, record)) :
    g₀.ComesBy v.executor.state.cost := by
  obtain ⟨u, r, hconsult, _, hrecord, _⟩ := take_ok ht
  obtain ⟨b, _, hs⟩ := State.recordBest_ok hrecord
  have hcost : v.executor.state.cost = r.state.cost := by
    rw [hs]
    cases kind <;> rfl
  exact hcost ▸ .call hc hconsult

/-- What taking a state over makes of the best cost: it stands, or the cost of the
state is the best one, and below the one before if there was one. -/
theorem take_best {started : τ} (ht : (g.enter kind).take kind started = .ok (v, record)) :
    v.executor.state.book.hasBest = true ∧
      ((g.executor.state.book.hasBest = true ∧
          v.executor.state.book.bestCost = g.executor.state.book.bestCost) ∨
        (v.executor.state.book.bestCost = v.executor.state.cost ∧
          (g.executor.state.book.hasBest = true →
            v.executor.state.cost.less g.executor.state.book.bestCost = .ok true))) := by
  obtain ⟨elapsed, hr⟩ := take_book ht
  rw [enter_state, enter_kept] at hr
  rw [← kept_hasBest kind g, ← kept_bestCost kind g]
  rcases Bookkeeping.recorded_cases hr with ⟨_, hless, hbook⟩ | ⟨_, hbest, _, hbook⟩
  · rw [hbook]
    exact ⟨rfl, .inr ⟨rfl, hless⟩⟩
  · rw [hbook]
    exact ⟨hbest, .inl ⟨hbest, rfl⟩⟩

/-- The best cost is one that the run comes by. -/
theorem ComesTo.best (hc : g₀.ComesTo kind past g)
    (hb : g.executor.state.book.hasBest = true → g₀.ComesBy g.executor.state.book.bestCost)
    (ht : (g.enter kind).take kind g₀.world.clock = .ok (v, record)) :
    g₀.ComesBy v.executor.state.book.bestCost := by
  obtain ⟨_, ⟨hbest, hsame⟩ | ⟨hcost, _⟩⟩ := take_best ht
  · exact hsame ▸ hb hbest
  · exact hcost ▸ hc.cost ht

/-- After every iteration of a run there is a best cost, and it is one that the
run comes by. -/
theorem Course.best (hx : g₀.executor.solver.OnlyJudges) (hn : g₀.stored = .ok none)
    (hc : g₀.Course past g) :
    g.executor.state.book.hasBest = true ∧ g₀.ComesBy g.executor.state.book.bestCost := by
  have completed {kind : CallKind} {past : List (State τ)} {v w : Engine τ}
      (hc : g₀.ComesTo kind past v) (hv : v.executor.solver.OnlyJudges)
      (hb : v.executor.state.book.hasBest = true → g₀.ComesBy v.executor.state.book.bestCost)
      (hi : v.iterate kind g₀.world.clock = .ok w) :
      w.executor.state.book.hasBest = true ∧ g₀.ComesBy w.executor.state.book.bestCost := by
    obtain ⟨u, ha, hstands, _⟩ := iterate_ok hi
    obtain ⟨x, record, status, r, ht, he⟩ := advance_took hv ha
    rw [hstands.state, he]
    exact ⟨(take_best ht).1, hc.best hb ht⟩
  induction hc with
  | start hs =>
    exact completed (.opening hn) hx (fun hb => .start hb) ((start_fresh hn _).symm.trans hs)
  | step hc hr hi ih =>
    exact completed (.step hc hr) ((hc.keeps hn).1 ▸ hx) (fun _ => ih.2) hi

theorem ComesTo.comesBy (hx : g₀.executor.solver.OnlyJudges) (hn : g₀.stored = .ok none)
    (hc : g₀.ComesTo kind past g)
    (hb : g.executor.state.book.hasBest = true) : g₀.ComesBy g.executor.state.book.bestCost := by
  cases hc with
  | opening _ => exact .start hb
  | step hc _ => exact (hc.best hx hn).2

/-! ## Going on -/

/-- The call of an iteration takes no evaluation back. -/
theorem asked_counts_le (kind : CallKind) (g : Engine τ) (c : Capability) :
    g.executor.problem.counts.get c ≤ (g.asked kind).problem.counts.get c := by
  have hcounts := g.asked_counts kind c
  obtain ⟨later, hjournal, _⟩ := (g.asked_follows kind).journal
  have hgrown : g.world.evaluations c ≤ (g.asked kind).world.evaluations c := by
    have hnoted := World.evaluations_note g.world c (.called kind g.executor.state.book.iteration)
    unfold World.evaluations at hnoted ⊢
    rw [hjournal, List.countP_append]
    omega
  omega

/-- In a run whose costs are numbers, taking a state over makes the best cost no
higher. -/
theorem Numeric.take (hn : g₀.Numeric) (hc : g₀.ComesTo kind past g)
    (hb : g.executor.state.book.hasBest = true)
    (hbest : g₀.ComesBy g.executor.state.book.bestCost)
    (hcounts : g.executor.state.counts = g.executor.problem.counts.toTable)
    (ht : (g.enter kind).take kind g₀.world.clock = .ok (v, record)) :
    (g.outcome none).NoFurther (v.outcome none) := by
  have hproblem := take_problem kind g₀.world.clock (g.enter kind)
  rw [ht, enter_asked] at hproblem
  have hgrown (c : Capability) :
      g.executor.problem.counts.get c ≤ v.executor.problem.counts.get c := by
    rw [show v.executor.problem = (g.asked kind).problem from hproblem]
    exact asked_counts_le kind g c
  refine ⟨?_, hgrown, fun c => ?_, ?_⟩
  · obtain ⟨elapsed, hr⟩ := take_book ht
    have hiteration := Bookkeeping.recorded_iteration hr
    rw [enter_state] at hiteration
    show g.executor.state.book.iteration ≤ v.executor.state.book.iteration
    rw [hiteration]
    cases kind with
    | opening => exact Int.le_refl _
    | step => exact Int.le_of_lt (Int.lt_succ _)
  · show g.executor.state.counted c.counter ≤ v.executor.state.counted c.counter
    unfold State.counted
    rw [hcounts, take_counts ht, Counts.get?_toTable, Counts.get?_toTable]
    exact hgrown c
  · obtain ⟨_, ⟨_, hsame⟩ | ⟨hcost, hless⟩⟩ := take_best ht
    · exact .inl hsame
    · have hbelow := Value.below_of_less (hn.numbers _ (hc.cost ht)).place
        (hn.numbers _ hbest).place (hless hb)
      rw [← hcost] at hbelow
      exact .inr hbelow

/-- Where an iteration leaves the engine, whether it succeeds or not: at the state
of before; at the state that was taken over, but for the status and the record; or
anywhere, if the cost could not be compared. -/
theorem iterate_left (hx : g.executor.solver.OnlyJudges) (kind : CallKind) (started : τ) :
    (Attempt.left (g.iterate kind started)).executor.state = g.executor.state ∨
    (∃ v record status r, (g.enter kind).take kind started = .ok (v, record) ∧
      (Attempt.left (g.iterate kind started)).executor.state =
        { v.executor.state with status := status, record := r }) ∨
    ∃ u r e, (g.enter kind).consult kind = .ok (u, r) ∧
      (u.carried (r.placed kind g.executor.state).state (g.kept kind)
        (kind.target g.executor.state.book.iteration) started).recordBest = .error e := by
  have htaken {u : Engine τ} {record : Option Record}
      (ht : (g.enter kind).take kind started = .ok (u, record)) :
      u.executor.solver.OnlyJudges := by
    rw [taken_solver ht]
    exact hx
  have completed {u : Engine τ} (ha : g.advance kind started = .ok u) :
      ∃ v record status r, (g.enter kind).take kind started = .ok (v, record) ∧
        u.executor.state = { v.executor.state with status := status, record := r } := by
    obtain ⟨v, record, status, r, ht, he⟩ := advance_took hx ha
    exact ⟨v, record, status, r, ht, congrArg Executor.state he⟩
  cases hi : g.iterate kind started with
  | ok g' =>
    obtain ⟨u, ha, hstands, _⟩ := iterate_ok hi
    have hstate : (Attempt.left (.ok g')).executor.state = u.executor.state := hstands.state
    rw [hstate]
    exact .inr (.inl (completed ha))
  | error f =>
    have hbroken := iterate_error hi
    generalize f.fault = fault at hbroken
    generalize hs : f.engine.executor.state = s at hbroken
    have hleft : (Attempt.left (.error f)).executor.state = s := hs
    rw [hleft]
    cases hbroken with
    | call _ => exact .inl rfl
    | cost hconsult hrecord => exact .inr (.inr ⟨_, _, _, hconsult, hrecord⟩)
    | check ht _ _ =>
      rw [questioned_same (htaken ht)]
      exact .inr (.inl ⟨_, _, _, _, ht, rfl⟩)
    | closed ht _ _ _ =>
      rw [questioned_same (htaken ht)]
      exact .inr (.inl ⟨_, _, _, _, ht, rfl⟩)
    | record ht hj _ =>
      obtain ⟨status, rfl⟩ := judge_same (htaken ht) hj
      exact .inr (.inl ⟨_, _, _, _, ht, rfl⟩)
    | save ha _ => exact .inr (.inl (completed ha))

/-- In a run whose costs are numbers, there is no cost that cannot be compared. -/
theorem Numeric.compared (hn : g₀.Numeric) (hc : g₀.ComesTo kind past g)
    (hb : g.executor.state.book.hasBest = true)
    (hbest : g₀.ComesBy g.executor.state.book.bestCost) {u : Engine τ} {r : Returned τ}
    (hr : (g.enter kind).consult kind = .ok (u, r)) (i : Int) (started : τ) (e : Slip) :
    (u.carried (r.placed kind g.executor.state).state (g.kept kind) i started).recordBest ≠
      .error e := by
  obtain ⟨better, hless⟩ := hn.compare _ _ (.call hc hr) hbest
  have hcost : (r.placed kind g.executor.state).state.cost = r.state.cost := by
    cases kind <;> rfl
  have hkept : (r.placed kind g.executor.state).state.cost.less (g.kept kind).bestCost =
      .ok better := by
    rw [hcost, kept_bestCost]
    exact hless
  have hrecorded := Bookkeeping.recorded_later
    (b := { g.kept kind with
      iteration := i, elapsed := u.elapsed (g.kept kind).elapsed started })
    ((kept_hasBest kind g).trans hb) (r.placed kind g.executor.state).state.param hkept
  intro herror
  unfold State.recordBest carried at herror
  dsimp only at herror
  rw [hrecorded] at herror
  cases herror

/-- In a run whose costs are numbers, no step takes anything back, whether it
succeeds or not. -/
theorem Numeric.iterate (hn : g₀.Numeric) (hx : g₀.executor.solver.OnlyJudges)
    (hfresh : g₀.stored = .ok none) (hc : g₀.Course past g)
    (hr : g.executor.state.terminated = false) :
    (g.outcome none).NoFurther
      ((Attempt.left (g.iterate .step g₀.world.clock)).outcome none) := by
  have hcomes := ComesTo.step hc hr
  obtain ⟨hb, hbest⟩ := hc.best hx hfresh
  have hproblem := iterate_problem .step g₀.world.clock g
  rcases iterate_left ((hc.keeps hfresh).1 ▸ hx) .step g₀.world.clock with
    hs | ⟨v, record, status, r, ht, hs⟩ | ⟨u, r, e, hconsult, hrecord⟩
  · refine .of_kept (fun c => ?_) (congrArg State.book hs) (congrArg State.counts hs)
    have hgrown := asked_counts_le .step g c
    rw [← hproblem] at hgrown
    exact hgrown
  · have htook := take_problem .step g₀.world.clock (g.enter .step)
    rw [ht, enter_asked, ← hproblem] at htook
    have hsame : (Attempt.left (g.iterate .step g₀.world.clock)).executor.problem =
        v.executor.problem := htook.symm
    have hbook := congrArg State.book hs
    have hcounts := congrArg State.counts hs
    have htaken := hn.take hcomes hb hbest (hc.counts hx.leavesCounts hfresh) ht
    exact htaken.trans (.of_same hsame hbook hcounts)
  · exact (hn.compared hcomes hb hbest hconsult _ _ _ hrecord).elim

theorem Numeric.onward (hn : g₀.Numeric) (hj : g₀.executor.solver.OnlyJudges)
    (hfresh : g₀.stored = .ok none) (hc : g₀.Course past g) {limit : Nat} {x : Attempt τ}
    (hx : g.onward g₀.world.clock limit = some x) :
    (g.outcome none).NoFurther (x.left.outcome none) := by
  have ended {g : Engine τ} (ht : g.executor.state.terminated = true) {limit : Nat}
      (hx : g.onward g₀.world.clock limit = some x) :
      (g.outcome none).NoFurther (x.left.outcome none) := by
    rw [onward_terminated _ _ ht] at hx
    obtain rfl := Option.some.inj hx
    have hs := save_stands g true
    exact .of_same hs.problem (congrArg State.book hs.state) (congrArg State.counts hs.state)
  induction limit generalizing past g with
  | zero =>
    cases ht : g.executor.state.terminated with
    | true => exact ended ht hx
    | false =>
      rw [onward_zero _ ht] at hx
      cases hx
  | succ limit ih =>
    cases ht : g.executor.state.terminated with
    | true => exact ended ht hx
    | false =>
      have hstep := hn.iterate hj hfresh hc ht
      rw [onward_step _ _ ht] at hx
      cases hi : g.iterate .step g₀.world.clock with
      | ok g' =>
        rw [hi] at hx hstep
        exact hstep.trans (ih (.step hc ht hi) hx)
      | error f =>
        rw [hi] at hx hstep
        obtain rfl := Option.some.inj hx
        exact hstep

omit [Clock τ] in
theorem noFurther_concluded {x y : Attempt τ}
    (h : (x.left.outcome none).NoFurther (y.left.outcome none)) (name name' : String) :
    (concluded name x).2.NoFurther (concluded name' y).2 := by
  obtain ⟨hproblem, hbook, hcounts⟩ := concluded_left name x
  obtain ⟨hproblem', hbook', hcounts'⟩ := concluded_left name' y
  have hx : (concluded name x).2.NoFurther (x.left.outcome none) :=
    .of_same hproblem.symm hbook.symm hcounts.symm
  have hy : (y.left.outcome none).NoFurther (concluded name' y).2 :=
    .of_same hproblem' hbook' hcounts'
  exact (hx.trans h).trans hy

end Engine

end Minimize
