-- How evaluations are counted. A call of the solver makes its requests one
-- after another: those for a capability that the problem lacks are turned down
-- and leave the counters alone, the others are counted, whatever the user's
-- function answers. So after every iteration the counters are those of the
-- start with all requests that reached a function, in the problem and in the
-- state. Only when a step fails do the two come apart, or not, as it fails.
import Minimize.Proofs.Finality
import Minimize.Proofs.Late
import Minimize.Proofs.Progress

namespace Minimize

/-! ## Requests -/

/-- A request for an evaluation, with what came back. -/
structure Request where
  capability : Capability
  args : List Value
  answer : Except Fault Value

namespace Problem

variable {p q r : Problem} {c : Capability} {qs qs' : List Request}

/-- How many requests for a capability reached the user's function: all of
them, whatever it answered, or none if there is no such function. -/
def reached (p : Problem) (qs : List Request) (c : Capability) : Nat :=
  if p.supports c then qs.countP (·.capability = c) else 0

/-- Whether the requests for what the problem lacks were turned down. -/
def TurnsDown (p : Problem) (qs : List Request) : Prop :=
  ∀ q ∈ qs, p.supports q.capability = false →
    q.answer = .error (.capabilityMissing q.capability.name p.user.typeName?)

/-- A later problem that offers the same. -/
structure Offers (p q : Problem) : Prop where
  supports : ∀ c, q.supports c = p.supports c
  typeName : q.user.typeName? = p.user.typeName?

theorem Offers.refl (p : Problem) : p.Offers p := ⟨fun _ => rfl, rfl⟩

theorem Offers.trans (h : p.Offers q) (h' : q.Offers r) : p.Offers r :=
  ⟨fun c => (h'.supports c).trans (h.supports c), h'.typeName.trans h.typeName⟩

theorem Offers.of_user (h : q.user = p.user) : p.Offers q :=
  ⟨fun c => by unfold Problem.supports; rw [h], by rw [h]⟩

theorem Offers.reached (h : p.Offers q) (qs : List Request) (c : Capability) :
    q.reached qs c = p.reached qs c := by
  unfold Problem.reached
  rw [h.supports]

theorem Offers.turnsDown (h : p.Offers q) (hq : q.TurnsDown qs) : p.TurnsDown qs := by
  intro x hx hs
  rw [← h.supports] at hs
  rw [← h.typeName]
  exact hq x hx hs

@[simp] theorem reached_nil (p : Problem) (c : Capability) : p.reached [] c = 0 := by
  simp [reached]

theorem reached_append (p : Problem) (qs qs' : List Request) (c : Capability) :
    p.reached (qs ++ qs') c = p.reached qs c + p.reached qs' c := by
  unfold reached
  split
  · exact List.countP_append
  · rfl

theorem reached_cons (p : Problem) (q : Request) (qs : List Request) (c : Capability) :
    p.reached (q :: qs) c = p.reached [q] c + p.reached qs c := p.reached_append [q] qs c

theorem turnsDown_nil (p : Problem) : p.TurnsDown [] := fun _ hq => absurd hq List.not_mem_nil

theorem TurnsDown.append (h : p.TurnsDown qs) (h' : p.TurnsDown qs') : p.TurnsDown (qs ++ qs') := by
  intro q hq
  rcases List.mem_append.mp hq with h1 | h1
  · exact h q h1
  · exact h' q h1

/-! ## What a problem does with a request -/

theorem evaluate_offers (p : Problem) (c : Capability) (args : List Value) :
    p.Offers (p.evaluate c args).1 := by
  unfold evaluate
  cases p.user.function? c with
  | none => exact .refl p
  | some f => exact .of_user rfl

/-- A function that was changed in place is still there. -/
theorem after_offers (p : Problem) (ch : Change) : p.Offers (p.after ch) := by
  unfold after
  split
  · refine ⟨fun c => ?_, rfl⟩
    simp [supports, UserProblem.amended]
  · exact .refl p

/-- A request is counted if and only if there is a function for it to reach. -/
theorem evaluate_counts (p : Problem) (d : Capability) (args : List Value) (c : Capability) :
    (p.evaluate d args).1.counts.get c =
      p.counts.get c + p.reached [⟨d, args, (p.evaluate d args).2⟩] c := by
  unfold reached evaluate
  cases hf : p.user.function? d with
  | none =>
    by_cases hd : d = c
    · subst hd
      simp [supports, hf]
    · simp [hd]
  | some f =>
    dsimp only
    rw [Counts.get_bump]
    by_cases hd : d = c
    · subst hd
      simp [supports, hf]
    · simp [hd]

/-- A request for what the problem lacks is turned down. -/
theorem evaluate_missing (p : Problem) (d : Capability) (args : List Value) :
    p.TurnsDown [⟨d, args, (p.evaluate d args).2⟩] := by
  intro q hq hs
  obtain rfl := List.mem_singleton.mp hq
  have hnone : p.user.function? d = none := by simpa [supports] using hs
  show (p.evaluate d args).2 = _
  unfold evaluate
  rw [hnone]

end Problem

variable {τ : Type} [Clock τ]

/-! ## Calls -/

namespace Call

/-- The requests that a call makes of a problem, in order. -/
def requests : Call τ → Problem → List Request
  | .done _ _, _ => []
  | .evaluate c args next, p =>
    let (p', r) := p.evaluate c args
    ⟨c, args, r⟩ :: (next (p.origin c) r).requests p'
  | .change c next, p => next.requests (p.after c)
  | .wait _ next, p => next.requests p
  | .raise _ next, p => next.requests p

theorem run_offers (a : Call τ) (p : Problem) (w : World τ) : p.Offers (a.run p w).problem := by
  induction a generalizing p w with
  | done _ _ => exact .refl p
  | evaluate c args next ih => exact (p.evaluate_offers c args).trans (ih _ _ _ _)
  | change ch next ih => exact (p.after_offers ch).trans (ih _ _)
  | wait _ next ih => exact ih _ _
  | raise _ next ih => exact ih _ _

/-- A call moves the counters by its requests that reached a function. -/
theorem run_reached (a : Call τ) (p : Problem) (w : World τ) (c : Capability) :
    (a.run p w).problem.counts.get c = p.counts.get c + p.reached (a.requests p) c := by
  induction a generalizing p w with
  | done _ _ => simp [run, requests]
  | evaluate d args next ih =>
    simp only [run, requests]
    have hcons := p.reached_cons ⟨d, args, (p.evaluate d args).2⟩
      ((next (p.origin d) (p.evaluate d args).2).requests (p.evaluate d args).1) c
    rw [ih, p.evaluate_counts d args c, (p.evaluate_offers d args).reached, hcons]
    push_cast
    exact Int.add_assoc _ _ _
  | change ch next ih =>
    simp only [run, requests]
    rw [ih, p.after_counts, (p.after_offers ch).reached]
  | wait _ next ih => exact ih _ _
  | raise _ next ih => exact ih _ _

omit [Clock τ] in
/-- A call is turned down wherever it asks for what the problem lacks. -/
theorem requests_turnsDown (a : Call τ) (p : Problem) : p.TurnsDown (a.requests p) := by
  induction a generalizing p with
  | done _ _ => exact p.turnsDown_nil
  | evaluate d args next ih =>
    exact (p.evaluate_missing d args).append ((p.evaluate_offers d args).turnsDown (ih _ _ _))
  | change ch next ih => exact (p.after_offers ch).turnsDown (ih _)
  | wait _ next ih => exact ih _
  | raise _ next ih => exact ih _

end Call

/-! ## Runs -/

namespace Engine

variable {g₀ g g' u : Engine τ} {past : List (State τ)} {kind : CallKind} {qs : List Request}
  {started : τ} {f : Fault} {s : State τ}

omit [Clock τ] in
/-- The requests that the solver makes when it is called. -/
def asks (kind : CallKind) (g : Engine τ) : List Request :=
  (g.executor.solver.call kind g.executor.state).requests g.executor.problem

/-- The requests that a run has made when it comes to an engine, in order. -/
inductive Requests (g₀ : Engine τ) : Engine τ → List Request → Prop
  | opened {g : Engine τ} (hn : g₀.stored = .ok none)
      (hi : g₀.begun.settled.iterate .opening g₀.world.clock = .ok g) :
      Requests g₀ g (g₀.begun.settled.asks .opening)
  | resumed {s : Snapshot τ} (hs : g₀.stored = .ok (some s)) :
      Requests g₀ ((g₀.begun.settled.noteLoaded s).resume s) []
  | stepped {g g' : Engine τ} {qs : List Request} (h : Requests g₀ g qs)
      (hr : g.executor.state.terminated = false)
      (hi : g.iterate .step g₀.world.clock = .ok g') : Requests g₀ g' (qs ++ g.asks .step)

omit [Clock τ] in
/-- The number with which a run starts to count: that of the stored snapshot, if
there is one that names the counter, and else that of the problem. -/
def startCount (g₀ : Engine τ) (c : Capability) : Int :=
  match g₀.stored with
  | .ok (some s) => (s.state.counts.get? c.counter).getD (g₀.executor.problem.counts.get c)
  | _ => g₀.executor.problem.counts.get c

/-- A run that has counted its requests. -/
structure Tallied (g₀ g : Engine τ) (qs : List Request) : Prop where
  offers : g₀.executor.problem.Offers g.executor.problem
  counts : ∀ c, g.executor.problem.counts.get c =
    g₀.startCount c + g₀.executor.problem.reached qs c
  turnsDown : g₀.executor.problem.TurnsDown qs

/-- Calling the solver counts its requests. -/
theorem asked_reached (kind : CallKind) (g : Engine τ) (c : Capability) :
    (g.asked kind).problem.counts.get c =
      g.executor.problem.counts.get c + g.executor.problem.reached (g.asks kind) c :=
  Call.run_reached _ _ _ c

theorem Tallied.iterate (h : g₀.Tallied g qs) (hi : g.iterate kind started = .ok g') :
    g₀.Tallied g' (qs ++ g.asks kind) := by
  have hproblem := iterate_problem kind started g
  rw [hi] at hproblem
  have hproblem' : g'.executor.problem = (g.asked kind).problem := hproblem
  refine ⟨?_, fun c => ?_, h.turnsDown.append (h.offers.turnsDown (Call.requests_turnsDown _ _))⟩
  · rw [hproblem']
    exact h.offers.trans (Call.run_offers _ _ _)
  · rw [hproblem', g.asked_reached kind c, h.counts, h.offers.reached,
      g₀.executor.problem.reached_append]
    push_cast
    exact Int.add_assoc _ _ _

/-- Every run has counted its requests. -/
theorem Requests.tallied (h : g₀.Requests g qs) : g₀.Tallied g qs := by
  induction h with
  | opened hn hi =>
    have hstart : g₀.Tallied g₀.begun.settled [] := by
      refine ⟨.refl _, fun c => ?_, Problem.turnsDown_nil _⟩
      unfold startCount
      rw [hn, Problem.reached_nil]
      exact (Int.add_zero _).symm
    exact hstart.iterate hi
  | @resumed s hs =>
    obtain ⟨hexecutor, _⟩ := noteLoaded_eq g₀.begun.settled s
    obtain ⟨_, _, _, hproblem, _, _⟩ := resume_eq (g₀.begun.settled.noteLoaded s) s
    rw [hexecutor] at hproblem
    refine ⟨.of_user (by rw [hproblem]; rfl), fun c => ?_, Problem.turnsDown_nil _⟩
    unfold startCount
    rw [hs, hproblem, Problem.reached_nil]
    exact (Counts.get_overlay _ _ c).trans (Int.add_zero _).symm
  | stepped _ _ hi ih => exact ih.iterate hi

theorem Course.requests (hc : g₀.Course past g) : ∃ qs, g₀.Requests g qs := by
  induction hc with
  | start hs =>
    rcases start_ok hs with ⟨hn, hi⟩ | ⟨s, hn, rfl⟩
    · exact ⟨_, .opened hn hi⟩
    · exact ⟨_, .resumed hn⟩
  | step _ hr hi ih =>
    obtain ⟨qs, hqs⟩ := ih
    exact ⟨_, .stepped hqs hr hi⟩

theorem iterate_counts (hx : g'.executor.solver.LeavesCounts)
    (hi : g.iterate kind started = .ok g') :
    g'.executor.state.counts = g'.executor.problem.counts.toTable := by
  obtain ⟨a, ha, hstands, _⟩ := iterate_ok hi
  rw [hstands.state, hstands.problem]
  exact advance_counts (iterate_solver hi ▸ hx) ha

/-- Where a run has completed an iteration, the state has the counters of the
problem. -/
theorem Course.mirrored (hx : g.executor.solver.LeavesCounts) (hc : g₀.Course past g)
    (hdone : g₀.stored = .ok none ∨ past ≠ []) :
    g.executor.state.counts = g.executor.problem.counts.toTable := by
  cases hc with
  | start hs =>
    rcases hdone with hn | hpast
    · exact iterate_counts hx ((start_fresh hn _).symm.trans hs)
    · exact absurd rfl hpast
  | step _ _ hi => exact iterate_counts hx hi

/-! ## Steps that fail -/

/-- The counters of the state when a step has failed. If the call fails, they
are those of before. If the returned state was taken over, or it was changed in
place, they are those of the problem, with what the step evaluated. If another
state was returned whose cost cannot be compared, they are as the solver left
them. -/
inductive LeavesCounts (g : Engine τ) (started : τ) : Fault → Table Int → Prop
  | called {f : Fault} (hf : (g.asked .step).answer.Fails g.executor.solver .step f) :
      LeavesCounts g started f g.executor.state.counts
  | takenOver {u : Engine τ} {r : Returned τ} {f : Fault}
      (hc : (g.enter .step).consult .step = .ok (u, r))
      (hr : r.inPlace = true ∨
        ∃ t, (g.takenOver u r started).recordBest = .ok t) :
      LeavesCounts g started f (g.asked .step).problem.counts.toTable
  | elsewhere {u : Engine τ} {r : Returned τ} {e : Slip}
      (hc : (g.enter .step).consult .step = .ok (u, r)) (hplace : r.inPlace = false)
      (hr : (g.takenOver u r started).recordBest = .error e) :
      LeavesCounts g started (.slip e) (g.asked .step).left.counts

theorem consult_left {r : Returned τ} (h : g.consult kind = .ok (u, r)) :
    u.executor.problem = (g.asked kind).problem ∧ u.executor.state = (g.asked kind).left := by
  unfold consult at h
  dsimp only at h
  split at h
  · cases h
  · cases h
    exact ⟨rfl, rfl⟩

theorem take_leavesCounts {record : Option Record}
    (ht : (g.enter .step).take .step started = .ok (u, record)) (f : Fault) :
    g.LeavesCounts started f u.executor.state.counts := by
  obtain ⟨v, r, hc, _, hrec, hproblem⟩ := take_ok ht
  have hleft := (consult_left hc).1
  rw [enter_asked] at hleft
  rw [take_counts ht, hproblem, hleft]
  exact .takenOver hc (.inr ⟨_, hrec⟩)

theorem BreaksOff.leavesCounts (hx : g.executor.solver.LeavesCounts)
    (h : g.BreaksOff .step started f s) : g.LeavesCounts started f s.counts := by
  have hjudges {u : Engine τ} {record : Option Record}
      (ht : (g.enter .step).take .step started = .ok (u, record)) :
      u.executor.solver.LeavesCounts := by
    rw [taken_solver ht]
    exact hx
  cases h with
  | call hf => exact .called hf
  | @cost u r e hc hr =>
    obtain ⟨hproblem, hleft⟩ := consult_left hc
    rw [enter_asked] at hproblem hleft
    cases hplace : r.inPlace with
    | true =>
      show g.LeavesCounts started (.slip e) u.executor.problem.counts.toTable
      rw [hproblem]
      exact .takenOver hc (.inl hplace)
    | false =>
      show g.LeavesCounts started (.slip e) u.executor.state.counts
      rw [hleft]
      exact .elsewhere hc hplace hr
  | check ht _ _ =>
    rw [questioned_counts (hjudges ht)]
    exact take_leavesCounts ht f
  | closed ht _ _ _ =>
    rw [questioned_counts (hjudges ht)]
    exact take_leavesCounts ht f
  | record ht hj _ =>
    rw [(judge_counts (hjudges ht) hj).1]
    exact take_leavesCounts ht f
  | save ha _ =>
    obtain ⟨v, record, w, ht, hj, hcomplete⟩ := advance_ok ha
    obtain ⟨_, _, he⟩ := complete_ok hcomplete
    have hcounts := (judge_counts (hjudges ht) hj).1
    rw [he]
    show g.LeavesCounts started f w.executor.state.counts
    rw [hcounts]
    exact take_leavesCounts ht f

/-! ## The law -/

/-- Evaluations are counted exactly, if the solver leaves the counters alone that it
is shown when it is asked whether the run is to stop. Wherever a run has come to, a request for
what the problem lacks was turned down; every counter of the problem is at the
number that it had at the start, with the requests that reached the user's
function; and after a completed iteration the state has the same counters. If
then a step fails, the outcome's problem has counted what the step asked for as
well. The outcome's state has the counters of before the step if the call of
the solver failed, which the problem exceeds by just what the step asked for; if
the step failed later it has those of the problem, or those that the solver
left. -/
theorem evaluations_are_counted_exactly (hx : g.executor.solver.LeavesCounts)
    (hp : g₀.executor.phase = .created) (hc : g₀.Course past g) :
    ∃ qs, g₀.Requests g qs ∧ g₀.executor.problem.TurnsDown qs ∧
      (∀ c, g.executor.problem.counts.get c =
        g₀.startCount c + g₀.executor.problem.reached qs c) ∧
      (g₀.stored = .ok none ∨ past ≠ [] →
        g.executor.state.counts = g.executor.problem.counts.toTable) ∧
      ∀ f, g.executor.state.terminated = false →
        g.iterate .step g₀.world.clock = .error f → ∀ limit,
          ∃ h o, g₀.run (past.length + 1 + limit) = .ok (some (h, o)) ∧ o.error = some f.fault ∧
            g₀.executor.problem.TurnsDown (g.asks .step) ∧
            (∀ c, o.problem.counts.get c = g.executor.problem.counts.get c +
              g₀.executor.problem.reached (g.asks .step) c) ∧
            g.LeavesCounts g₀.world.clock f.fault o.state.counts ∧
            ((g.asked .step).answer.Fails g.executor.solver .step f.fault →
              g₀.stored = .ok none ∨ past ≠ [] → ∀ c,
                o.state.counts.get? c.counter = some (g.executor.problem.counts.get c)) := by
  obtain ⟨qs, hqs⟩ := hc.requests
  have htallied := hqs.tallied
  refine ⟨qs, hqs, htallied.turnsDown, htallied.counts, hc.mirrored hx, ?_⟩
  intro f hr hi limit
  have hrun := run_created hp (past.length + 1 + limit)
  have hcomes := attempt_of_comesTo (.step hc hr) limit
  rw [List.length_append, List.length_singleton, hi] at hcomes
  rw [hcomes] at hrun
  obtain ⟨hproblem, _, hcounts⟩ := concluded_left g₀.executor.runName (.error f)
  have hlast := iterate_problem .step g₀.world.clock g
  rw [hi] at hlast
  refine ⟨_, _, hrun, rfl, htallied.offers.turnsDown (Call.requests_turnsDown _ _), fun c => ?_,
    ?_, fun hf hdone c => ?_⟩
  · show (concluded g₀.executor.runName (.error f)).2.problem.counts.get c = _
    rw [hproblem, hlast, g.asked_reached .step c, htallied.offers.reached]
  · show g.LeavesCounts g₀.world.clock f.fault
      (concluded g₀.executor.runName (.error f)).2.state.counts
    rw [hcounts]
    exact (iterate_error hi).leavesCounts hx
  · obtain ⟨u, hu, hstate, _⟩ := iterate_of_fails hf g₀.world.clock
    have hsame : f = ⟨f.fault, u⟩ := Except.error.inj (hi.symm.trans hu)
    have hleft : f.engine.executor.state = g.executor.state := by
      rw [hsame]
      exact hstate
    have hkept := hcounts.trans ((congrArg State.counts hleft).trans (hc.mirrored hx hdone))
    exact (congrArg (·.get? c.counter) hkept).trans (Counts.get?_toTable _ c)

/-- A problem that offers nothing but a cost, which is always the same. -/
def priced : UserProblem :=
  ⟨some "Priced", "Priced()", fun c => if c = .cost then some (.constant (.bool true)) else none⟩

/-- A solver that opens like a replay. Its step asks for a gradient and for a
cost, and hands back a state whose cost is a text. -/
def inquiring : Solver Float :=
  { Sample.replay [true] with
    step := fun s => .evaluate .gradient [s.param] fun _ _ =>
      .evaluate .cost [s.param] fun _ _ =>
        .ok { s.movedTo (.text "bad") with cost := .text "bad" } none }

def inquiry : Engine Float :=
  let g := underLimit inquiring 3 none none (.start 0)
  { g with executor := { g.executor with problem := .wrap priced } }

theorem inquiry_step :
    ∃ g f, inquiry.Course [] g ∧ g.executor.solver = inquiring ∧
      g.executor.state.terminated = false ∧ g.executor.problem = .wrap priced ∧
      (g.asks .step).map Request.capability = [.gradient, .cost] ∧
      g.advance .step 0 = .error f ∧ f.fault = .slip (.unordered "<" "str" "bool") ∧
      f.engine.executor.problem.counts = Counts.zero.bump .cost ∧
      f.engine.executor.state.counts = (Counts.zero.bump .cost).toTable := by
  have hlimited : inquiry.begun.settled.Limited 3 := ⟨rfl, rfl, fun _ => rfl, fun h => nomatch h⟩
  have hopening : inquiry.begun.settled.Moves .opening := ⟨true, rfl⟩
  obtain ⟨g, hi, _, hgl⟩ := hlimited.iterate hopening (fun _ h => nomatch h) rfl 0
  have hg : inquiry.Course [] g := .start ((start_fresh rfl _).trans hi)
  have hkeeps := iterate_keeps .opening (0 : Float) inquiry.begun.settled
  have hproblem := iterate_problem .opening (0 : Float) inquiry.begun.settled
  rw [hi] at hkeeps hproblem
  have hsolver : g.executor.solver = inquiring := hkeeps.solver
  have hpriced : g.executor.problem = .wrap priced := hproblem
  obtain ⟨best, hbest⟩ := hgl.bestCost
  have hhas := (Course.balanced (.fresh rfl fun _ => rfl) rfl rfl hg).2
  -- the call comes to its end, and the cost cannot be held against the best
  have hasked : ∃ w, g.asked .step = ⟨⟨priced, Counts.zero.bump .cost⟩, w,
      { g.executor.state.movedTo (.text "bad") with cost := .text "bad" }, .same none, []⟩ := by
    unfold asked
    dsimp only
    rw [hsolver, hpriced]
    exact ⟨_, rfl⟩
  obtain ⟨w, hasked⟩ := hasked
  have hconsult : ∃ u, (g.enter .step).consult .step = .ok (u,
      ⟨{ g.executor.state.movedTo (.text "bad") with cost := .text "bad" }, true, none⟩) := by
    unfold consult
    rw [enter_asked, hasked]
    exact ⟨_, rfl⟩
  obtain ⟨u, hu⟩ := hconsult
  have hrec : (g.takenOver u ⟨{ g.executor.state.movedTo (.text "bad") with cost := .text "bad" },
      true, none⟩ 0).recordBest = .error (.unordered "<" "str" "bool") := by
    have hless : Value.less (.text "bad") (g.kept .step).bestCost =
        .error (.unordered "<" "str" "bool") := by
      rw [kept_bestCost, hbest]
      rfl
    exact State.recordBest_uncomparable ((kept_hasBest .step g).trans hhas) hless
  obtain ⟨v, hv, hstate⟩ := advance_uncomparable hu hrec
  have hleft := advance_problem .step (0 : Float) g
  rw [hv, hasked] at hleft
  refine ⟨g, _, hg, hsolver, State.not_terminated_iff.mpr hgl.status, hpriced, ?_, hv, rfl,
    congrArg Problem.counts hleft, ?_⟩
  · unfold asks
    rw [hsolver, hpriced]
    rfl
  · rw [hstate]
    show u.executor.problem.counts.toTable = _
    rw [(consult_left hu).1, enter_asked, hasked]

/-- The law for that engine: one of the two requests was turned down, and the
other is counted in the problem. -/
theorem an_inquiry_is_counted_exactly :
    ∃ g h o, inquiry.Course [] g ∧ inquiry.run 1 = .ok (some (h, o)) ∧
      o.error = some (.slip (.unordered "<" "str" "bool")) ∧
      (g.asks .step).map Request.capability = [.gradient, .cost] ∧
      g.executor.problem.counts.get .cost = 0 ∧ o.problem.counts.get .cost = 1 ∧
      o.problem.counts.get .gradient = 0 := by
  obtain ⟨g, f, hg, hsolver, hr, hproblem, hasks, hfail, hfault, _, _⟩ := inquiry_step
  have hi : g.iterate .step 0 = .error f := by
    rw [iterate_eq, hfail]
    rfl
  obtain ⟨_, _, _, _, _, hlaw⟩ :=
    evaluations_are_counted_exactly (hsolver ▸ fun _ => rfl) rfl hg
  obtain ⟨h, o, hrun, herror, _, hcounts, _⟩ := hlaw f hr hi 0
  have hreached (c : Capability) : (Problem.wrap priced).reached (g.asks .step) c =
      if c = .cost then 1 else 0 := by
    have hmap : (g.asks .step).countP (·.capability = c) =
        ((g.asks .step).map Request.capability).countP (· = c) := by
      rw [List.countP_map]
      rfl
    unfold Problem.reached
    rw [hmap, hasks]
    cases c <;> rfl
  have hcost := hcounts .cost
  have hgradient := hcounts .gradient
  have hstart : inquiry.executor.problem = .wrap priced := rfl
  rw [hstart, hreached, hproblem] at hcost hgradient
  exact ⟨g, h, o, hg, hrun, herror.trans (congrArg some hfault), hasks, by rw [hproblem]; rfl,
    hcost, hgradient⟩

/-- The state of its outcome has not the counters of the last completed
iteration, but those of the problem, with the evaluation of the step that
failed. -/
theorem a_failed_step_can_be_counted_in_the_state :
    ∃ g h o, inquiry.Course [] g ∧ inquiry.run 1 = .ok (some (h, o)) ∧
      o.error = some (.slip (.unordered "<" "str" "bool")) ∧
      LastCompleted h.world.history g.executor.state ∧
      g.executor.state.counts.get? "cost_count" = some 0 ∧
      o.state.counts.get? "cost_count" = some 1 ∧ o.problem.counts.get .cost = 1 := by
  obtain ⟨g, f, hg, hsolver, hr, hproblem, _, hfail, hfault, hcounted, hcounts⟩ := inquiry_step
  have hrun := run_of_late rfl hg hr hfail 0
  have hlast := lastCompleted_of_failed (hg.lastCompleted rfl) hfail inquiry.executor.runName
  obtain ⟨hproblem', _, hcounts'⟩ := concluded_left inquiry.executor.runName (.error f)
  refine ⟨g, _, _, hg, hrun, congrArg some hfault, hlast, ?_, ?_, ?_⟩
  · rw [hg.mirrored (hsolver ▸ fun _ => rfl) (.inl rfl), hproblem]
    rfl
  · exact (congrArg (·.get? "cost_count") (hcounts'.trans hcounts)).trans rfl
  · exact (congrArg (·.counts.get .cost) hproblem').trans (congrArg (·.get .cost) hcounted)

end Engine

end Minimize
