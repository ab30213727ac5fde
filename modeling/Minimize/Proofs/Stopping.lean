-- Where a run stops. Every iteration is judged once, after its point was
-- recorded; the run goes on if no check has a word, and stops for the word of
-- the first one that has. As the iteration and the streak move by one and the
-- best cost only by a new best, the criteria are met exactly where it stops.
import Minimize.Proofs.Checks
import Minimize.Proofs.Order
import Minimize.Proofs.Pace
import Minimize.Proofs.Replay

namespace Minimize

variable {τ : Type}

/-! ## Targets -/

namespace Value

/-- A target as the costs are held against it: as it is, or in single
precision. -/
inductive SeenAs (t : Float) : Value → Prop
  | itself : SeenAs t (.float t)
  | single : SeenAs t (.cell (.single (Number.single t)))

/-- A cost of single precision is held against a target in single precision. -/
theorem atMost_single {x t : Float}
    (ht : Number.single (Number.single t) = Number.single t) :
    (Value.cell (.single x)).atMost (.float t) =
      (Value.cell (.single x)).atMost (.cell (.single (Number.single t))) := by
  unfold atMost
  rw [relates_of_operands rfl rfl, relates_of_operands rfl rfl]
  show Except.ok (Relation.atMost.onFloats (Number.single x) (Number.single t)) =
    .ok (Relation.atMost.onFloats (Number.single x) (Number.single (Number.single t)))
  rw [ht]

/-- A cost is held against a target as against the number that the target is
seen as. -/
theorem Commensurable.seen {t : Float} {w v : Value} {vs : List Value} (hw : SeenAs t w)
    (h : Commensurable (w :: vs)) (hv : v ∈ vs) : v.atMost (.float t) = v.atMost w := by
  have hmem : v ∈ w :: vs := List.mem_cons_of_mem w hv
  cases hw with
  | itself => rfl
  | single =>
    cases h with
    | plain h => cases h (.cell (.single (Number.single t))) (by simp)
    | double h =>
      obtain ⟨x, hx | hx, _⟩ := h (.cell (.single (Number.single t))) (by simp)
      · cases hx
      · cases hx
    | whole h =>
      obtain ⟨i, hi | ⟨u, hi⟩⟩ := h (.cell (.single (Number.single t))) (by simp)
      · cases hi
      · cases hi
    | single h =>
      obtain ⟨y, hy, hsingle, _⟩ := h (.cell (.single (Number.single t))) (by simp)
      obtain ⟨x, rfl, _, _⟩ := h v hmem
      cases hy
      exact atMost_single hsingle

/-- A cost that is not below the best, where the best is not at the target, is
above the target. -/
theorem Commensurable.below {t : Float} {w cost best : Value} (hw : SeenAs t w)
    (h : Commensurable [w, cost, best]) (hb : best.atMost (.float t) = .ok false)
    (hc : cost = best ∨ cost.less best = .ok false) : w.Below cost := by
  have hbest : best.atMost w = .ok false := (h.seen hw (by simp)).symm.trans hb
  obtain ⟨met, hmet, habove⟩ := (h.placed (a := best) (b := w) (by simp) (by simp)).atMost
  have hlow : w.Below best := habove.mp (Except.ok.inj (hmet.symm.trans hbest))
  rcases hc with rfl | hless
  · exact hlow
  · obtain ⟨better, hbetter, hbelow⟩ := (h.compares (a := cost) (b := best) (by simp) (by simp)).less
    obtain ⟨p, _, hp, _⟩ := h.compares (a := cost) (b := cost) (by simp) (by simp)
    have hnot : ¬ cost.Below best := by
      intro hlt
      rw [hbelow.mpr hlt] at hbetter
      cases hless.symm.trans hbetter
    exact hlow.trans_not hnot ⟨p, hp⟩

end Value

variable [Clock τ]

namespace Engine

variable {g₀ g u : Engine τ} {kind : CallKind} {past : List (State τ)}

/-! ## What is judged -/

/-- The engine at which a run judges the iteration of a number: the state that
the solver returned is taken over, and its point recorded. -/
def Judges (g₀ : Engine τ) (n : Nat) (v : Engine τ) : Prop :=
  ∃ kind past g record, g₀.ComesTo kind past g ∧ past.length = n ∧
    (g.enter kind).take kind g₀.world.clock = .ok (v, record)

def checks (g₀ : Engine τ) : List Check := g₀.executor.settings.criteria.checks

/-- What a check of a run says where the run stands at `v`. -/
def wordAt (g₀ v : Engine τ) : Check → Except Fault (Option Reason) :=
  g₀.executor.settings.criteria.word g₀.executor.solver.terminateEarly v.aborted v.executor.state

/-- In a run, the solver never terminates a state itself. -/
def LeavesOpen (g₀ : Engine τ) : Prop :=
  ∀ kind past g u r, g₀.ComesTo kind past g → (g.enter kind).consult kind = .ok (u, r) →
    r.state.terminated = false

theorem ComesTo.keeps (hn : g₀.stored = .ok none) (hc : g₀.ComesTo kind past g) :
    g.executor.solver = g₀.executor.solver ∧ g.executor.settings = g₀.executor.settings := by
  cases hc with
  | opening _ => exact ⟨rfl, rfl⟩
  | step hc _ => exact hc.keeps hn

/-- An iteration that succeeds has judged the state that it took over by the first
word of the checks, unless the solver had terminated it; a state that was judged is
left as the solver left it when it was asked, but for the status and the record. -/
theorem advance_judged {v : Engine τ} {started : τ} (ha : v.advance kind started = .ok g) :
    ∃ w record, (v.enter kind).take kind started = .ok (w, record) ∧
      ((w.executor.state.terminated = true ∧ g.executor.state.terminated = true) ∨
        (w.executor.state.terminated = false ∧ ∃ o,
          Check.first (v.executor.settings.criteria.word v.executor.solver.terminateEarly
            w.aborted w.executor.state) v.executor.settings.criteria.checks = .ok o ∧
          g.executor.state = { w.questioned with
            status := o.elim w.questioned.status fun r => ⟨some r⟩
            record := g.executor.state.record })) := by
  obtain ⟨w, record, x, ht, hj, hc⟩ := advance_ok ha
  obtain ⟨standard, _, hcompleted⟩ := complete_ok hc
  refine ⟨w, record, ht, ?_⟩
  rcases judge_cases hj with ⟨hover, rfl⟩ | ⟨hopen, o, hcheck, rfl⟩
  · refine .inl ⟨hover, ?_⟩
    rw [hcompleted]
    exact hover
  · rw [taken_solver ht, taken_settings ht, Criteria.checkTermination_eq] at hcheck
    refine .inr ⟨hopen, o, hcheck, ?_⟩
    rw [hcompleted]
    cases o <;> rfl

/-- Every state of a run that the solver leaves open was judged by the first word
of the checks, and stands as the solver left it when it was asked. -/
theorem Course.asked (hn : g₀.stored = .ok none) (hopen : g₀.LeavesOpen)
    (hcourse : g₀.Course past g) :
    ∃ v o, g₀.Judges past.length v ∧ v.executor.solver = g₀.executor.solver ∧
      v.executor.state.terminated = false ∧ Check.first (g₀.wordAt v) g₀.checks = .ok o ∧
      g.executor.state = { v.questioned with
        status := o.elim v.questioned.status fun r => ⟨some r⟩
        record := g.executor.state.record } := by
  obtain ⟨kind, e, hc, hi⟩ := hcourse.comes hn
  obtain ⟨u, ha, hu, _⟩ := iterate_ok hi
  obtain ⟨v, record, ht, hjudged⟩ := advance_judged ha
  have hleft : v.executor.state.terminated = false := by
    obtain ⟨x, r, hconsult, _, hrecorded, _⟩ := take_ok ht
    obtain ⟨b, _, hs⟩ := State.recordBest_ok hrecorded
    have hr := hopen kind past e x r hc hconsult
    rw [hs]
    cases kind <;> exact hr
  have hsolver : v.executor.solver = g₀.executor.solver := by
    rw [taken_solver ht, (hc.keeps hn).1]
  rcases hjudged with ⟨hover, _⟩ | ⟨_, o, hfirst, hstate⟩
  · cases hleft.symm.trans hover
  · rw [(hc.keeps hn).1, (hc.keeps hn).2] at hfirst
    rw [← hu.state] at hstate
    exact ⟨v, o, ⟨kind, past, e, record, hc, rfl, ht⟩, hsolver, hleft, hfirst, hstate⟩

theorem Course.judged (hx : g₀.executor.solver.OnlyJudges) (hn : g₀.stored = .ok none)
    (hopen : g₀.LeavesOpen) (hcourse : g₀.Course past g) :
    ∃ v o, g₀.Judges past.length v ∧ Check.first (g₀.wordAt v) g₀.checks = .ok o ∧
      g.executor.state =
        { v.executor.state with status := ⟨o⟩, record := g.executor.state.record } := by
  obtain ⟨v, o, hv, hsolver, hleft, hfirst, hstate⟩ := hcourse.asked hn hopen
  have hjudges : v.executor.solver.OnlyJudges := by
    rw [hsolver]
    exact hx
  have hrunning : v.executor.state.status = ⟨none⟩ := State.not_terminated_iff.mp hleft
  rw [questioned_same hjudges] at hstate
  refine ⟨v, o, hv, hfirst, hstate.trans ?_⟩
  cases o with
  | some r => rfl
  | none => rw [← hrunning]; rfl

/-! ## Where a run goes on, and where it is over -/

/-- Where a run goes on, every check was silent on the state that was judged. -/
theorem advance_silent {v : Engine τ} {started : τ} (ha : v.advance kind started = .ok g)
    (hr : g.executor.state.terminated = false) :
    ∃ w record, (v.enter kind).take kind started = .ok (w, record) ∧
      g.executor.state = { w.questioned with record := g.executor.state.record } ∧
      ∀ check ∈ v.executor.settings.criteria.checks,
        v.executor.settings.criteria.word v.executor.solver.terminateEarly w.aborted
          w.executor.state check = .ok none := by
  obtain ⟨w, record, ht, ⟨_, hover⟩ | ⟨_, o, hfirst, hstate⟩⟩ := advance_judged ha
  · cases hover.symm.trans hr
  · cases o with
    | some r =>
      rw [hstate] at hr
      cases hr
    | none => exact ⟨w, record, ht, hstate, Check.first_eq_none.mp hfirst⟩

theorem advance_below {v : Engine τ} {started : τ} (hx : v.executor.solver.LeavesIteration)
    {m : Nat} (hm : v.executor.settings.criteria.maxIters = some m)
    (ha : v.advance kind started = .ok g) (hr : g.executor.state.terminated = false) :
    g.executor.state.book.iteration < m := by
  obtain ⟨w, _, ht, hsame, hsilent⟩ := advance_silent ha hr
  have hleaves : w.executor.solver.LeavesIteration := by
    rw [taken_solver ht]
    exact hx
  rw [hsame]
  show w.questioned.book.iteration < m
  rw [questioned_iteration hleaves]
  exact (Criteria.quiet_of_words hsilent).iterations m hm

/-- A run goes on only from a state on which its criteria are quiet. -/
theorem advance_quiet {v : Engine τ} {started : τ} (hx : v.executor.solver.OnlyJudges)
    (ha : v.advance kind started = .ok g) (hr : g.executor.state.terminated = false) :
    v.executor.settings.criteria.Quiet g.executor.state := by
  obtain ⟨w, _, ht, hsame, hsilent⟩ := advance_silent ha hr
  have hjudges : w.executor.solver.OnlyJudges := by
    rw [taken_solver ht]
    exact hx
  have hquiet := Criteria.quiet_of_words hsilent
  rw [hsame, questioned_same hjudges]
  exact ⟨hquiet.iterations, hquiet.target, hquiet.streak, hquiet.budgets⟩

omit [Clock τ] in
/-- The end of a run leaves a terminated state as it is. -/
theorem concluded_terminated (name : String) {x : Attempt τ}
    (ht : x.left.executor.state.terminated = true) :
    (concluded name x).2.state = x.left.executor.state := by
  cases x with
  | ok v => rfl
  | error f =>
    have hmarked := (markFailed_state f.engine name f.fault).1
    have ht' : f.engine.executor.state.terminated = true := ht
    rw [if_pos ht'] at hmarked
    exact hmarked

theorem attempt_of_terminated (hc : g₀.ComesTo kind past u)
    (ha : u.advance kind g₀.world.clock = .ok g) (ht : g.executor.state.terminated = true) :
    ∃ x, g₀.begun.attempt past.length = some x ∧ x.left.executor.state = g.executor.state := by
  have hattempt := attempt_of_comesTo hc 0
  rw [Nat.add_zero, iterate_eq, ha] at hattempt
  have hstands := save_stands g false
  cases hs : g.save false with
  | error f =>
    rw [hs] at hstands
    refine ⟨.error f, ?_, hstands.state⟩
    rw [hattempt]
    simp only [Except.bind, hs]
  | ok v =>
    rw [hs] at hstands
    have hstate : v.dispatch.executor.state = g.executor.state := hstands.state
    have honward := onward_terminated g₀.world.clock 0 (hstate.symm ▸ ht)
    refine ⟨v.dispatch.save true, ?_, (save_stands v.dispatch true).state.trans hstate⟩
    rw [hattempt]
    simp only [Except.bind, hs]
    exact honward

/-- A run is over at the iteration that terminates its state. -/
theorem run_of_terminated (hp : g₀.executor.phase = .created) (hc : g₀.ComesTo kind past u)
    (ha : u.advance kind g₀.world.clock = .ok g) (ht : g.executor.state.terminated = true) :
    ∃ h o, g₀.run past.length = .ok (some (h, o)) ∧ o.state = g.executor.state := by
  obtain ⟨x, hx, hstate⟩ := attempt_of_terminated hc ha ht
  refine ⟨(concluded g₀.executor.runName x).1, (concluded g₀.executor.runName x).2, ?_,
    (concluded_terminated g₀.executor.runName (hstate.symm ▸ ht)).trans hstate⟩
  rw [run_created hp, hx]
  rfl

/-! ## Where the criteria are met -/

/-- The last state of a run has recorded its point: that of the opening in the
bookkeeping of the start, that of a step in the bookkeeping of the state
before. -/
theorem Course.last (hj : g₀.OnlyJudges) (hn : g₀.stored = .ok none) (hc : g₀.Course past g) :
    ∃ b : Bookkeeping τ, b.recorded g.executor.state.param g.executor.state.cost =
        .ok (g.executor.state.book, g.executor.improved) ∧
      ((past = [] ∧ b.hasBest = g₀.executor.state.book.hasBest) ∨
        ∃ s ∈ past, b.iteration = s.book.iteration + 1 ∧
          b.noImprovementStreak = s.book.noImprovementStreak ∧ b.bestCost = s.book.bestCost) := by
  cases hc with
  | start hs =>
    rw [start_fresh hn] at hs
    obtain ⟨elapsed, hr⟩ := iterate_book (g := g₀.begun.settled) (hj.own hn) hs
    exact ⟨_, hr, .inl ⟨rfl, kept_hasBest .opening g₀.begun.settled⟩⟩
  | @step past v _ hv _ hi =>
    obtain ⟨elapsed, hr⟩ := iterate_book (hv.works hj) hi
    exact ⟨_, hr, .inr ⟨v.executor.state, by simp, rfl, kept_noImprovementStreak .step v,
      kept_bestCost .step v⟩⟩

variable {c : Criteria}

/-- A run that was quiet before comes to its limit of iterations at that
limit. -/
theorem Course.at_limit (hj : g₀.OnlyJudges) (hn : g₀.stored = .ok none)
    (hi : g₀.executor.state.book.iteration = 0)
    (hc : g₀.Course past g) (hq : ∀ s ∈ past, c.Quiet s) {n : Nat} (hm : c.maxIters = some n)
    (hle : n ≤ g.executor.state.book.iteration) : n = past.length := by
  have hiteration := hc.iteration hj.leavesIteration (opening_iteration hj.leavesIteration hn)
  rw [hi, Int.zero_add] at hiteration
  obtain ⟨b, hr, ⟨rfl, _⟩ | ⟨s, hs, hb, _⟩⟩ := hc.last hj hn
  · rw [List.length_nil] at hiteration ⊢
    omega
  · have hbefore := (hq s hs).iterations n hm
    have hnow := Bookkeeping.recorded_iteration hr
    omega

/-- A run that was quiet before comes to its longest streak at that length. -/
theorem Course.at_streak (hj : g₀.OnlyJudges) (hn : g₀.stored = .ok none)
    (hb : g₀.executor.state.book.hasBest = false) (hc : g₀.Course past g)
    (hq : ∀ s ∈ past, c.Quiet s) {p : Period} (hp : c.noImprovementThreshold = some p)
    (hle : p.count ≤ g.executor.state.book.noImprovementStreak) :
    g.executor.state.book.noImprovementStreak = p.count := by
  have hpositive := p.positive
  obtain ⟨b, hr, hbefore⟩ := hc.last hj hn
  rcases Bookkeeping.recorded_cases hr with ⟨_, _, hbook⟩ | ⟨_, hbest, _, hbook⟩
  · have hzero : g.executor.state.book.noImprovementStreak = 0 := by
      rw [hbook]
      rfl
    omega
  · have hone : g.executor.state.book.noImprovementStreak = b.noImprovementStreak + 1 := by
      rw [hbook]
    rcases hbefore with ⟨_, hfirst⟩ | ⟨s, hs, _, hstreak, _⟩
    · rw [hfirst, hb] at hbest
      cases hbest
    · have hlow := (hq s hs).streak p hp
      omega

/-- A run that was quiet before comes to its target by a new best. -/
theorem Course.at_target (hj : g₀.OnlyJudges) (hn : g₀.stored = .ok none)
    (hb : g₀.executor.state.book.hasBest = false) (hc : g₀.Course past g)
    (hq : ∀ s ∈ past, c.Quiet s) {t : Float} (ht : c.targetCost = some t)
    (hmet : g.executor.state.book.bestCost.atMost (.float t) = .ok true) :
    g.executor.state.book.lastBestIteration = g.executor.state.book.iteration ∧
      g.executor.state.cost = g.executor.state.book.bestCost := by
  obtain ⟨b, hr, hbefore⟩ := hc.last hj hn
  rcases Bookkeeping.recorded_cases hr with ⟨_, _, hbook⟩ | ⟨_, hbest, _, hbook⟩
  · rw [hbook]
    exact ⟨rfl, rfl⟩
  · rcases hbefore with ⟨_, hfirst⟩ | ⟨s, hs, _, _, hcost⟩
    · rw [hfirst, hb] at hbest
      cases hbest
    · have hsame : g.executor.state.book.bestCost = s.book.bestCost := by
        rw [hbook, ← hcost]
      have hopen := (hq s hs).target t ht
      rw [hsame, hopen] at hmet
      cases hmet

/-! ## Stopping -/

/-- How a run stops for a reason, where `past` are the states at which it went
on: no check had a word on them, and of the checks of the last state the first
that had a word gave the reason. -/
structure Stops (g₀ : Engine τ) (past : List (State τ)) (last : State τ) (r : Reason) : Prop where
  running : ∀ s ∈ past, s.terminated = false
  silent : ∀ n s, past[n]? = some s → ∃ v, g₀.Judges n v ∧
    s = { v.executor.state with status := .running, record := s.record } ∧
    ∀ check ∈ g₀.checks, g₀.wordAt v check = .ok none
  spoken : ∃ v before check after, g₀.Judges past.length v ∧
    last = { v.executor.state with status := ⟨some r⟩, record := last.record } ∧
    g₀.checks = before ++ check :: after ∧
    (∀ d ∈ before, g₀.wordAt v d = .ok none) ∧ g₀.wordAt v check = .ok (some r)

/-- Where a run is when it stops: at the limit of iterations itself; at the
longest streak itself, that many iterations after the best; at the iteration
that brought the best cost to the target; or at the first budget that is spent,
of which none was before. -/
structure Meets (c : Criteria) (past : List (State τ)) (last : State τ) (r : Reason) :
    Prop where
  limit : r.kind = .maxItersReached → c.maxIters = some past.length
  streak : r.kind = .noImprovementStreak → ∃ p, c.noImprovementThreshold = some p ∧
    r.streak = some p.count ∧ last.book.noImprovementStreak = p.count ∧
    last.book.lastBestIteration = past.length - p.count
  target : r.kind = .targetCostReached → ∃ t, c.targetCost = some t ∧
    last.book.lastBestIteration = past.length ∧ last.cost = last.book.bestCost ∧
    last.book.bestCost.atMost (.float t) = .ok true ∧
    ∀ s ∈ past, s.book.bestCost.atMost (.float t) = .ok false ∧
      (s.cost = s.book.bestCost ∨ s.cost.less s.book.bestCost = .ok false) ∧
      ∀ w, Value.SeenAs t w → Value.Commensurable [w, s.cost, s.book.bestCost] → w.Below s.cost
  budget : r.kind = .evaluationBudgetExceeded → ∃ before counter limit after,
    c.maxEvaluations.entries = before ++ (counter, limit) :: after ∧ r.text = some counter ∧
    limit.count ≤ last.counted counter ∧ (∀ e ∈ before, last.counted e.1 < e.2.count) ∧
    ∀ s ∈ past, ∀ e ∈ c.maxEvaluations.entries, s.counted e.1 < e.2.count

theorem Stops.quiet {last : State τ} {r : Reason} (h : g₀.Stops past last r) :
    ∀ s ∈ past, g₀.executor.settings.criteria.Quiet s := by
  intro s hs
  obtain ⟨n, hn⟩ := List.getElem?_of_mem hs
  obtain ⟨v, _, hsame, hsilent⟩ := h.silent n s hn
  have hquiet := Criteria.quiet_of_words hsilent
  rw [hsame]
  exact ⟨hquiet.iterations, hquiet.target, hquiet.streak, hquiet.budgets⟩

theorem Course.stops (hx : g₀.executor.solver.OnlyJudges) (hn : g₀.stored = .ok none)
    (hopen : g₀.LeavesOpen) (hc : g₀.Course past g)
    (ht : g.executor.state.terminated = true) :
    ∃ r, g.executor.state.status = ⟨some r⟩ ∧ g₀.Stops past g.executor.state r := by
  obtain ⟨v, o, hv, hfirst, hstate⟩ := hc.judged hx hn hopen
  have hstatus := congrArg State.status hstate
  cases o with
  | none =>
    have hrunning := State.not_terminated_iff.mpr hstatus
    cases ht.symm.trans hrunning
  | some r =>
    refine ⟨r, hstatus, ?_, ?_, ?_⟩
    · intro s hs
      obtain ⟨n, hget⟩ := List.getElem?_of_mem hs
      obtain ⟨_, _, _, hr⟩ := hc.passed hget
      exact hr
    · intro n s hget
      obtain ⟨w, hw, rfl, hr⟩ := hc.passed hget
      obtain ⟨x, o', hx, hsilent, hsame⟩ := hw.judged hx hn hopen
      have hn : (past.take n).length = n := by
        have hlt := (List.getElem?_eq_some_iff.mp hget).1
        rw [List.length_take]
        omega
      have hnone : o' = none := by
        have hopened := State.not_terminated_iff.mp hr
        rw [hsame] at hopened
        exact congrArg Status.reason hopened
      rw [hn] at hx
      subst hnone
      exact ⟨x, hx, hsame, Check.first_eq_none.mp hsilent⟩
    · obtain ⟨before, check, after, hchecks, hbefore, hcheck⟩ := Check.first_eq_some hfirst
      exact ⟨v, before, check, after, hv, hstate, hchecks, hbefore, hcheck⟩

/-- A run that stops, where the solver gives no reason of the criteria, stops
exactly where they are met. -/
theorem Course.meets (hj : g₀.OnlyJudges) (hn : g₀.stored = .ok none)
    (hb : g₀.executor.state.book.hasBest = false)
    (hi : g₀.executor.state.book.iteration = 0)
    (hown : Criteria.Unclaimed g₀.executor.solver.terminateEarly) (hc : g₀.Course past g)
    {r : Reason} (hs : g₀.Stops past g.executor.state r) :
    Meets g₀.executor.settings.criteria past g.executor.state r := by
  have hquiet := hs.quiet
  have hiteration := hc.iteration hj.leavesIteration (opening_iteration hj.leavesIteration hn)
  rw [hi, Int.zero_add] at hiteration
  obtain ⟨v, before, check, after, _, hstate, hchecks, hbefore, hcheck⟩ := hs.spoken
  have hgrounds := Criteria.grounds_of_word hcheck
  have hbook : g.executor.state.book = v.executor.state.book := by
    rw [hstate]
  have hcounts (counter : String) :
      g.executor.state.counted counter = v.executor.state.counted counter := by
    rw [hstate]
    rfl
  refine ⟨?_, ?_, ?_, ?_⟩
  · intro hk
    obtain ⟨n, hm, hle⟩ := hgrounds.of_maxIters hown hk
    rw [← hbook] at hle
    rw [hm, hc.at_limit hj hn hi hquiet hm hle]
  · intro hk
    obtain ⟨p, hp, hstreak, hle⟩ := hgrounds.of_streak hown hk
    rw [← hbook] at hle
    have hexact := hc.at_streak hj hn hb hquiet hp hle
    have hbalanced := (hc.balanced hj hn hb).1
    unfold Bookkeeping.Balanced at hbalanced
    exact ⟨p, hp, hstreak, hexact, by omega⟩
  · intro hk
    obtain ⟨t, ht, hmet⟩ := hgrounds.of_target hown hk
    rw [← hbook] at hmet
    obtain ⟨hlast, hcost⟩ := hc.at_target hj hn hb hquiet ht hmet
    refine ⟨t, ht, hlast.trans hiteration, hcost, hmet, ?_⟩
    intro s hs
    obtain ⟨n, hget⟩ := List.getElem?_of_mem hs
    obtain ⟨w, hw, rfl, _⟩ := hc.passed hget
    have hlow := (hquiet _ hs).target t ht
    have hstands := hw.stands hj hn
    exact ⟨hlow, hstands, fun x hx hcomp => hcomp.below hx hlow hstands⟩
  · intro hk
    obtain ⟨counter, limit, rfl, htext, hle⟩ := hgrounds.of_budget hown hk
    obtain ⟨es, fs, hentries, hes⟩ := Criteria.checks_before hchecks
    refine ⟨es, counter, limit, fs, hentries, htext, ?_, ?_, fun s hs => (hquiet s hs).budgets⟩
    · rw [hcounts]
      exact hle
    · intro e he
      rw [hcounts]
      exact Criteria.budget_silent (hbefore _ (hes e he))

/-! ## Runs of a replay -/

section

variable {costs : List Value} {e : Engine Float} {m : CallKind}

/-- A solver that replays costs moves the state that it is given to one of them,
and does nothing else to it. -/
theorem returned_of_sequence (hx : e.executor.solver = Sample.sequence costs) {u : Engine Float}
    {r : Returned Float} (hc : e.consult m = .ok (u, r)) :
    ∃ c ∈ costs, r.state = { e.executor.state.movedTo c with cost := c } := by
  cases hn : Sample.nth costs (Sample.turn costs m e.executor.state.book.iteration) with
  | ok c =>
    obtain ⟨w, hw, _⟩ := consult_of_call (movesTo_of_sequence hx hn)
    cases hc.symm.trans hw
    exact ⟨c, Sample.mem_of_nth hn, rfl⟩
  | error f =>
    have hasked : (e.asked m).answer = .failed (.slip f) := by
      unfold asked
      dsimp only
      rw [call_of_sequence hx, hn]
      rfl
    unfold consult at hc
    dsimp only at hc
    rw [hasked] at hc
    cases hc

theorem sequence_leavesOpen (hx : e.executor.solver = Sample.sequence costs)
    (hn : e.stored = .ok none) (hr : e.executor.state.terminated = false) : e.LeavesOpen := by
  intro kind past v u r hc hconsult
  have hsolver : (v.enter kind).executor.solver = Sample.sequence costs := by
    have hv := (hc.keeps hn).1.trans hx
    cases kind <;> exact hv
  obtain ⟨c, _, hreturned⟩ := returned_of_sequence hsolver hconsult
  rw [hreturned, enter_state]
  cases hc with
  | opening _ => exact hr
  | step _ hv => exact hv

end

/-! ## The law -/

/-- A run stops at the first iteration that has to be its last, for the first reason.
The solver leaves the state alone when it is asked. If the run ends without an error,
and the solver terminates no state itself, then no check had a word at an earlier
iteration, and the reason is the first word at the last one; the solver was called to
open and then once for every state at which the run went on, none of which was
terminated. If, further, the solver gives no reason of the criteria, a limit, a streak,
a target and a budget are met exactly. -/
theorem a_run_stops_at_the_first_word (hx : g₀.executor.solver.OnlyJudges)
    (hp : g₀.executor.phase = .created) (hn : g₀.stored = .ok none)
    (hb : g₀.executor.state.book.hasBest = false)
    (hi : g₀.executor.state.book.iteration = 0) (hopen : g₀.LeavesOpen) {limit : Nat}
    {h : Engine τ} {o : Outcome τ} (hrun : g₀.run limit = .ok (some (h, o)))
    (he : o.error = none) :
    ∃ past r, o.reason? = some r ∧ o.iterations = past.length ∧ g₀.Stops past o.state r ∧
      h.world.calls = g₀.world.calls ++
        (.opening, 0) :: (List.range past.length).map (fun n : Nat => (.step, (n : Int))) ∧
      (Criteria.Unclaimed g₀.executor.solver.terminateEarly →
        Meets g₀.executor.settings.criteria past o.state r) := by
  have hj : g₀.OnlyJudges := .fresh hn hx
  obtain ⟨past, g, g', hc, ht, hsave, hclosed, hlast⟩ := run_over hp hrun he
  obtain ⟨r, hstatus, hstops⟩ := hc.stops hx hn hopen ht
  have hiteration := hc.iteration hj.leavesIteration (opening_iteration hj.leavesIteration hn)
  rw [hi, Int.zero_add] at hiteration
  have hlast' : o.state = g.executor.state := hlast
  have hcalls : h.world.calls = g.world.calls := by
    have hkeeps := save_keeps g true
    rw [hsave] at hkeeps
    have hend := concluded_calls g₀.executor.runName (.ok g')
    rw [← show (h, o) = concluded g₀.executor.runName (.ok g') from hclosed] at hend
    exact hend.trans hkeeps.world.calls
  refine ⟨past, r, ?_, ?_, hlast' ▸ hstops, hcalls.trans (hc.calls hj hn hi), fun hown => ?_⟩
  · rw [← hlast'] at hstatus
    exact congrArg Status.reason hstatus
  · rw [← hlast'] at hiteration
    exact hiteration
  · rw [hlast']
    exact hc.meets hj hn hb hi hown hstops

/-- The law for a replay of two iterations. -/
theorem a_replay_stops_at_its_limit :
    ∃ past h o, (underLimit (Sample.replay [true, false]) 2 none none (.start 0)).run 2 =
        .ok (some (h, o)) ∧ past.length = 2 ∧
      (underLimit (Sample.replay [true, false]) 2 none none (.start 0)).Stops past o.state
        .maxItersReached ∧
      Meets { Criteria.unset with maxIters := some 2 } past o.state .maxItersReached := by
  have hflags : [true, false] ≠ [] := List.cons_ne_nil _ _
  obtain ⟨⟨h, o⟩, hrun, herror, hits, hreason⟩ := a_replay_ends_at_its_limit hflags 2 (.start 0)
  obtain ⟨past, r, hr, hlength, hstops, _, hmeets⟩ :=
    a_run_stops_at_the_first_word (fun _ => rfl) rfl rfl rfl rfl
      (sequence_leavesOpen rfl rfl rfl) hrun herror
  have hsame : r = .maxItersReached := Option.some.inj (hr.symm.trans hreason)
  rw [hsame] at hstops hmeets
  have htwo : past.length = 2 := by
    have h2 : (past.length : Int) = 2 := hlength.symm.trans hits
    omega
  exact ⟨past, h, o, hrun, htwo, hstops, hmeets fun s r' hr' => nomatch hr'⟩

/-! ## Targets in another precision -/

/-- A number a little above two. In single precision it is two. -/
def nearTwo : Float := Number.ofQuotient false 200000001 100000000

/-- An engine with a target of two, whose solver replays a cost a little above
it, the target in single precision, and a cost below it. -/
def nearMiss : Engine Float where
  executor := { (underLimit (Sample.sequence [.float nearTwo, .cell (.single (Number.ofInt 2)),
      .float (Number.ofInt 1)]) 0 none none (.start 0)).executor with
    settings := ⟨{ Criteria.unset with targetCost := some (Number.ofInt 2) }, false, none⟩ }
  world := .start 0

/-- An engine that a run of that one comes to. -/
structure NearMisses (e : Engine Float) : Prop where
  solver : e.executor.solver = nearMiss.executor.solver
  settings : e.executor.settings = nearMiss.executor.settings
  signal : e.executor.signal = none
  saves : e.SavesGoOn e.executor.solver

/-- A cost is better than what an iteration came to if it is below the best. -/
theorem Reaches.betters {e : Engine Float} {i : Int} {cost best next : Value} {r : Option Reason}
    {better : Bool} (h : e.Reaches i cost best r) (hl : next.less best = .ok better) :
    e.executor.state.book.betters next = .ok better := by
  show (if e.executor.state.book.hasBest = true then _ else _) = _
  rw [if_pos h.hasBest, h.best]
  exact hl

/-- Under a target alone, a state is judged by its best cost. -/
theorem check_of_target {t : Float} {s : State Float} {met : Bool}
    (h : s.book.bestCost.atMost (.float t) = .ok met) :
    checkTermination { Criteria.unset with targetCost := some t } (some Sample.goOn) false s =
      .ok (if met then some .targetCostReached else none) := by
  have htarget : ({ Criteria.unset with targetCost := some t } : Criteria).targetIsMet
      s.book.bestCost = .ok met := h
  unfold checkTermination Criteria.firing
  rw [htarget]
  cases met <;> rfl

theorem NearMisses.iterate {e : Engine Float} (h : e.NearMisses) {kind : CallKind} {cost : Value}
    {better met : Bool} {x y : Float} (hrun : e.executor.state.status = .running)
    (hm : e.MovesTo kind cost) (hb : e.executor.state.book.betters cost = .ok better)
    (hcost : cost.toFloat = .ok x)
    (hbest : (if better then cost else e.executor.state.book.bestCost).toFloat = .ok y)
    (hmet : (if better then cost else e.executor.state.book.bestCost).atMost
      (.float (Number.ofInt 2)) = .ok met) :
    ∃ e', e.iterate kind 0 = .ok e' ∧ e'.NearMisses ∧
      e'.Reaches (kind.target e.executor.state.book.iteration) cost
        (if better then cost else e.executor.state.book.bestCost)
        (if met then some .targetCostReached else none) := by
  have hquiet : e.aborted = false := not_aborted h.signal
  have hcheck (s : State Float)
      (hs : s.book.bestCost = (if better then cost else e.executor.state.book.bestCost)) :
      checkTermination e.executor.settings.criteria (some e.executor.solver.terminateEarly)
        e.aborted s = .ok (if met then some .targetCostReached else none) := by
    rw [h.settings, h.solver, hquiet]
    exact check_of_target (hs ▸ hmet)
  have hjudges : e.executor.solver.OnlyJudges := by
    rw [h.solver]
    exact fun _ => rfl
  obtain ⟨e', he', hgo, hreaches⟩ :=
    hm.iterate hjudges hrun hb hcost hbest (fun s _ => hcheck s) h.saves 0
  have hkeeps := iterate_keeps kind 0 e
  rw [he'] at hkeeps
  exact ⟨e', he', ⟨hkeeps.solver.trans h.solver, hkeeps.settings.trans h.settings,
    hkeeps.signal.trans h.signal, hgo⟩, hreaches⟩

theorem nearTwo_above : (Value.float nearTwo).atMost (.float (Number.ofInt 2)) = .ok false := by
  show Except.ok (Number.atMost nearTwo (Number.ofInt 2)) = _
  rw [show Number.atMost nearTwo (Number.ofInt 2) = false by decide +kernel]

/-- The second cost of that run is not held to be below the first, and the run goes
on. -/
theorem nearMiss_goes_on : ∃ a b, nearMiss.Course [] a ∧ nearMiss.Course [a.executor.state] b ∧
    b.NearMisses ∧ a.Reaches 0 (.float nearTwo) (.float nearTwo) none ∧
    b.Reaches 1 (.cell (.single (Number.ofInt 2))) (.float nearTwo) none := by
  have hequal : (Value.cell (.single (Number.ofInt 2))).less (.float nearTwo) = .ok false := by
    rw [Value.less_of_operands rfl rfl]
    show Except.ok (Number.less (Number.single (Number.ofInt 2)) (Number.single nearTwo)) = _
    rw [show Number.less (Number.single (Number.ofInt 2)) (Number.single nearTwo) = false by
      decide +kernel]
  -- the opening is a little above the target
  have h₀ : nearMiss.begun.settled.NearMisses := ⟨rfl, rfl, rfl, fun _ hp => nomatch hp⟩
  have hm₀ : nearMiss.begun.settled.MovesTo .opening (.float nearTwo) :=
    movesTo_of_sequence h₀.solver rfl
  have hb₀ : nearMiss.begun.settled.executor.state.book.betters (.float nearTwo) = .ok true := rfl
  obtain ⟨a, ha, hna, hra⟩ := h₀.iterate rfl hm₀ hb₀ rfl rfl nearTwo_above
  -- the next cost is the target, but not a new best
  have hm₁ : a.MovesTo .step (.cell (.single (Number.ofInt 2))) :=
    movesTo_of_sequence hna.solver (by rw [hra.iteration]; rfl)
  obtain ⟨b, hb, hnb, hrb⟩ := hna.iterate hra.status hm₁ (hra.betters hequal) rfl
    (by rw [hra.best]; rfl) (by rw [hra.best]; exact nearTwo_above)
  rw [hra.best, hra.iteration] at hrb
  have hopening : nearMiss.Course [] a := .start ((start_fresh rfl _).trans ha)
  exact ⟨a, b, hopening, .step hopening (State.not_terminated_iff.mpr hra.status) hb, hnb, hra, hrb⟩

/-- A cost of single precision is not below a number that it is equal to in
single precision, and so it does not become the best. The run goes on, although
that cost was not above the target. -/
theorem a_cost_at_the_target_can_be_passed_by :
    ∃ past h o s, nearMiss.executor.state.terminated = false ∧ nearMiss.LeavesOpen ∧
      Criteria.Unclaimed nearMiss.executor.solver.terminateEarly ∧
      nearMiss.run 2 = .ok (some (h, o)) ∧ o.error = none ∧
      o.reason? = some .targetCostReached ∧ o.iterations = 2 ∧ past[1]? = some s ∧
      (∃ g, nearMiss.Course past g ∧ g.executor.state = o.state) ∧
      s.cost.atMost (.float (Number.ofInt 2)) = .ok true := by
  have hbelow : (Value.float (Number.ofInt 1)).less (.float nearTwo) = .ok true := by
    rw [Value.less_of_operands rfl rfl]
    show Except.ok (Number.less (Number.ofInt 1) nearTwo) = _
    rw [show Number.less (Number.ofInt 1) nearTwo = true by decide +kernel]
  have hmet : (Value.float (Number.ofInt 1)).atMost (.float (Number.ofInt 2)) = .ok true := by
    show Except.ok (Number.atMost (Number.ofInt 1) (Number.ofInt 2)) = _
    rw [show Number.atMost (Number.ofInt 1) (Number.ofInt 2) = true by decide +kernel]
  have hsingle : (Value.cell (.single (Number.ofInt 2))).atMost (.float (Number.ofInt 2)) =
      .ok true := by
    show Except.ok (Number.atMost (Number.single (Number.ofInt 2))
      (Number.single (Number.ofInt 2))) = _
    rw [show Number.atMost (Number.single (Number.ofInt 2)) (Number.single (Number.ofInt 2)) =
      true by decide +kernel]
  obtain ⟨a, b, _, hfirst, hnb, hra, hrb⟩ := nearMiss_goes_on
  -- the last cost is a new best, and it is below the target
  have hm₂ : b.MovesTo .step (.float (Number.ofInt 1)) :=
    movesTo_of_sequence hnb.solver (by rw [hrb.iteration]; rfl)
  obtain ⟨c, hc, hnc, hrc⟩ := hnb.iterate hrb.status hm₂ (hrb.betters hbelow) rfl rfl hmet
  have hsecond : nearMiss.Course [a.executor.state, b.executor.state] c :=
    .step hfirst (State.not_terminated_iff.mpr hrb.status) hc
  obtain ⟨d, hd, hstands, _, _⟩ := hnc.saves.save true
  have hrun := run_of_course rfl hsecond 0
  rw [onward_terminated _ _ (State.terminated_of_reason hrc.status), hd] at hrun
  have hiterations : d.executor.state.book.iteration = 2 := by
    rw [hstands.state, hrc.iteration, hrb.iteration]
    rfl
  refine ⟨_, _, _, b.executor.state, rfl, sequence_leavesOpen rfl rfl rfl, ?_, hrun, rfl, ?_,
    hiterations, rfl, ⟨c, hsecond, hstands.state.symm⟩, ?_⟩
  · intro s r hr
    cases hr
  · exact congrArg Status.reason ((congrArg State.status hstands.state).trans hrc.status)
  · rw [hrb.cost]
    exact hsingle

end Engine

end Minimize
