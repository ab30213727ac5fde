-- The pace of a run. Every step counts one iteration; the streak without
-- improvement goes up by one or back to nothing, so that the iteration is always
-- the last best one and the streak since.
import Minimize.Proofs.Course
import Minimize.Proofs.Iteration

namespace Minimize

variable {τ : Type}

/-! ## Bookkeeping -/

namespace Bookkeeping

/-- The streak counts the iterations since the last best one. -/
def Balanced (b : Bookkeeping τ) : Prop :=
  b.iteration = b.lastBestIteration + b.noImprovementStreak

/-- Recording a point balances the bookkeeping, if it was balanced one
iteration before or there was no best point yet. -/
theorem recorded_balanced {b b' : Bookkeeping τ} {param cost : Value} {improved : Bool}
    (h : b.recorded param cost = .ok (b', improved))
    (hb : b.hasBest = true → b.iteration = b.lastBestIteration + b.noImprovementStreak + 1) :
    b'.Balanced ∧ b'.hasBest = true := by
  rcases recorded_cases h with ⟨_, _, rfl⟩ | ⟨_, hbest, _, rfl⟩
  · exact ⟨(Int.add_zero b.iteration).symm, rfl⟩
  · refine ⟨?_, hbest⟩
    have hiteration := hb hbest
    show b.iteration = b.lastBestIteration + (b.noImprovementStreak + 1)
    omega

/-- A point that was recorded is the best one, or its cost is not below that of
the best. -/
theorem recorded_stands {b b' : Bookkeeping τ} {param cost : Value} {improved : Bool}
    (h : b.recorded param cost = .ok (b', improved)) :
    cost = b'.bestCost ∨ cost.less b'.bestCost = .ok false := by
  rcases recorded_cases h with ⟨_, _, rfl⟩ | ⟨_, _, hless, rfl⟩
  · exact .inl rfl
  · exact .inr hless

end Bookkeeping

variable [Clock τ]

namespace Engine

variable {g₀ g g' h : Engine τ} {past : List (State τ)} {started : τ}

/-! ## The solver of a run -/

/-- Something holds of the solver that a run works with, its own or that of the
snapshot that it goes on from. -/
structure WorksBy (P : Solver τ → Prop) (g₀ : Engine τ) : Prop where
  own : g₀.stored = .ok none → P g₀.executor.solver
  found : ∀ s, g₀.stored = .ok (some s) → P s.solver

/-- The solver of a run leaves the state alone when it is asked whether the run is
to stop. -/
def OnlyJudges (g₀ : Engine τ) : Prop := g₀.WorksBy Solver.OnlyJudges

variable {P : Solver τ → Prop}

omit [Clock τ] in
theorem WorksBy.fresh (hn : g₀.stored = .ok none) (hx : P g₀.executor.solver) :
    g₀.WorksBy P :=
  ⟨fun _ => hx, fun _ hs => nomatch hn.symm.trans hs⟩

omit [Clock τ] in
theorem WorksBy.resumed {s : Snapshot τ} (hs : g₀.stored = .ok (some s)) (hx : P s.solver) :
    g₀.WorksBy P := by
  constructor
  · intro hn
    cases hn.symm.trans hs
  · intro t ht
    cases hs.symm.trans ht
    exact hx

omit [Clock τ] in
theorem OnlyJudges.leavesIteration (hj : g₀.OnlyJudges) :
    g₀.WorksBy Solver.LeavesIteration :=
  ⟨fun hn => (hj.own hn).leavesIteration, fun s hs => (hj.found s hs).leavesIteration⟩

theorem iterate_solver {kind : CallKind} (h : g.iterate kind started = .ok g') :
    g'.executor.solver = g.executor.solver := by
  have hkeeps := iterate_keeps kind started g
  rw [h] at hkeeps
  exact hkeeps.solver

omit [Clock τ] in
theorem resume_solver (g : Engine τ) (s : Snapshot τ) :
    (g.resume s).executor.solver = s.solver := by
  unfold resume
  dsimp only
  split <;> rfl

theorem Course.works (hw : g₀.WorksBy P) (hc : g₀.Course past g) : P g.executor.solver := by
  induction hc with
  | start hs =>
    rcases start_ok hs with ⟨hn, hi⟩ | ⟨s, hn, rfl⟩
    · rw [iterate_solver hi]
      exact hw.own hn
    · rw [resume_solver]
      exact hw.found s hn
  | step _ _ hi ih =>
    rw [iterate_solver hi]
    exact ih

theorem ComesTo.works {kind : CallKind} (hw : g₀.WorksBy P) (hc : g₀.ComesTo kind past g) :
    P g.executor.solver := by
  cases hc with
  | opening hn => exact hw.own hn
  | step hc _ => exact hc.works hw

/-! ## The iterations of a run -/

/-- Every step of a run counts one iteration. -/
theorem Course.iteration {i : Int} (hw : h.WorksBy Solver.LeavesIteration)
    (hi : ∀ v, h.Course [] v → v.executor.state.book.iteration = i) {past : List (State τ)}
    (hc : h.Course past g) : g.executor.state.book.iteration = i + past.length := by
  induction hc with
  | start hs =>
    rw [hi _ (.start hs)]
    exact (Int.add_zero i).symm
  | @step past v w hc _ hit ih =>
    have hcounted := iterate_iteration (hc.works hw) hit
    rw [hcounted, List.length_append]
    show v.executor.state.book.iteration + 1 = _
    rw [ih, Int.add_assoc]
    rfl

/-- A run that starts by an opening starts at the iteration of its state. -/
theorem opening_iteration (hw : g₀.WorksBy Solver.LeavesIteration) (hn : g₀.stored = .ok none)
    (v : Engine τ) (hc : g₀.Course [] v) :
    v.executor.state.book.iteration = g₀.executor.state.book.iteration :=
  iterate_iteration (g := g₀.begun.settled) (hw.own hn) ((start_fresh hn _).symm.trans hc.begins)

theorem Course.keeps (hn : g₀.stored = .ok none) (hc : g₀.Course past g) :
    g.executor.solver = g₀.executor.solver ∧ g.executor.settings = g₀.executor.settings := by
  induction hc with
  | @start v hs =>
    rw [start_fresh hn] at hs
    have hkeeps := iterate_keeps .opening g₀.world.clock g₀.begun.settled
    rw [hs] at hkeeps
    exact ⟨hkeeps.solver, hkeeps.settings⟩
  | @step past v w _ _ hi ih =>
    have hkeeps := iterate_keeps .step g₀.world.clock v
    rw [hi] at hkeeps
    exact ⟨hkeeps.solver.trans ih.1, hkeeps.settings.trans ih.2⟩

/-- After every iteration of a run from nothing, the state has the counters of the
problem. -/
theorem Course.counts (hx : g₀.executor.solver.LeavesCounts) (hn : g₀.stored = .ok none)
    (hc : g₀.Course past g) :
    g.executor.state.counts = g.executor.problem.counts.toTable := by
  have hsolver := (hc.keeps hn).1
  obtain ⟨kind, v, _, hi⟩ := hc.comes hn
  obtain ⟨a, ha, hstands, _⟩ := iterate_ok hi
  rw [iterate_solver hi] at hsolver
  rw [hstands.state, hstands.problem]
  exact advance_counts (hsolver ▸ hx) ha

/-- A run from nothing has called the solver once to open and once for every
step, at one iteration after another. -/
theorem Course.calls (hj : g₀.OnlyJudges) (hn : g₀.stored = .ok none)
    (hi : g₀.executor.state.book.iteration = 0) (hc : g₀.Course past g) :
    g.world.calls = g₀.world.calls ++
      (.opening, 0) :: (List.range past.length).map fun n : Nat => (.step, (n : Int)) := by
  induction hc with
  | @start v hs =>
    rw [start_fresh hn] at hs
    have hcalls := iterate_calls .opening g₀.world.clock g₀.begun.settled
    have hbegun : g₀.begun.settled.world.calls = g₀.world.calls :=
      (World.note_follows g₀.world (e := .started g₀.executor.runName) (p := Event.NoCall)
        rfl).toGrows.calls
    have hiteration : g₀.begun.settled.executor.state.book.iteration = 0 := hi
    rw [hs, hbegun, hiteration] at hcalls
    exact hcalls
  | @step past v w hc _ hstep ih =>
    have hcalls : w.world.calls =
        v.world.calls ++ [(.step, v.executor.state.book.iteration)] := by
      have h := iterate_calls .step g₀.world.clock v
      rw [hstep] at h
      exact h
    rw [hcalls, ih, hc.iteration hj.leavesIteration (opening_iteration hj.leavesIteration hn), hi]
    simp [List.range_succ]

/-- A run has passed by every state before the one that it has come to, and it
was not terminated there. -/
theorem Course.passed (hc : h.Course past g) {n : Nat} {s : State τ} (hs : past[n]? = some s) :
    ∃ v, h.Course (past.take n) v ∧ v.executor.state = s ∧ s.terminated = false := by
  induction hc with
  | start _ => cases hs
  | @step past v w hc hr _ ih =>
    have hn := (List.getElem?_eq_some_iff.mp hs).1
    rw [List.length_append, List.length_singleton] at hn
    by_cases hlt : n < past.length
    · rw [List.getElem?_append_left hlt] at hs
      rw [List.take_append_of_le_length (Nat.le_of_lt hlt)]
      exact ih hs
    · obtain rfl : n = past.length := by omega
      rw [List.getElem?_concat_length] at hs
      cases hs
      rw [List.take_left]
      exact ⟨v, hc, rfl, hr⟩

/-- A run has gone on at every iteration before the one that it has come to. -/
theorem Course.earlier {past : List (State τ)} (hc : h.Course past g) {n : Nat}
    (hn : n < past.length) :
    ∃ past' v, h.Course past' v ∧ past'.length = n ∧ v.executor.state.terminated = false := by
  obtain ⟨v, hv, hs, hr⟩ := hc.passed (List.getElem?_eq_getElem hn)
  exact ⟨_, v, hv, List.length_take_of_le (Nat.le_of_lt hn), hs ▸ hr⟩

/-! ## The streak and the best cost -/

/-- After every iteration of a run from nothing, the bookkeeping is
balanced. -/
theorem Course.balanced (hj : g₀.OnlyJudges) (hn : g₀.stored = .ok none)
    (hb : g₀.executor.state.book.hasBest = false) (hc : g₀.Course past g) :
    g.executor.state.book.Balanced ∧ g.executor.state.book.hasBest = true := by
  induction hc with
  | start hs =>
    rw [start_fresh hn] at hs
    obtain ⟨elapsed, hr⟩ := iterate_book (g := g₀.begun.settled) (hj.own hn) hs
    refine Bookkeeping.recorded_balanced hr fun hbest => ?_
    have hbest' : (g₀.begun.settled.kept .opening).hasBest = true := hbest
    rw [kept_hasBest] at hbest'
    exact nomatch hb.symm.trans hbest'
  | @step past v w hc hr hi ih =>
    obtain ⟨elapsed, hrec⟩ := iterate_book (hc.works hj) hi
    refine Bookkeeping.recorded_balanced hrec fun _ => ?_
    show v.executor.state.book.iteration + 1 = _
    rw [kept_lastBestIteration, kept_noImprovementStreak]
    exact congrArg (· + 1) ih.1

/-- After every iteration of a run from nothing, the state has the best cost or
one that is not below it. -/
theorem Course.stands (hj : g₀.OnlyJudges) (hn : g₀.stored = .ok none) (hc : g₀.Course past g) :
    g.executor.state.cost = g.executor.state.book.bestCost ∨
      g.executor.state.cost.less g.executor.state.book.bestCost = .ok false := by
  obtain ⟨kind, v, hv, hi⟩ := hc.comes hn
  obtain ⟨elapsed, hr⟩ := iterate_book (hv.works hj) hi
  exact Bookkeeping.recorded_stands hr

end Engine

end Minimize
