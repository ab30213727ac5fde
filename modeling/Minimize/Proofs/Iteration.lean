-- What one iteration does. The state that the solver gives back is taken over
-- behind the bookkeeping of the state before; its cost is then held against
-- the best so far. Nothing that comes after in the iteration moves the point,
-- the bookkeeping or the counters, if the solver only judges when it is asked
-- whether the run is to stop.
import Minimize.Proofs.Frame

namespace Minimize

theorem bind_ok {ε α β : Type} {x : Except ε α} {f : α → Except ε β} {b : β}
    (h : x.bind f = .ok b) : ∃ a, x = .ok a ∧ f a = .ok b := by
  cases x with
  | error e => cases h
  | ok a => exact ⟨a, rfl, h⟩

theorem map_ok {ε α β : Type} {x : Except ε α} {f : α → β} {b : β} (h : x.map f = .ok b) :
    ∃ a, x = .ok a ∧ f a = b := by
  cases x with
  | error e => cases h
  | ok a => exact ⟨a, rfl, Except.ok.inj h⟩

theorem bind_error {ε α β : Type} {x : Except ε α} {f : α → Except ε β} {e : ε}
    (h : x.bind f = .error e) : x = .error e ∨ ∃ a, x = .ok a ∧ f a = .error e := by
  cases x with
  | error e' =>
    cases h
    exact .inl rfl
  | ok a => exact .inr ⟨a, rfl, h⟩

variable {τ : Type} [Clock τ]

/-! ## Whether a state is terminated -/

omit [Clock τ] in
theorem State.not_terminated_iff {s : State τ} : s.terminated = false ↔ s.status = .running := by
  unfold State.terminated Status.terminated
  cases s.status with
  | mk r => cases r <;> simp [Status.running]

omit [Clock τ] in
theorem State.terminated_of_reason {s : State τ} {r : Reason} (h : s.status = ⟨some r⟩) :
    s.terminated = true := by
  unfold State.terminated
  rw [h]
  rfl

omit [Clock τ] in
theorem State.terminateWith_running {s : State τ} (h : s.status = .running) (r : Reason) :
    s.terminateWith r = .ok { s with status := ⟨some r⟩ } := by
  unfold State.terminateWith
  rw [h]
  rfl

omit [Clock τ] in
theorem State.terminateWith_ok {s s' : State τ} {r : Reason} (h : s.terminateWith r = .ok s') :
    s' = { s with status := ⟨some r⟩ } := by
  unfold State.terminateWith at h
  split at h
  · cases h
  · exact (Except.ok.inj h).symm

/-! ## What a solver may reach -/

omit [Clock τ] in
/-- The solver leaves the state alone when it is asked whether a run is to
stop. -/
def Solver.OnlyJudges (x : Solver τ) : Prop := ∀ s, x.revised s = s

omit [Clock τ] in
/-- The solver leaves the counters of the state alone when it is asked whether a
run is to stop. -/
def Solver.LeavesCounts (x : Solver τ) : Prop := ∀ s, (x.revised s).counts = s.counts

omit [Clock τ] in
/-- The solver leaves the iteration of the state alone when it is asked whether a
run is to stop. -/
def Solver.LeavesIteration (x : Solver τ) : Prop :=
  ∀ s, (x.revised s).book.iteration = s.book.iteration

omit [Clock τ] in
theorem Solver.OnlyJudges.leavesCounts {x : Solver τ} (h : x.OnlyJudges) : x.LeavesCounts :=
  fun s => by rw [h s]

omit [Clock τ] in
theorem Solver.OnlyJudges.leavesIteration {x : Solver τ} (h : x.OnlyJudges) :
    x.LeavesIteration := fun s => by rw [h s]

omit [Clock τ] in
/-- Whether a change in place leaves the best points that are kept alone. -/
def Change.SparesBest : Change → Prop
  | .best _ => False
  | .previousBest _ => False
  | _ => True

/-- No call of the solver changes the best points that are kept in place. -/
def Solver.LeavesBest (x : Solver τ) : Prop :=
  ∀ kind s p (w : World τ), ∀ c ∈ ((x.call kind s).run p w).changes, c.SparesBest

namespace Bookkeeping

omit [Clock τ] in
/-- Changes in place reach the points that are kept, and nothing else of the
bookkeeping. -/
theorem afterAll_eq (b : Bookkeeping τ) (cs : List Change) :
    b.afterAll cs = { b with
      bestParam := (b.afterAll cs).bestParam
      prevBestParam := (b.afterAll cs).prevBestParam } := by
  induction cs generalizing b with
  | nil => rfl
  | cons c cs ih =>
    have hrest := ih (b.after c)
    cases c <;> exact hrest

omit [Clock τ] in
theorem after_of_sparesBest {b : Bookkeeping τ} {c : Change} (h : c.SparesBest) :
    b.after c = b := by
  cases c with
  | best v => exact h.elim
  | previousBest v => exact h.elim
  | _ => rfl

omit [Clock τ] in
theorem afterAll_cons_of_sparesBest {b : Bookkeeping τ} {c : Change} {cs : List Change}
    (h : c.SparesBest) : b.afterAll (c :: cs) = b.afterAll cs :=
  congrArg (afterAll · cs) (after_of_sparesBest h)

omit [Clock τ] in
theorem afterAll_of_sparesBest {b : Bookkeeping τ} {cs : List Change}
    (h : ∀ c ∈ cs, c.SparesBest) : b.afterAll cs = b := by
  induction cs with
  | nil => rfl
  | cons c cs ih =>
    rw [afterAll_cons_of_sparesBest (h c List.mem_cons_self)]
    exact ih fun d hd => h d (List.mem_cons_of_mem c hd)

end Bookkeeping

namespace Engine

variable (kind : CallKind) (g : Engine τ)

@[simp] theorem kept_bestCost : (g.kept kind).bestCost = g.executor.state.book.bestCost := by
  unfold kept
  rw [Bookkeeping.afterAll_eq]

@[simp] theorem kept_hasBest : (g.kept kind).hasBest = g.executor.state.book.hasBest := by
  unfold kept
  rw [Bookkeeping.afterAll_eq]

@[simp] theorem kept_lastBestIteration :
    (g.kept kind).lastBestIteration = g.executor.state.book.lastBestIteration := by
  unfold kept
  rw [Bookkeeping.afterAll_eq]

@[simp] theorem kept_noImprovementStreak :
    (g.kept kind).noImprovementStreak = g.executor.state.book.noImprovementStreak := by
  unfold kept
  rw [Bookkeeping.afterAll_eq]

variable {kind g}

theorem kept_of_leavesBest (h : g.executor.solver.LeavesBest) :
    g.kept kind = g.executor.state.book :=
  Bookkeeping.afterAll_of_sparesBest (h kind _ _ _)

end Engine

/-! ## Keeping the best point -/

omit [Clock τ] in
/-- Recording puts the bookkeeping of a state right and leaves the rest. -/
theorem State.recordBest_ok {s s' : State τ} {improved : Bool}
    (h : s.recordBest = .ok (s', improved)) :
    ∃ b, s.book.recorded s.param s.cost = .ok (b, improved) ∧ s' = s.restore b := by
  unfold State.recordBest at h
  cases hr : s.book.recorded s.param s.cost with
  | error e =>
    rw [hr] at h
    cases h
  | ok r =>
    rw [hr] at h
    obtain ⟨b, i⟩ := r
    cases h
    exact ⟨b, rfl, rfl⟩

omit [Clock τ] in
/-- A cost that cannot be held against the best so far is not recorded. -/
theorem State.recordBest_uncomparable {s : State τ} {e : Slip} (hb : s.book.hasBest = true)
    (hl : s.cost.less s.book.bestCost = .error e) : s.recordBest = .error e := by
  unfold State.recordBest Bookkeeping.recorded Bookkeeping.betters
  rw [hb]
  show (Except.bind (s.cost.less s.book.bestCost) _).map _ = _
  rw [hl]
  rfl

namespace Bookkeeping

omit [Clock τ] in
/-- The first cost that is recorded always counts. -/
theorem recorded_first {b : Bookkeeping τ} (h : b.hasBest = false) (param cost : Value) :
    b.recorded param cost = .ok (b.improved param cost, true) := by
  unfold recorded betters
  rw [h]
  rfl

omit [Clock τ] in
/-- A point is recorded according to whether its cost is better. -/
theorem recorded_of_betters {b : Bookkeeping τ} {cost : Value} {better : Bool}
    (h : b.betters cost = .ok better) (param : Value) :
    b.recorded param cost = .ok (if better then (b.improved param cost, true)
      else ({ b with noImprovementStreak := b.noImprovementStreak + 1 }, false)) := by
  unfold recorded
  rw [h]
  cases better <;> rfl

omit [Clock τ] in
/-- A later cost counts if it is lower than the best so far. -/
theorem recorded_later {b : Bookkeeping τ} (h : b.hasBest = true) (param : Value) {cost : Value}
    {better : Bool} (hl : cost.less b.bestCost = .ok better) :
    b.recorded param cost = .ok (if better then (b.improved param cost, true)
      else ({ b with noImprovementStreak := b.noImprovementStreak + 1 }, false)) := by
  refine recorded_of_betters ?_ param
  unfold betters
  rw [h]
  exact hl

omit [Clock τ] in
/-- What recording a point comes to: it is the new best, or it is not, and the
streak goes on. -/
theorem recorded_cases {b b' : Bookkeeping τ} {param cost : Value} {improved : Bool}
    (h : b.recorded param cost = .ok (b', improved)) :
    (improved = true ∧ (b.hasBest = true → cost.less b.bestCost = .ok true) ∧
      b' = b.improved param cost) ∨
    (improved = false ∧ b.hasBest = true ∧ cost.less b.bestCost = .ok false ∧
      b' = { b with noImprovementStreak := b.noImprovementStreak + 1 }) := by
  rcases Bool.eq_false_or_eq_true b.hasBest with hb | hb
  · cases hl : cost.less b.bestCost with
    | error e =>
      unfold recorded betters at h
      rw [hb, hl] at h
      cases h
    | ok better =>
      rw [recorded_later hb param hl] at h
      cases better with
      | true =>
        cases h
        exact .inl ⟨rfl, fun _ => rfl, rfl⟩
      | false =>
        cases h
        exact .inr ⟨rfl, hb, rfl, rfl⟩
  · rw [recorded_first hb] at h
    cases h
    exact .inl ⟨rfl, fun hn => absurd (hb.symm.trans hn) Bool.false_ne_true, rfl⟩

omit [Clock τ] in
/-- Recording a point does not move the iteration. -/
theorem recorded_iteration {b b' : Bookkeeping τ} {param cost : Value} {improved : Bool}
    (h : b.recorded param cost = .ok (b', improved)) : b'.iteration = b.iteration := by
  rcases recorded_cases h with ⟨_, _, rfl⟩ | ⟨_, _, _, rfl⟩
  · rfl
  · rfl

end Bookkeeping

/-! ## The parts of an iteration -/

namespace Engine

variable {g g' : Engine τ} {kind : CallKind} {started : τ}

omit [Clock τ] in
theorem enter_state (kind : CallKind) (g : Engine τ) :
    (g.enter kind).executor.state = g.executor.state := by cases kind <;> rfl

omit [Clock τ] in
theorem enter_solver (kind : CallKind) (g : Engine τ) :
    (g.enter kind).executor.solver = g.executor.solver := by cases kind <;> rfl

theorem enter_asked (kind : CallKind) (g : Engine τ) :
    (g.enter kind).asked kind = g.asked kind := by cases kind <;> rfl

theorem merge_ok {r : Returned τ} {book : Bookkeeping τ} {i : Int}
    (h : g.merge r book i started = .ok g') :
    (g.carried r.state book i started).recordBest =
      .ok (g'.executor.state, g'.executor.improved) ∧
      g'.executor.problem = g.executor.problem := by
  unfold merge at h
  dsimp only at h
  split at h
  · cases h
  · rename_i s improved hr
    cases h
    refine ⟨?_, ?_⟩
    · rw [hr]
      cases r.inPlace <;> rfl
    · cases r.inPlace <;> rfl

theorem take_ok {record : Option Record} (h : g.take kind started = .ok (g', record)) :
    ∃ u r, g.consult kind = .ok (u, r) ∧ record = r.record ∧
      (u.carried (r.placed kind g.executor.state).state (g.kept kind)
        (kind.target g.executor.state.book.iteration) started).recordBest =
          .ok (g'.executor.state, g'.executor.improved) ∧
      g'.executor.problem = u.executor.problem := by
  obtain ⟨⟨u, r⟩, hc, h⟩ := bind_ok h
  obtain ⟨v, hm, h⟩ := bind_ok h
  cases h
  have hmerge := merge_ok hm
  exact ⟨u, r, hc, rfl, hmerge.1, hmerge.2⟩

theorem questioned_cases (g : Engine τ) :
    g.questioned = g.executor.solver.revised g.executor.state ∨
      g.questioned = g.executor.state := by
  unfold questioned
  dsimp only
  split
  · exact .inl rfl
  · exact .inr rfl

/-- A solver that only judges leaves the state as it is. -/
theorem questioned_same (hx : g.executor.solver.OnlyJudges) : g.questioned = g.executor.state := by
  rcases questioned_cases g with h | h
  · exact h.trans (hx _)
  · exact h

theorem questioned_counts (hx : g.executor.solver.LeavesCounts) :
    g.questioned.counts = g.executor.state.counts := by
  rcases questioned_cases g with h | h
  · rw [h]
    exact hx _
  · rw [h]

theorem questioned_iteration (hx : g.executor.solver.LeavesIteration) :
    g.questioned.book.iteration = g.executor.state.book.iteration := by
  rcases questioned_cases g with h | h
  · rw [h]
    exact hx _
  · rw [h]

/-- What judging does. A state that is not terminated yet is left as the check
leaves it, and is terminated if a criterion or the solver ends it. -/
theorem judge_cases (h : g.judge = .ok g') :
    (g.executor.state.terminated = true ∧ g' = g) ∨
    (g.executor.state.terminated = false ∧ ∃ o,
      checkTermination g.executor.settings.criteria (some g.executor.solver.terminateEarly)
        g.aborted g.executor.state = .ok o ∧
      g' = match o with
        | none => g.withState g.questioned
        | some r => g.withState { g.questioned with status := ⟨some r⟩ }) := by
  unfold judge at h
  dsimp only at h
  split at h
  · rename_i ht
    cases h
    exact .inl ⟨ht, rfl⟩
  · rename_i ht
    refine .inr ⟨Bool.not_eq_true _ ▸ ht, ?_⟩
    split at h
    · cases h
    · rename_i hc
      cases h
      exact ⟨none, hc, rfl⟩
    · rename_i r hc
      split at h
      · cases h
      · rename_i s hs
        cases h
        exact ⟨some r, hc, by rw [State.terminateWith_ok hs]⟩

/-- Where the solver only judges, judging changes nothing but the status, and
that only of a state that is not terminated yet and that a criterion ends. -/
theorem judge_ok (hx : g.executor.solver.OnlyJudges) (h : g.judge = .ok g') :
    (g.executor.state.terminated = true ∧ g' = g) ∨
    (g.executor.state.terminated = false ∧ ∃ o,
      checkTermination g.executor.settings.criteria (some g.executor.solver.terminateEarly)
        g.aborted g.executor.state = .ok o ∧
      g' = match o with
        | none => g
        | some r => g.withState { g.executor.state with status := ⟨some r⟩ }) := by
  have hcases := judge_cases h
  rw [questioned_same hx] at hcases
  exact hcases

theorem judge_of_terminated (hr : g.executor.state.terminated = true) : g.judge = .ok g := by
  unfold judge
  simp only [hr, if_true]

/-- A state that is not terminated is judged by the check of the termination. -/
theorem judge_of_check (hx : g.executor.solver.OnlyJudges) {o : Option Reason}
    (hr : g.executor.state.terminated = false)
    (hc : checkTermination g.executor.settings.criteria (some g.executor.solver.terminateEarly)
      g.aborted g.executor.state = .ok o) :
    g.judge = .ok (g.withState { g.executor.state with status := ⟨o⟩ }) := by
  have hrunning := State.not_terminated_iff.mp hr
  unfold judge
  dsimp only
  rw [hr, hc, questioned_same hx]
  cases o with
  | some r =>
    dsimp only
    rw [State.terminateWith_running hrunning]
    rfl
  | none =>
    rw [show (⟨none⟩ : Status) = g.executor.state.status from hrunning.symm]
    rfl

/-- A state for which no criterion fires, and of which the solver says nothing, goes
on as the solver leaves it. -/
theorem judge_of_silence (hr : g.executor.state.status = .running)
    (hf : g.executor.settings.criteria.firing g.aborted g.executor.state = .ok none)
    (hs : g.executor.solver.terminateEarly g.executor.state = .ok none) :
    g.judge = .ok (g.withState (g.executor.solver.revised g.executor.state)) := by
  have hquestioned : g.questioned = g.executor.solver.revised g.executor.state := by
    unfold questioned
    dsimp only
    rw [hf]
  unfold judge checkTermination
  dsimp only
  rw [State.not_terminated_iff.mpr hr, hf, hquestioned]
  dsimp only
  rw [hs]
  rfl

/-- What judging leaves as it is. -/
theorem judge_same (hx : g.executor.solver.OnlyJudges) (h : g.judge = .ok g') :
    ∃ status, g' = g.withState { g.executor.state with status := status } := by
  rcases judge_ok hx h with ⟨_, hg⟩ | ⟨_, o, _, hg⟩
  · exact ⟨g.executor.state.status, hg⟩
  · cases o with
    | none => exact ⟨g.executor.state.status, hg⟩
    | some r => exact ⟨⟨some r⟩, hg⟩

theorem judge_counts (hx : g.executor.solver.LeavesCounts) (h : g.judge = .ok g') :
    g'.executor.state.counts = g.executor.state.counts ∧
      g'.executor.problem = g.executor.problem := by
  rcases judge_cases h with ⟨_, rfl⟩ | ⟨_, o, _, rfl⟩
  · exact ⟨rfl, rfl⟩
  · cases o with
    | none => exact ⟨questioned_counts hx, rfl⟩
    | some r => exact ⟨questioned_counts hx, rfl⟩

theorem judge_iteration (hx : g.executor.solver.LeavesIteration) (h : g.judge = .ok g') :
    g'.executor.state.book.iteration = g.executor.state.book.iteration := by
  rcases judge_cases h with ⟨_, rfl⟩ | ⟨_, o, _, rfl⟩
  · rfl
  · cases o with
    | none => exact questioned_iteration hx
    | some r => exact questioned_iteration hx

theorem complete_ok {record : Option Record} (h : g.complete record = .ok g') :
    ∃ standard, g.executor.state.summary = .ok standard ∧
      g'.executor = { g.executor with state := { g.executor.state with
        record := fullRecord standard record g.executor.state.status } } := by
  unfold complete at h
  dsimp only at h
  split at h
  · cases h
  · rename_i standard hs
    cases h
    exact ⟨standard, hs, rfl⟩

theorem iterate_eq (kind : CallKind) (started : τ) (g : Engine τ) :
    g.iterate kind started = (g.advance kind started).bind fun u =>
      (u.save false).bind fun v => .ok v.dispatch := rfl

theorem iterate_ok (h : g.iterate kind started = .ok g') :
    ∃ u, g.advance kind started = .ok u ∧ u.Stands g' ∧ u.Keeps g' := by
  rw [iterate_eq] at h
  obtain ⟨u, ha, h⟩ := bind_ok h
  obtain ⟨v, hv, h⟩ := bind_ok h
  have hs := save_stands u false
  have hk := save_keeps u false
  rw [hv] at hs hk
  cases h
  exact ⟨u, ha, ⟨hs.state, hs.problem, hs.improved⟩, hk.trans (dispatch_stays v).toKeeps⟩

theorem advance_ok (h : g.advance kind started = .ok g') :
    ∃ u record v, (g.enter kind).take kind started = .ok (u, record) ∧ u.judge = .ok v ∧
      v.complete record = .ok g' := by
  obtain ⟨⟨u, record⟩, ht, h⟩ := bind_ok h
  obtain ⟨v, hj, hc⟩ := bind_ok h
  exact ⟨u, record, v, ht, hj, hc⟩

/-- The counters of a state that was taken over are those of the problem. -/
theorem take_counts {record : Option Record} (h : g.take kind started = .ok (g', record)) :
    g'.executor.state.counts = g'.executor.problem.counts.toTable := by
  obtain ⟨u, r, _, _, hrecord, hproblem⟩ := take_ok h
  obtain ⟨b, _, hs⟩ := State.recordBest_ok hrecord
  rw [hs, hproblem]
  rfl

theorem taken_keeps {record : Option Record}
    (h : (g.enter kind).take kind started = .ok (g', record)) :
    g'.executor.solver = g.executor.solver ∧ g'.executor.settings = g.executor.settings ∧
      g'.executor.signal = g.executor.signal := by
  have hs := take_stays kind started (g.enter kind)
  rw [h] at hs
  cases kind <;> exact ⟨hs.solver, hs.settings, hs.signal⟩

theorem taken_solver {record : Option Record}
    (h : (g.enter kind).take kind started = .ok (g', record)) :
    g'.executor.solver = g.executor.solver := (taken_keeps h).1

theorem taken_settings {record : Option Record}
    (h : (g.enter kind).take kind started = .ok (g', record)) :
    g'.executor.settings = g.executor.settings := (taken_keeps h).2.1

theorem taken_signal {record : Option Record}
    (h : (g.enter kind).take kind started = .ok (g', record)) :
    g'.executor.signal = g.executor.signal := (taken_keeps h).2.2

/-- A state that was taken over has recorded its point and its cost at the next
iteration, behind what is kept of the state before. -/
theorem take_book {record : Option Record} (h : g.take kind started = .ok (g', record)) :
    ∃ elapsed, ({ g.kept kind with
        iteration := kind.target g.executor.state.book.iteration
        elapsed := elapsed } : Bookkeeping τ).recorded
      g'.executor.state.param g'.executor.state.cost =
        .ok (g'.executor.state.book, g'.executor.improved) := by
  obtain ⟨u, r, _, _, hrecord, _⟩ := take_ok h
  obtain ⟨b, hb, hs⟩ := State.recordBest_ok hrecord
  rw [hs]
  exact ⟨u.elapsed (g.kept kind).elapsed started, hb⟩

theorem enter_kept (kind : CallKind) (g : Engine τ) : (g.enter kind).kept kind = g.kept kind := by
  unfold kept
  rw [enter_state, enter_asked]

/-- A completed iteration is left at the state that was taken over, but for the
status and the record. -/
theorem advance_took (hx : g.executor.solver.OnlyJudges) (h : g.advance kind started = .ok g') :
    ∃ u record status r, (g.enter kind).take kind started = .ok (u, record) ∧
      g'.executor = { u.executor with
        state := { u.executor.state with status := status, record := r } } := by
  obtain ⟨u, record, v, ht, hj, hc⟩ := advance_ok h
  obtain ⟨_, _, he⟩ := complete_ok hc
  have hu : u.executor.solver.OnlyJudges := by
    rw [taken_solver ht]
    exact hx
  obtain ⟨status, rfl⟩ := judge_same hu hj
  exact ⟨u, record, status, _, ht, he⟩

theorem advance_counts (hx : g.executor.solver.LeavesCounts)
    (h : g.advance kind started = .ok g') :
    g'.executor.state.counts = g'.executor.problem.counts.toTable := by
  obtain ⟨u, record, v, ht, hj, hc⟩ := advance_ok h
  obtain ⟨_, _, he⟩ := complete_ok hc
  have hu : u.executor.solver.LeavesCounts := by
    rw [taken_solver ht]
    exact hx
  obtain ⟨hcounts, hproblem⟩ := judge_counts hu hj
  rw [he]
  show v.executor.state.counts = v.executor.problem.counts.toTable
  rw [hcounts, hproblem]
  exact take_counts ht

/-- A completed iteration has recorded the point and the cost of its state at
the next iteration. -/
theorem advance_book (hx : g.executor.solver.OnlyJudges) (h : g.advance kind started = .ok g') :
    ∃ elapsed, ({ g.kept kind with
        iteration := kind.target g.executor.state.book.iteration
        elapsed := elapsed } : Bookkeeping τ).recorded
      g'.executor.state.param g'.executor.state.cost =
        .ok (g'.executor.state.book, g'.executor.improved) := by
  obtain ⟨u, record, status, r, ht, he⟩ := advance_took hx h
  have hbook := take_book ht
  rw [enter_state, enter_kept] at hbook
  rw [he]
  exact hbook

/-- An iteration is counted. -/
theorem advance_iteration (hx : g.executor.solver.LeavesIteration)
    (h : g.advance kind started = .ok g') :
    g'.executor.state.book.iteration = kind.target g.executor.state.book.iteration := by
  obtain ⟨u, record, v, ht, hj, hc⟩ := advance_ok h
  obtain ⟨_, _, he⟩ := complete_ok hc
  obtain ⟨elapsed, hr⟩ := take_book ht
  have hu : u.executor.solver.LeavesIteration := by
    rw [taken_solver ht]
    exact hx
  rw [he]
  show v.executor.state.book.iteration = _
  rw [judge_iteration hu hj, Bookkeeping.recorded_iteration hr, enter_state]

theorem iterate_book (hx : g.executor.solver.OnlyJudges) (h : g.iterate kind started = .ok g') :
    ∃ elapsed, ({ g.kept kind with
        iteration := kind.target g.executor.state.book.iteration
        elapsed := elapsed } : Bookkeeping τ).recorded
      g'.executor.state.param g'.executor.state.cost =
        .ok (g'.executor.state.book, g'.executor.improved) := by
  obtain ⟨u, ha, hs, _⟩ := iterate_ok h
  rw [hs.state, hs.improved]
  exact advance_book hx ha

theorem iterate_iteration (hx : g.executor.solver.LeavesIteration)
    (h : g.iterate kind started = .ok g') :
    g'.executor.state.book.iteration = kind.target g.executor.state.book.iteration := by
  obtain ⟨u, ha, hs, _⟩ := iterate_ok h
  rw [hs.state]
  exact advance_iteration hx ha

/-- A state that was taken over and judged completes its iteration if it has a
summary. -/
theorem advance_of_judge {u v : Engine τ} {record : Option Record} {standard : Record}
    (ht : (g.enter kind).take kind started = .ok (u, record)) (hj : u.judge = .ok v)
    (hs : v.executor.state.summary = .ok standard) :
    ∃ g', g.advance kind started = .ok g' ∧
      g'.executor = { v.executor with state := { v.executor.state with
        record := fullRecord standard record v.executor.state.status } } := by
  unfold advance
  rw [ht]
  dsimp only [bind, Except.bind]
  rw [hj]
  dsimp only
  unfold complete
  dsimp only
  rw [hs]
  exact ⟨_, rfl, rfl⟩

/-- A state that was taken over completes its iteration if it can be judged and
has a summary. -/
theorem advance_of_take (hx : g.executor.solver.OnlyJudges) {u : Engine τ}
    {record : Option Record} {o : Option Reason}
    {standard : Record} (ht : (g.enter kind).take kind started = .ok (u, record))
    (hrun : u.executor.state.status = .running)
    (hcheck : checkTermination u.executor.settings.criteria (some u.executor.solver.terminateEarly)
      u.aborted u.executor.state = .ok o) (hs : u.executor.state.summary = .ok standard) :
    ∃ g', g.advance kind started = .ok g' ∧
      g'.executor = { u.executor with state := { u.executor.state with
        status := ⟨o⟩, record := fullRecord standard record ⟨o⟩ } } := by
  have hu : u.executor.solver.OnlyJudges := by
    rw [taken_solver ht]
    exact hx
  exact advance_of_judge ht (judge_of_check hu (State.not_terminated_iff.mpr hrun) hcheck) hs

end Engine

end Minimize
