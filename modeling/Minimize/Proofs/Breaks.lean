-- What breaks a run off. An iteration breaks off by a call that fails, a cost
-- that cannot be compared, a check or a record that fails, or a save that must
-- not fail; each leaves the engine at a state of its own. Nothing else ends a
-- run with an error.
import Minimize.Proofs.Account
import Minimize.Proofs.Rollback

namespace Minimize

variable {τ : Type} [Clock τ]

/-! ## Calls -/

omit [Clock τ] in
theorem Answer.fails_of_returned {solver : Solver τ} {kind : CallKind} {left : State τ}
    {a : Answer τ} {f : Fault} (h : a.returned solver kind left = .error f) :
    a.Fails solver kind f := by
  cases a with
  | failed f' =>
    cases h
    exact .failed f
  | malformed typeName =>
    cases h
    exact .malformed typeName
  | same record => cases h
  | other s record => cases h

/-! ## Saves -/

omit [Clock τ] in
/-- Whatever fails in a store, the policy tells it as a fault of the
checkpoint. -/
theorem Policy.saveFault_isCheckpoint (p : Policy τ) (i : Int) (f : Fault) :
    (p.saveFault i f).isCheckpoint = true := by
  unfold saveFault
  split
  · assumption
  · rfl

/-! ## The parts of an iteration -/

namespace Engine

variable {g g' : Engine τ} {kind : CallKind} {started : τ} {f : Fault} {s : State τ}

theorem consult_error {u : Failed τ} (h : g.consult kind = .error u) :
    (g.asked kind).answer.Fails g.executor.solver kind u.fault ∧
      u.engine.executor.state = g.executor.state := by
  unfold consult at h
  dsimp only at h
  split at h
  · rename_i hf
    cases h
    exact ⟨Answer.fails_of_returned hf, rfl⟩
  · cases h

theorem merge_error {r : Returned τ} {book : Bookkeeping τ} {i : Int} {u : Failed τ}
    (h : g.merge r book i started = .error u) :
    ∃ e, (g.carried r.state book i started).recordBest = .error e ∧ u.fault = .slip e ∧
      u.engine.executor.state =
        if r.inPlace then g.carried r.state book i started else g.executor.state := by
  unfold merge at h
  dsimp only at h
  split at h
  · rename_i e he
    cases h
    refine ⟨e, he, rfl, ?_⟩
    cases r.inPlace <;> rfl
  · cases h

/-- Judging fails if the check fails, or if the solver has terminated the state when
it was asked and gives a reason as well. -/
theorem judge_error {u : Failed τ} (h : g.judge = .error u) :
    g.executor.state.terminated = false ∧ u.engine = g.withState g.questioned ∧
      (checkTermination g.executor.settings.criteria (some g.executor.solver.terminateEarly)
          g.aborted g.executor.state = .error u.fault ∨
        ∃ r, checkTermination g.executor.settings.criteria
            (some g.executor.solver.terminateEarly) g.aborted g.executor.state = .ok (some r) ∧
          g.questioned.terminateWith r = .error u.fault) := by
  unfold judge at h
  dsimp only at h
  split at h
  · cases h
  · rename_i hr
    refine ⟨Bool.not_eq_true _ ▸ hr, ?_⟩
    split at h
    · rename_i hc
      cases h
      exact ⟨rfl, .inl hc⟩
    · cases h
    · rename_i r hc
      split at h
      · rename_i hs
        cases h
        exact ⟨rfl, .inr ⟨r, hc, hs⟩⟩
      · cases h

theorem complete_error {record : Option Record} {u : Failed τ}
    (h : g.complete record = .error u) :
    g.executor.state.summary = .error u.fault ∧ u.engine = g := by
  unfold complete at h
  dsimp only at h
  split at h
  · rename_i hs
    cases h
    exact ⟨hs, rfl⟩
  · cases h

/-! ## Iterations -/

/-- How an iteration breaks off, with the failure and the state at which that
leaves the engine: the call fails, and the state before it stands; the cost of
the returned state cannot be compared; the check of the state that was taken over
fails, or has a reason for a state that the solver terminated when it was asked;
the record fails; or a save fails that must not fail. -/
inductive BreaksOff (kind : CallKind) (started : τ) (g : Engine τ) : Fault → State τ → Prop
  | call {f : Fault} (hf : (g.asked kind).answer.Fails g.executor.solver kind f) :
      BreaksOff kind started g f g.executor.state
  | cost {u : Engine τ} {r : Returned τ} {e : Slip}
      (hc : (g.enter kind).consult kind = .ok (u, r))
      (hr : (u.carried (r.placed kind g.executor.state).state (g.kept kind)
        (kind.target g.executor.state.book.iteration) started).recordBest = .error e) :
      BreaksOff kind started g (.slip e)
        (if r.inPlace then u.carried (r.placed kind g.executor.state).state (g.kept kind)
          (kind.target g.executor.state.book.iteration) started else u.executor.state)
  | check {u : Engine τ} {record : Option Record} {f : Fault}
      (ht : (g.enter kind).take kind started = .ok (u, record))
      (hr : u.executor.state.terminated = false)
      (hc : checkTermination u.executor.settings.criteria (some u.executor.solver.terminateEarly)
        u.aborted u.executor.state = .error f) : BreaksOff kind started g f u.questioned
  | closed {u : Engine τ} {record : Option Record} {r : Reason} {f : Fault}
      (ht : (g.enter kind).take kind started = .ok (u, record))
      (hr : u.executor.state.terminated = false)
      (hc : checkTermination u.executor.settings.criteria (some u.executor.solver.terminateEarly)
        u.aborted u.executor.state = .ok (some r)) (hs : u.questioned.terminateWith r = .error f) :
      BreaksOff kind started g f u.questioned
  | record {u v : Engine τ} {record : Option Record} {f : Fault}
      (ht : (g.enter kind).take kind started = .ok (u, record)) (hj : u.judge = .ok v)
      (hs : v.executor.state.summary = .error f) : BreaksOff kind started g f v.executor.state
  | save {u : Engine τ} {es : List (Event τ)} {f : Fault} (ha : g.advance kind started = .ok u)
      (hb : u.SaveBreaks false es f) : BreaksOff kind started g f u.executor.state

/-- A call that ends with a state succeeds, and leaves the state that it was
given. -/
theorem consult_of_done {left : State τ} {a : Answer τ} {r : Returned τ}
    (hcall : g.executor.solver.call kind g.executor.state = .done left a)
    (hr : a.returned g.executor.solver kind left = .ok r) :
    ∃ u, g.consult kind = .ok (u, r) ∧ u.executor.state = left := by
  have hasked : g.asked kind = ⟨g.executor.problem,
      g.world.note (.called kind g.executor.state.book.iteration), left, a, []⟩ := by
    unfold asked
    dsimp only
    rw [hcall]
    rfl
  unfold consult
  rw [hasked]
  dsimp only
  rw [hr]
  exact ⟨_, rfl, rfl⟩

omit [Clock τ] in
theorem placed_inPlace (r : Returned τ) (kind : CallKind) (before : State τ) :
    (r.placed kind before).inPlace = r.inPlace := by
  cases kind <;> rfl

/-- An iteration that fails has broken off. -/
theorem iterate_error {u : Failed τ} (h : g.iterate kind started = .error u) :
    g.BreaksOff kind started u.fault u.engine.executor.state := by
  rcases bind_error h with ha | ⟨v, ha, h⟩
  · rcases bind_error ha with ht | ⟨⟨v, record⟩, ht, ha⟩
    · rcases bind_error ht with hc | ⟨⟨v, r⟩, hc, ht⟩
      · obtain ⟨hf, hs⟩ := consult_error hc
        rw [enter_asked, enter_solver] at hf
        rw [hs, enter_state]
        exact .call hf
      · rcases bind_error ht with hm | ⟨w, _, ht⟩
        · obtain ⟨e, he, hfault, hs⟩ := merge_error hm
          rw [enter_state, enter_kept] at he hs
          rw [hfault, hs, placed_inPlace]
          exact .cost hc he
        · cases ht
    · rcases bind_error ha with hj | ⟨w, hj, hc⟩
      · obtain ⟨hr, hu, hc | ⟨r, hc, hs⟩⟩ := judge_error hj
        · rw [hu]
          exact .check ht hr hc
        · rw [hu]
          exact .closed ht hr hc hs
      · obtain ⟨hs, hu⟩ := complete_error hc
        rw [hu]
        exact .record ht hj hs
  · rcases bind_error h with hs | ⟨w, _, h⟩
    · obtain ⟨es, hb, _⟩ := save_broken hs
      have hstands := save_stands v false
      rw [hs] at hstands
      have hstate : u.engine.executor.state = v.executor.state := hstands.state
      rw [hstate]
      exact .save ha hb
    · cases h

omit [Clock τ] in
theorem SaveBreaks.isCheckpoint {final : Bool} {es : List (Event τ)}
    (h : g.SaveBreaks final es f) : f.isCheckpoint = true := by
  cases h with
  | @broken p c f _ _ _ _ => exact p.saveFault_isCheckpoint _ f

omit [Clock τ] in
theorem SaveBreaks.save {final : Bool} {es : List (Event τ)} (h : g.SaveBreaks final es f) :
    ∃ u, g.save final = .error ⟨f, u⟩ ∧ u.executor.state = g.executor.state := by
  cases h with
  | broken hp hf hd hs =>
    obtain ⟨u, hu, hstate, _⟩ := save_attempted hp hd hs
    refine ⟨u, ?_, hstate⟩
    rw [hu]
    unfold afterSave
    simp only [hf, if_true]

theorem advance_uncomparable {u : Engine τ} {r : Returned τ} {e : Slip}
    (hc : (g.enter kind).consult kind = .ok (u, r))
    (hr : (u.carried (r.placed kind g.executor.state).state (g.kept kind)
      (kind.target g.executor.state.book.iteration) started).recordBest = .error e) :
    ∃ v, g.advance kind started = .error ⟨.slip e, v⟩ ∧ v.executor.state =
      if r.inPlace then u.carried (r.placed kind g.executor.state).state (g.kept kind)
        (kind.target g.executor.state.book.iteration) started else u.executor.state := by
  have hm : ∃ v, u.merge (r.placed kind (g.enter kind).executor.state)
      ((g.enter kind).kept kind)
      (kind.target (g.enter kind).executor.state.book.iteration) started =
        .error ⟨.slip e, v⟩ ∧
      v.executor.state = if r.inPlace then
        u.carried (r.placed kind g.executor.state).state (g.kept kind)
          (kind.target g.executor.state.book.iteration) started else u.executor.state := by
    rw [enter_state, enter_kept]
    unfold merge
    dsimp only
    rw [hr, placed_inPlace]
    cases r.inPlace <;> exact ⟨_, rfl, rfl⟩
  obtain ⟨v, hm, hs⟩ := hm
  refine ⟨v, ?_, hs⟩
  unfold advance take
  rw [hc]
  dsimp only [bind, Except.bind]
  rw [hm]

theorem iterate_unjudged {u : Engine τ} {v : Failed τ} {record : Option Record}
    (ht : (g.enter kind).take kind started = .ok (u, record)) (hj : u.judge = .error v) :
    g.iterate kind started = .error v := by
  unfold iterate advance
  rw [ht]
  dsimp only [bind, Except.bind]
  rw [hj]

theorem BreaksOff.iterate (h : g.BreaksOff kind started f s) :
    ∃ u, g.iterate kind started = .error ⟨f, u⟩ ∧ u.executor.state = s := by
  cases h with
  | call hf =>
    obtain ⟨u, hi, hs, _⟩ := iterate_of_fails hf started
    exact ⟨u, hi, hs⟩
  | cost hc hr =>
    obtain ⟨v, ha, hs⟩ := advance_uncomparable hc hr
    refine ⟨v, ?_, hs⟩
    rw [iterate_eq, ha]
    rfl
  | @check u record f ht hr hc =>
    have hj : u.judge = .error ⟨f, u.withState u.questioned⟩ := by
      unfold judge
      dsimp only
      rw [hr, hc]
      rfl
    exact ⟨u.withState u.questioned, iterate_unjudged ht hj, rfl⟩
  | @closed u record r f ht hr hc hs =>
    have hj : u.judge = .error ⟨f, u.withState u.questioned⟩ := by
      unfold judge
      dsimp only
      rw [hr, hc]
      dsimp only
      rw [hs]
      rfl
    exact ⟨u.withState u.questioned, iterate_unjudged ht hj, rfl⟩
  | @record u v record f ht hj hs =>
    have hc : v.complete record = .error ⟨f, v⟩ := by
      unfold complete
      dsimp only
      rw [hs]
    refine ⟨v, ?_, rfl⟩
    unfold Engine.iterate advance
    rw [ht]
    dsimp only [bind, Except.bind]
    rw [hj]
    dsimp only
    rw [hc]
  | @save u es f ha hb =>
    obtain ⟨v, hs, hstate⟩ := hb.save
    refine ⟨v, ?_, hstate⟩
    unfold Engine.iterate
    rw [ha]
    dsimp only [bind, Except.bind]
    rw [hs]

/-! ## Runs -/

variable {g₀ : Engine τ} {past : List (State τ)}

/-- What breaks a run off, with the state at which that leaves it: its stored
checkpoint cannot be read, an iteration breaks off, or the save of its end
fails and must not fail. -/
inductive BrokenOff (g₀ : Engine τ) : Fault → State τ → Prop
  | unread {f : Fault} (hs : g₀.stored = .error f) : BrokenOff g₀ f g₀.executor.state
  | iteration {kind : CallKind} {past : List (State τ)} {g : Engine τ} {f : Fault} {s : State τ}
      (hc : g₀.ComesTo kind past g) (hb : g.BreaksOff kind g₀.world.clock f s) : BrokenOff g₀ f s
  | unsaved {past : List (State τ)} {g : Engine τ} {es : List (Event τ)} {f : Fault}
      (hc : g₀.Course past g) (ht : g.executor.state.terminated = true)
      (hb : g.SaveBreaks true es f) : BrokenOff g₀ f g.executor.state

theorem Ends.brokenOff {u : Failed τ} (h : g₀.Ends (.error u)) :
    g₀.BrokenOff u.fault u.engine.executor.state := by
  generalize hr : (.error u : Attempt τ) = r at h
  cases h with
  | unread hs =>
    cases hr
    exact .unread hs
  | failed hc hi =>
    cases hr
    exact .iteration hc (iterate_error hi)
  | @finished past g hc ht =>
    obtain ⟨es, hb, _⟩ := save_broken hr.symm
    have hstands := save_stands g true
    rw [← hr] at hstands
    have hstate : u.engine.executor.state = g.executor.state := hstands.state
    rw [hstate]
    exact .unsaved hc ht hb

/-- A run that is broken off ends by that, given enough iterations. -/
theorem BrokenOff.attempt (h : g₀.BrokenOff f s) :
    ∃ n u, g₀.begun.attempt n = some (.error ⟨f, u⟩) ∧ u.executor.state = s := by
  cases h with
  | unread hs =>
    have hs' : g₀.begun.stored = .error f := hs
    refine ⟨0, g₀.begun, ?_, rfl⟩
    unfold Engine.attempt start
    rw [hs']
  | @iteration kind past g f s hc hb =>
    obtain ⟨u, hi, hs⟩ := hb.iterate
    refine ⟨past.length + 0, u, ?_, hs⟩
    rw [attempt_of_comesTo hc, hi]
  | @unsaved past g es f hc ht hb =>
    obtain ⟨u, hs, hstate⟩ := hb.save
    refine ⟨past.length + 0, u, ?_, hstate⟩
    rw [attempt_of_course hc, onward_terminated _ _ ht, hs]

/-- A run of which an iteration breaks off ends there. -/
theorem BreaksOff.run (hp : g₀.executor.phase = .created) (hc : g₀.ComesTo kind past g)
    (hb : g.BreaksOff kind g₀.world.clock f s) (limit : Nat) :
    ∃ u, g₀.run (past.length + limit) =
        .ok (some (concluded g₀.executor.runName (.error ⟨f, u⟩))) ∧
      g.iterate kind g₀.world.clock = .error ⟨f, u⟩ ∧ u.executor.state = s := by
  obtain ⟨u, hi, hs⟩ := hb.iterate
  refine ⟨u, ?_, hi, hs⟩
  rw [run_created hp, attempt_of_comesTo hc, hi]
  rfl

/-- More iterations are of no use to a run that has ended. -/
theorem onward_more {limit : Nat} {r : Attempt τ} (h : g.onward started limit = some r)
    (more : Nat) : g.onward started (limit + more) = some r := by
  induction limit generalizing g with
  | zero =>
    cases ht : g.executor.state.terminated with
    | true =>
      rw [onward_terminated _ _ ht] at h ⊢
      exact h
    | false =>
      rw [onward_zero _ ht] at h
      cases h
  | succ limit ih =>
    cases ht : g.executor.state.terminated with
    | true =>
      rw [onward_terminated _ _ ht] at h ⊢
      exact h
    | false =>
      rw [Nat.succ_add]
      rw [onward_step _ _ ht] at h ⊢
      cases hi : g.iterate .step started with
      | ok g' =>
        rw [hi] at h
        exact ih h
      | error u =>
        rw [hi] at h
        exact h

theorem attempt_more {limit : Nat} {r : Attempt τ} (h : g.attempt limit = some r) (more : Nat) :
    g.attempt (limit + more) = some r := by
  unfold attempt at h ⊢
  dsimp only at h ⊢
  cases hs : g.start g.world.clock with
  | error u =>
    rw [hs] at h
    exact h
  | ok g' =>
    rw [hs] at h
    exact onward_more h more

/-- However many iterations are allowed, a run that ends comes to the same. -/
theorem attempt_agree {m n : Nat} {r r' : Attempt τ} (h : g.attempt m = some r)
    (h' : g.attempt n = some r') : r = r' := by
  have hm := attempt_more h n
  have hn := attempt_more h' m
  rw [Nat.add_comm] at hn
  exact Option.some.inj (hm.symm.trans hn)

theorem run_agree (hp : g.executor.phase = .created) {m n : Nat} {x y : Engine τ × Outcome τ}
    (hx : g.run m = .ok (some x)) (hy : g.run n = .ok (some y)) : x = y := by
  rw [run_created hp] at hx hy
  obtain ⟨r, hr, rfl⟩ := Option.map_eq_some_iff.mp (Except.ok.inj hx)
  obtain ⟨r', hr', rfl⟩ := Option.map_eq_some_iff.mp (Except.ok.inj hy)
  rw [attempt_agree hr hr']

end Engine

end Minimize
