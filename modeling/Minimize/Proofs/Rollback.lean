-- A call of the solver that fails. Whatever it did to the state that it was
-- given, the run ends with the state from before the call, and only the
-- status tells of the failure. Nothing of the iteration is recorded, saved or
-- told; the counters of the problem keep what was evaluated.
import Minimize.Proofs.Replay
import Minimize.Sample.Script

namespace Minimize

variable {τ : Type} [Clock τ]

/-! ## Evaluations -/

/-- How often a capability was evaluated. -/
def World.evaluations (w : World τ) (c : Capability) : Nat := w.journal.countP (Event.evaluates c)

omit [Clock τ] in
theorem World.evaluations_note (w : World τ) (c : Capability) (e : Event τ) :
    (w.note e).evaluations c = w.evaluations c + if e.evaluates c then 1 else 0 :=
  List.countP_cons

omit [Clock τ] in
theorem World.Grows.evaluations {p : Event τ → Prop} {w w' : World τ} (h : w.Grows p w')
    (c : Capability) (hp : ∀ e, p e → e.evaluates c = false) :
    w'.evaluations c = w.evaluations c := by
  obtain ⟨later, hj, hl⟩ := h.journal
  unfold World.evaluations
  have hnone : later.countP (Event.evaluates c) = 0 :=
    List.countP_eq_zero.mpr fun e he => by simp [hp e (hl e he)]
  rw [hj, List.countP_append, hnone, Nat.zero_add]

theorem Counts.get_bump (n : Counts) (c d : Capability) :
    (n.bump d).get c = n.get c + if d = c then 1 else 0 := by
  unfold Counts.bump
  rw [Counts.get_set]
  by_cases h : d = c
  · simp [h]
  · simp [h, Ne.symm h]

theorem Problem.after_counts (p : Problem) (c : Change) : (p.after c).counts = p.counts := by
  unfold Problem.after
  split <;> rfl

/-- The counters of the problem and the journal count the same evaluations. -/
theorem Call.run_counts (a : Call τ) (p : Problem) (w : World τ) (c : Capability) :
    (a.run p w).problem.counts.get c + w.evaluations c =
      p.counts.get c + (a.run p w).world.evaluations c := by
  induction a generalizing p w with
  | done left answer => rfl
  | evaluate d args next ih =>
    simp only [Call.run]
    cases hf : p.user.function? d with
    | none =>
      have hs : p.supports d = false := by simp [Problem.supports, hf]
      have he : (p.evaluate d args).1 = p := by simp [Problem.evaluate, hf]
      simp only [hs, Bool.false_eq_true, if_false, he]
      exact ih _ _ p w
    | some u =>
      have hs : p.supports d = true := by simp [Problem.supports, hf]
      have he : (p.evaluate d args).1.counts = p.counts.bump d := by simp [Problem.evaluate, hf]
      have h := ih (p.origin d) (p.evaluate d args).2 (p.evaluate d args).1 (w.note (.evaluated d))
      rw [he, Counts.get_bump, World.evaluations_note] at h
      simp only [hs, if_true, Event.evaluates, decide_eq_true_eq] at h ⊢
      by_cases hd : d = c
      · simp only [hd, if_true] at h ⊢
        omega
      · simp only [hd, if_false] at h ⊢
        omega
  | change ch next ih =>
    have h := ih (p.after ch) w
    rw [Problem.after_counts] at h
    exact h
  | wait d next ih => exact ih p (w.wait d)
  | raise signal next ih => exact ih p (w.raise signal)

/-! ## The end of a run -/

namespace Engine

theorem asked_counts (kind : CallKind) (g : Engine τ) (c : Capability) :
    (g.asked kind).problem.counts.get c + g.world.evaluations c =
      g.executor.problem.counts.get c + (g.asked kind).world.evaluations c := by
  have h := Call.run_counts (g.executor.solver.call kind g.executor.state) g.executor.problem
    (g.world.note (.called kind g.executor.state.book.iteration)) c
  rw [World.evaluations_note] at h
  exact h

omit [Clock τ] in
/-- A run that fails tells of nothing but its end, and its outcome is the
engine as it stood, terminated by the failure. -/
theorem concluded_failed {g : Engine τ} (name : String) (f : Fault)
    (h : g.executor.state.terminated = false) :
    ∃ u o, concluded name (.error ⟨f, g⟩) = (u, o) ∧
      o.state = { g.executor.state with status := ⟨some (.error f)⟩ } ∧
      o.problem = g.executor.problem ∧ o.error = some f ∧
      g.world.Follows (·.ends = true) u.world := by
  have hs := congrArg Executor.state (markFailed_executor name f h)
  have hp := congrArg Executor.problem (markFailed_executor name f h)
  exact ⟨_, _, rfl, hs, hp, rfl, (markFailed_follows g name f).trans (close_follows _ name (some f))⟩

end Engine

/-! ## The laws -/

/-- How the call of a solver fails: by a failure of its own, or by handing
back something that is no answer. -/
inductive Answer.Fails (solver : Solver τ) (kind : CallKind) : Answer τ → Fault → Prop
  | failed (f : Fault) : Fails solver kind (.failed f) f
  | malformed (typeName : String) : Fails solver kind (.malformed typeName)
      (.malformedOutput solver.displayName kind.methodName typeName)

omit [Clock τ] in
theorem Answer.Fails.returned {solver : Solver τ} {kind : CallKind} {a : Answer τ} {f : Fault}
    (h : a.Fails solver kind f) (left : State τ) :
    a.returned solver kind left = .error f := by
  cases h <;> rfl

namespace Engine

theorem consult_of_fails {kind : CallKind} {g : Engine τ} {f : Fault}
    (hf : (g.asked kind).answer.Fails g.executor.solver kind f) :
    ∃ u, g.consult kind = .error ⟨f, u⟩ ∧ u.executor.state = g.executor.state ∧
      u.executor.problem = (g.asked kind).problem ∧ u.world = (g.asked kind).world := by
  unfold consult
  simp only [hf.returned]
  exact ⟨_, rfl, rfl, rfl, rfl⟩

/-- An iteration whose call fails leaves the state as it was before. -/
theorem iterate_of_fails {kind : CallKind} {g : Engine τ} {f : Fault}
    (hf : (g.asked kind).answer.Fails g.executor.solver kind f) (started : τ) :
    ∃ u, g.iterate kind started = .error ⟨f, u⟩ ∧ u.executor.state = g.executor.state ∧
      u.executor.problem = (g.asked kind).problem ∧ u.world = (g.asked kind).world := by
  have hf' : ((g.enter kind).asked kind).answer.Fails (g.enter kind).executor.solver kind f := by
    rw [enter_asked]
    cases kind <;> exact hf
  obtain ⟨u, hu, hs, hp, hw⟩ := consult_of_fails hf'
  refine ⟨u, ?_, hs.trans (enter_state kind g), hp.trans ?_, hw.trans ?_⟩
  · unfold iterate advance take
    rw [hu]
    rfl
  · rw [enter_asked]
  · rw [enter_asked]

/-- A failing call of the solver is rolled back. The run ends with the state
from before the call, whose status alone tells of the failure; the iteration
leaves no record, no checkpoint and no word to an observer; and the counters
of the problem go up by what was evaluated. -/
theorem a_failed_call_is_rolled_back {g₀ g : Engine τ} {kind : CallKind} {past : List (State τ)}
    {f : Fault} (hphase : g₀.executor.phase = .created) (hc : g₀.ComesTo kind past g)
    (hr : g.executor.state.terminated = false)
    (hf : (g.asked kind).answer.Fails g.executor.solver kind f) (limit : Nat) :
    ∃ h o later, g₀.run (past.length + limit) = .ok (some (h, o)) ∧
      o.state = { g.executor.state with status := ⟨some (.error f)⟩ } ∧
      o.error = some f ∧
      h.world.journal = later ++ g.world.journal ∧
      (∀ e ∈ later, e.completes = false) ∧
      h.world.cabinets = g.world.cabinets ∧
      ∀ c, o.problem.counts.get c = g.executor.problem.counts.get c +
        later.countP (Event.evaluates c) := by
  obtain ⟨u, hi, hstate, hproblem, hworld⟩ := iterate_of_fails hf g₀.world.clock
  obtain ⟨h, o, hend, hs, hp, he, hfollows⟩ :=
    concluded_failed g₀.executor.runName f (hstate ▸ hr)
  have hrun : g₀.run (past.length + limit) = .ok (some (h, o)) := by
    rw [run_created hphase, attempt_of_comesTo hc, hi, ← hend]
    rfl
  have hcall := g.asked_follows kind
  rw [← hworld] at hcall
  have hnoted : g.world.Follows (·.completes = false)
      (g.world.note (.called kind g.executor.state.book.iteration)) := World.note_follows _ rfl
  have hall : g.world.Follows (·.completes = false) h.world :=
    (hnoted.trans (hcall.mono fun e he => by obtain ⟨c, rfl⟩ := he; rfl)).trans
      (hfollows.mono fun e he => Event.completes_of_ends he)
  obtain ⟨later, hjournal, hquiet⟩ := hall.journal
  refine ⟨h, o, later, hrun, ?_, he, hjournal, hquiet, hall.cabinets, fun c => ?_⟩
  · rw [hs, hstate]
  · have hcounts := g.asked_counts kind c
    have hlater : h.world.evaluations c = later.countP (Event.evaluates c) +
        g.world.evaluations c := by
      unfold World.evaluations
      rw [hjournal, List.countP_append]
    have hcalled := hfollows.toGrows.evaluations c fun e he => Event.evaluates_of_ends he c
    rw [hp, hproblem]
    rw [hworld] at hcalled
    omega

/-- A solver that opens like a replay. Its step scribbles over the state that
it is given, terminates it, and hands back a dictionary. -/
def scribbling : Solver Float :=
  { Sample.replay [true] with
    step := fun s => Sample.play
      [.set fun t => { t with param := .null, prevCost := .null, counts := .empty, book := .fresh },
        .terminate .solverConverged, .answer .dict] (.begin s) }

/-- The law at the first step of a run. -/
theorem scribbles_are_rolled_back :
    ∃ g h o later, (underLimit scribbling 3 none none (.start 0)).ComesTo .step
        [g.executor.state] g ∧
      (underLimit scribbling 3 none none (.start 0)).run 1 = .ok (some (h, o)) ∧
      o.state = { g.executor.state with status := ⟨some (.error
        (.malformedOutput "SequenceSolver" "next_iteration" "dict"))⟩ } ∧
      h.world.journal = later ++ g.world.journal ∧ (∀ e ∈ later, e.completes = false) := by
  have hopening : (underLimit scribbling 3 none none (.start 0)).begun.settled.Moves .opening :=
    ⟨true, rfl⟩
  obtain ⟨g, hg, _, hx, _, hgl⟩ := 
    underLimit_opens rfl (fun _ => rfl) hopening rfl no_policy_saves
  have hrun : g.executor.state.status = .running := hgl.status
  have hopen := State.not_terminated_iff.mpr hrun
  have hcomes := ComesTo.step hg hopen
  have hfails : (g.asked .step).answer.Fails g.executor.solver .step
      (.malformedOutput "SequenceSolver" "next_iteration" "dict") := by
    have hplayed : (g.asked .step).answer = .malformed "dict" := by
      unfold asked
      dsimp only
      rw [hx]
      unfold Solver.call scribbling
      simp only [Sample.play, Sample.Play.begin, Sample.Play.on, State.terminateWith, hrun,
        Status.running]
      rfl
    rw [hplayed, hx]
    exact .malformed "dict"
  obtain ⟨h, o, later, hend, hstate, _, hjournal, hquiet, _⟩ :=
    a_failed_call_is_rolled_back rfl hcomes hopen hfails 0
  exact ⟨g, h, o, later, hcomes, hend, hstate, hjournal, hquiet⟩

end Engine

end Minimize
