-- The error of a run and the reason of its end. A state stops once, so what
-- fails later leaves the reason as it is: a failure is the reason if the state
-- was still running when it was met. Where no solver and no snapshot brings in
-- an error as a reason, there is no other way for a run to get one.
import Minimize.Proofs.Ending
import Minimize.Proofs.Stopping

namespace Minimize

variable {τ : Type}

/-! ## Errors as reasons -/

def Status.IsError (s : Status) : Prop := ∃ r, s.reason = some r ∧ r.kind = .error

theorem Status.running_not_error : ¬ Status.running.IsError := by
  rintro ⟨r, hr, _⟩
  cases hr

theorem State.not_error_of_open {s : State τ} (h : s.terminated = false) :
    ¬ s.status.IsError := by
  rw [State.not_terminated_iff.mp h]
  exact Status.running_not_error

theorem ReasonKind.name_eq_error {k : ReasonKind} : k.name = "Error" ↔ k = .error := by
  cases k <;> decide

theorem Criteria.reason_not_error [Clock τ] {c : Criteria}
    {early : State τ → Except Fault (Option Reason)} {aborted : Bool} {s : State τ} {r : Reason}
    (he : ∀ r, early s = .ok (some r) → r.kind ≠ .error)
    (h : checkTermination c (some early) aborted s = .ok (some r)) : r.kind ≠ .error := by
  rw [Criteria.checkTermination_eq] at h
  obtain ⟨_, _, _, _, _, hword⟩ := Check.first_eq_some h
  cases Criteria.grounds_of_word hword with
  | solver hr => exact he r hr
  | _ => intro hk; cases hk

/-! ## What an outcome tells -/

variable [Clock τ]

namespace Outcome

variable {o : Outcome τ} {f : Fault}

/-- An outcome that tells of a failure wherever it is asked: by its error and
its success, when the error is raised, by its reason and in its summary. -/
structure TellsOf (o : Outcome τ) (f : Fault) : Prop where
  error : o.error = some f
  success : o.success = false
  raised : o.orError = .error f
  reason : o.reason? = some (.error f)
  summary : ∀ es, o.summary = .ok es → ("success", .bool false) ∈ es ∧
    ("termination", .text "Error") ∈ es ∧ ("error", .text f.shown) ∈ es

/-- An outcome that tells of no failure wherever it is asked. -/
structure TellsOfNone (o : Outcome τ) : Prop where
  error : o.error = none
  success : o.success = true
  raised : o.orError = .ok o
  reason : ¬ o.state.status.IsError
  summary : ∀ es, o.summary = .ok es → ("success", .bool true) ∈ es ∧
    ("termination", .text "Error") ∉ es ∧ ("error", .null) ∈ es

/-- What an outcome tells of a failure that met it at a state: if that was
running, the failure is the reason; if it was terminated, it stays as it is. -/
structure Accords (o : Outcome τ) (f : Fault) (s : State τ) : Prop where
  error : o.error = some f
  running : s.terminated = false → o.TellsOf f
  terminated : s.terminated = true → o.state = s

/-- The summary of an outcome tells its success, the kind of its reason and
its error. -/
theorem mem_summary {es : List (String × Value)} (h : o.summary = .ok es) :
    ("success", .bool o.success) ∈ es ∧
      ("termination", optionText (o.reason?.map fun r => r.kind.name)) ∈ es ∧
      ("error", optionText (o.error.map Fault.shown)) ∈ es := by
  obtain ⟨cost, _, h⟩ := bind_ok h
  cases h
  simp

theorem termination_of_summary {es : List (String × Value)} (h : o.summary = .ok es)
    {v : Value} (hv : ("termination", v) ∈ es) :
    v = optionText (o.reason?.map fun r => r.kind.name) := by
  obtain ⟨cost, _, h⟩ := bind_ok h
  cases h
  simpa using hv

theorem tellsOf (he : o.error = some f) (hr : o.reason? = some (.error f)) :
    o.TellsOf f := by
  refine ⟨he, ?_, ?_, hr, fun es hes => ?_⟩
  · unfold success
    rw [he]
    rfl
  · unfold orError
    rw [he]
  · obtain ⟨hsuccess, htermination, herror⟩ := mem_summary hes
    unfold success at hsuccess
    rw [he] at hsuccess herror
    rw [hr] at htermination
    exact ⟨hsuccess, htermination, herror⟩

theorem tellsOfNone (he : o.error = none) (hr : ¬ o.state.status.IsError) :
    o.TellsOfNone := by
  refine ⟨he, ?_, ?_, hr, fun es hes => ?_⟩
  · unfold success
    rw [he]
    rfl
  · unfold orError
    rw [he]
  · obtain ⟨hsuccess, _, herror⟩ := mem_summary hes
    unfold success at hsuccess
    rw [he] at hsuccess herror
    refine ⟨hsuccess, fun hmem => hr ?_, herror⟩
    have htext := termination_of_summary hes hmem
    cases hreason : o.reason? with
    | none =>
      rw [hreason] at htext
      cases htext
    | some r =>
      rw [hreason] at htext
      exact ⟨r, hreason, ReasonKind.name_eq_error.mp (Value.text.inj htext).symm⟩

end Outcome

namespace Engine

variable {g₀ g g' : Engine τ} {kind : CallKind} {past : List (State τ)}

/-! ## Runs into which no error is brought -/

/-- In a run, the solver never gives an error as the reason to stop, neither in
a state that it returns nor when it is asked whether to stop, by its answer or in the
state that it is asked with. -/
structure ReportsNoError (g₀ : Engine τ) : Prop where
  returned : ∀ kind past g u r, g₀.ComesTo kind past g →
    (g.enter kind).consult kind = .ok (u, r) → ¬ r.state.status.IsError
  early : ∀ n v r, g₀.Judges n v →
    v.executor.solver.terminateEarly v.executor.state = .ok (some r) → r.kind ≠ .error
  revised : ∀ n v, g₀.Judges n v →
    (v.executor.solver.revised v.executor.state).status.IsError → v.executor.state.status.IsError

theorem LeavesOpen.reportsNoError (h : g₀.LeavesOpen)
    (he : ∀ n v r, g₀.Judges n v →
      v.executor.solver.terminateEarly v.executor.state = .ok (some r) → r.kind ≠ .error)
    (hx : ∀ n v, g₀.Judges n v → v.executor.solver.OnlyJudges) : g₀.ReportsNoError where
  returned kind past g u r hc hr := State.not_error_of_open (h kind past g u r hc hr)
  early := he
  revised n v hv := by
    rw [hx n v hv]
    exact id

theorem Judges.solver (hn : g₀.stored = .ok none) {n : Nat} {v : Engine τ} (h : g₀.Judges n v) :
    v.executor.solver = g₀.executor.solver := by
  obtain ⟨kind, past, e, record, hc, _, ht⟩ := h
  rw [taken_solver ht, (hc.keeps hn).1]

/-- An iteration of such a run does not end with an error as the reason. -/
theorem ReportsNoError.iterate (ht : g₀.ReportsNoError) (hc : g₀.ComesTo kind past g)
    (hi : g.iterate kind g₀.world.clock = .ok g') : ¬ g'.executor.state.status.IsError := by
  obtain ⟨u, ha, hu, _⟩ := iterate_ok hi
  obtain ⟨v, record, w, htake, hj, hcomplete⟩ := advance_ok ha
  have hjudges : g₀.Judges past.length v := ⟨kind, past, g, record, hc, rfl, htake⟩
  -- the state that is judged has the status that the solver gave it
  have hgiven : ¬ v.executor.state.status.IsError := by
    obtain ⟨x, r, hconsult, _, hrecorded, _⟩ := take_ok htake
    obtain ⟨b, _, hs⟩ := State.recordBest_ok hrecorded
    have hr := ht.returned kind past g x r hc hconsult
    rw [hs]
    cases kind <;> exact hr
  have hasked : ¬ v.questioned.status.IsError := by
    rcases questioned_cases v with hq | hq
    · rw [hq]
      exact fun herror => hgiven (ht.revised _ v hjudges herror)
    · rw [hq]
      exact hgiven
  have hjudged : ¬ w.executor.state.status.IsError := by
    rcases judge_cases hj with ⟨_, rfl⟩ | ⟨_, o, hcheck, rfl⟩
    · exact hgiven
    · cases o with
      | none => exact hasked
      | some r =>
        rintro ⟨r', hr', hkind⟩
        cases hr'
        exact Criteria.reason_not_error (fun r => ht.early _ v r hjudges) hcheck hkind
  obtain ⟨_, _, hstate⟩ := complete_ok hcomplete
  rw [hu.state, hstate]
  exact hjudged

omit [Clock τ] in
theorem resume_status (g : Engine τ) (s : Snapshot τ) :
    (g.resume s).executor.state.status = s.state.status ∨
      (g.resume s).executor.state.status = .running := by
  unfold resume
  dsimp only
  split
  · exact .inr rfl
  · exact .inl rfl

/-- No state that such a run comes to has an error as its reason. -/
theorem ReportsNoError.course (ht : g₀.ReportsNoError)
    (hs : ∀ s, g₀.stored = .ok (some s) → ¬ s.state.status.IsError) (hc : g₀.Course past g) :
    ¬ g.executor.state.status.IsError := by
  cases hc with
  | step hc hr hi => exact ht.iterate (.step hc hr) hi
  | start hstart =>
    rcases start_ok hstart with ⟨hst, hi⟩ | ⟨s, hst, rfl⟩
    · exact ht.iterate (.opening hst) hi
    · rcases resume_status (g₀.begun.settled.noteLoaded s) s with h | h
      · rw [h]
        exact hs s hst
      · rw [h]
        exact Status.running_not_error

/-! ## The law -/

theorem concluded_accords (name : String) (u : Failed τ) :
    (concluded name (.error u)).2.Accords u.fault u.engine.executor.state := by
  have hstate : (concluded name (.error u)).2.state =
      (u.engine.markFailed name u.fault).executor.state := rfl
  rw [(markFailed_state u.engine name u.fault).1] at hstate
  refine ⟨rfl, fun hr => ?_, fun hover => ?_⟩
  · rw [hr] at hstate
    exact Outcome.tellsOf rfl (congrArg (fun s : State τ => s.status.reason) hstate)
  · rw [hover] at hstate
    exact hstate

theorem BrokenOff.accords {f : Fault} {s : State τ} (hb : g₀.BrokenOff f s) {limit : Nat}
    {r : Attempt τ} (h : g₀.begun.attempt limit = some r) (name : String) :
    (concluded name r).2.Accords f s := by
  obtain ⟨n, u, hu, rfl⟩ := hb.attempt
  rw [attempt_agree h hu]
  exact concluded_accords name ⟨f, u⟩

/-- The error and the reason of a run agree, unless its state was terminated
before it failed. Where neither the solver nor a snapshot brings in an error as
a reason: a run with such a reason has an error; a run without an error tells
of none anywhere; and the error is the failure that broke the run off. If the
state was still running there, the outcome tells of the failure wherever it is
asked. If it was terminated, its reason stays. So it is with a save that must
not fail: after an iteration its failure is the reason if the run would have
gone on, and at the end of a run it never is. -/
theorem the_error_and_the_reason_agree (hp : g₀.executor.phase = .created)
    (ht : g₀.ReportsNoError)
    (hs : ∀ s, g₀.stored = .ok (some s) → ¬ s.state.status.IsError) {limit : Nat}
    {h : Engine τ} {o : Outcome τ} (hr : g₀.run limit = .ok (some (h, o))) :
    (o.state.status.IsError → ∃ f, o.error = some f) ∧
    (o.error = none → o.TellsOfNone) ∧
    (∀ f, o.error = some f ↔ ∃ s, g₀.BrokenOff f s) ∧
    (∀ f s, g₀.BrokenOff f s → o.Accords f s) ∧
    (∀ kind past g u es f, g₀.ComesTo kind past g → g.advance kind g₀.world.clock = .ok u →
      u.SaveBreaks false es f → f.isCheckpoint = true ∧ o.Accords f u.executor.state) ∧
    (∀ past g es f, g₀.Course past g → g.executor.state.terminated = true →
      g.SaveBreaks true es f →
        f.isCheckpoint = true ∧ o.error = some f ∧ o.state = g.executor.state) := by
  have hover : o.error = none → ¬ o.state.status.IsError := by
    intro he
    obtain ⟨past, g, g', hc, _, _, _, hlast⟩ := run_over hp hr he
    have hlast' : o.state = g.executor.state := hlast
    rw [hlast']
    exact ht.course hs hc
  rw [run_created hp] at hr
  obtain ⟨r, ha, hconcluded⟩ := Option.map_eq_some_iff.mp (Except.ok.inj hr)
  have haccords : ∀ f s, g₀.BrokenOff f s → o.Accords f s := by
    intro f s hb
    have h := hb.accords ha g₀.executor.runName
    rw [hconcluded] at h
    exact h
  refine ⟨?_, fun he => Outcome.tellsOfNone he (hover he), ?_, haccords, ?_, ?_⟩
  · intro hblamed
    cases he : o.error with
    | none => exact absurd hblamed (hover he)
    | some f => exact ⟨f, rfl⟩
  · intro f
    have h := error_iff_brokenOff ha g₀.executor.runName f
    rw [hconcluded] at h
    exact h
  · intro kind past g u es f hc hadvance hb
    exact ⟨hb.isCheckpoint, haccords f _ (.iteration hc (.save hadvance hb))⟩
  · intro past g es f hc hterminated hb
    have h := haccords f _ (.unsaved hc hterminated hb)
    exact ⟨hb.isCheckpoint, h.error, h.terminated hterminated⟩

/-! ## Saves that must not fail -/

/-- A policy to save every iteration, by which no save must fail, at a store in
which all do. -/
def brittle : Policy Float :=
  ⟨"memory", Checkpoint.Memory.store.failing none .notImplemented, "run", .always, true, false, none⟩

/-- A replay under a limit of iterations that saves by that policy. -/
def brittleReplay (m : Nat) : Engine Float :=
  underLimit (Sample.replay [true]) m (some brittle) none (.start 0)

theorem brittleReplay_reportsNoError (m : Nat) : (brittleReplay m).ReportsNoError := by
  refine (sequence_leavesOpen rfl rfl rfl).reportsNoError (fun n v r hv hr => ?_) fun n v hv => ?_
  · rw [hv.solver rfl] at hr
    cases hr
  · rw [hv.solver rfl]
    exact fun _ => rfl

theorem brittleReplay_breaks (m : Nat) :
    ∃ u es, (brittleReplay m).begun.settled.advance .opening 0 = .ok u ∧
      u.executor.state.status = limited m false 0 ∧
      u.SaveBreaks false es (.checkpointSave "run" 0 .notImplemented) := by
  have hlimited : (brittleReplay m).begun.settled.Limited m :=
    ⟨rfl, rfl, fun _ => rfl, fun h => nomatch h⟩
  have hreplays : (brittleReplay m).begun.settled.Replays [true] :=
    ⟨rfl, List.cons_ne_nil _ _, Int.le_refl 0⟩
  obtain ⟨u, hu, hul⟩ := hlimited.advance (hreplays.moves .opening) rfl 0
  have hpolicy : u.executor.policy = some brittle := by
    have hstays := advance_stays .opening 0 (brittleReplay m).begun.settled
    rw [hu] at hstays
    exact hstays.policy
  have hsave : brittle.store.save (.text brittle.key) ⟨u.executor.solver, u.executor.state⟩
      (u.world.cabinet brittle.cabinet) = (_, .error .notImplemented) := rfl
  have hbreaks : u.SaveBreaks false _ _ := .broken hpolicy rfl rfl hsave
  rw [hul.iteration] at hbreaks
  exact ⟨u, _, hu, hul.status, hbreaks⟩

theorem brittleReplay_ends (m : Nat) :
    ∃ h o, (brittleReplay m).run 0 = .ok (some (h, o)) := by
  obtain ⟨u, es, hu, _, hb⟩ := brittleReplay_breaks m
  obtain ⟨w, hw, _⟩ := BreaksOff.run rfl (.opening rfl : (brittleReplay m).ComesTo _ _ _)
    (.save hu hb) 0
  exact ⟨_, _, hw⟩

/-- The law for a replay that would have gone on. -/
theorem a_failed_save_is_the_reason_where_a_run_goes_on :
    ∃ h o, (brittleReplay 1).run 0 = .ok (some (h, o)) ∧
      o.TellsOf (.checkpointSave "run" 0 .notImplemented) := by
  obtain ⟨h, o, hrun⟩ := brittleReplay_ends 1
  obtain ⟨u, es, hu, hstatus, hb⟩ := brittleReplay_breaks 1
  obtain ⟨_, _, _, _, hsaves, _⟩ := the_error_and_the_reason_agree rfl
    (brittleReplay_reportsNoError 1) (fun s hs => nomatch hs) hrun
  obtain ⟨_, haccords⟩ := hsaves _ _ _ u es _ (.opening rfl) hu hb
  exact ⟨h, o, hrun, haccords.running (State.not_terminated_iff.mpr hstatus)⟩

/-- Under a limit of none the opening is the last iteration. The run ends with
the error of its save, for the reason that the limit was reached. -/
theorem a_failed_save_is_not_the_reason_where_a_run_ends :
    ∃ h o, (brittleReplay 0).ReportsNoError ∧ (brittleReplay 0).stored = .ok none ∧
      (brittleReplay 0).run 0 = .ok (some (h, o)) ∧
      o.error = some (.checkpointSave "run" 0 .notImplemented) ∧
      o.reason? = some .maxItersReached ∧ ¬ o.state.status.IsError := by
  obtain ⟨u, es, hu, hstatus, hb⟩ := brittleReplay_breaks 0
  obtain ⟨w, hw, _, hws⟩ := BreaksOff.run rfl (.opening rfl : (brittleReplay 0).ComesTo _ _ _)
    (.save hu hb) 0
  have haccords := concluded_accords (brittleReplay 0).executor.runName
    ⟨.checkpointSave "run" 0 .notImplemented, w⟩
  have hterminated : w.executor.state.terminated = true := by
    rw [hws]
    exact State.terminated_of_reason hstatus
  generalize concluded (brittleReplay 0).executor.runName
    (.error ⟨.checkpointSave "run" 0 .notImplemented, w⟩) = r at hw haccords
  have hreason : r.2.state.status = ⟨some .maxItersReached⟩ := by
    rw [haccords.terminated hterminated]
    exact (congrArg State.status hws).trans hstatus
  refine ⟨r.1, r.2, brittleReplay_reportsNoError 0, rfl, hw, haccords.error,
    congrArg Status.reason hreason, ?_⟩
  rw [hreason]
  rintro ⟨r, hr, hkind⟩
  cases hr
  cases hkind

end Engine

end Minimize
