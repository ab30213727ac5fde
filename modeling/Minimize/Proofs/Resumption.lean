-- A run that goes on from a checkpoint ends as the run would have ended from
-- which the checkpoint comes. The engine after any iteration and the engine
-- that goes on from what was stored then are abreast, and stay so until both
-- end.
import Minimize.Proofs.Pace
import Minimize.Proofs.Replay

namespace Minimize

variable {τ : Type} [Clock τ]

/-! ## Counters -/

theorem Capability.ofCounter?_counter (c : Capability) :
    Capability.ofCounter? c.counter = some c := by
  cases c <;> decide

theorem Counts.entries_toTable (n : Counts) :
    n.toTable.entries = Capability.all.map fun c => (c.counter, n.get c) := rfl

/-- Counters that were written out and are laid over others replace them. -/
theorem Counts.overlay_toTable (n m : Counts) : n.overlay m.toTable = m := by
  unfold Counts.overlay
  rw [m.entries_toTable, List.foldl_map]
  simp only [Capability.ofCounter?_counter]
  rfl

/-! ## States that are open -/

namespace State

/-- The state open again. -/
def opened (s : State τ) : State τ := { s with status := .running }

/-- Whether a run can go on from the state: it is not terminated, or its run
was aborted. -/
def Resumable (s : State τ) : Prop :=
  s.status = .running ∨ ∃ streak text, s.status = ⟨some ⟨.aborted, streak, text⟩⟩

omit [Clock τ] in
theorem opened_of_running {s : State τ} (h : s.status = .running) : s.opened = s := by
  cases s
  cases h
  rfl

end State

/-! ## Runs that are not disturbed -/

namespace Engine

variable {names : List String} {u : UserProblem} {g₀ g g' h : Engine τ}
  {past : List (State τ)}

/-- No iteration of a run leaves its signal raised. -/
def StaysQuiet (g₀ : Engine τ) : Prop :=
  ∀ kind past g, g₀.ComesTo kind past g →
    (Attempt.left (g.iterate kind g₀.world.clock)).aborted = false

/-- An executor about to start anew, for a solver that hides nothing: it is
not timed, and no save ends its run. -/
structure Anew (names : List String) (u : UserProblem) (g₀ : Engine τ) : Prop where
  created : g₀.executor.phase = .created
  nothing : g₀.stored = .ok none
  untimed : g₀.executor.settings.timer = false
  saves : g₀.SavesGoOn g₀.executor.solver
  user : g₀.executor.problem.user = u
  honest : g₀.executor.solver.HidesNothing names u
  tidy : g₀.executor.state.Tidy

/-- What holds of an engine in a run that started anew. -/
structure OnCourse (names : List String) (u : UserProblem) (g₀ g : Engine τ) : Prop where
  inStep : g.InStep names u g
  saves : g.SavesGoOn g.executor.solver
  solver : g.executor.solver = g₀.executor.solver
  settings : g.executor.settings = g₀.executor.settings
  signal : g.executor.signal = g₀.executor.signal

theorem OnCourse.iterate (hg : g₀.OnCourse names u g) {kind : CallKind} {started : τ}
    (hi : g.iterate kind started = .ok g') : g₀.OnCourse names u g' := by
  obtain ⟨v, ha, hstands, hkeeps⟩ := iterate_ok hi
  have hk := iterate_keeps kind started g
  have hsaves := hg.saves.advance kind started
  rw [hi] at hk
  rw [ha] at hsaves
  obtain ⟨w, hw, _, _, hgo⟩ := SavesGoOn.conclude hsaves
  have hgw : g' = w := by
    rw [iterate_eq, ha] at hi
    exact Except.ok.inj (hi.symm.trans hw)
  exact ⟨(hg.inStep.itself ha).stands ⟨hstands, hkeeps⟩ ⟨hstands, hkeeps⟩, hgw ▸ hgo,
    hk.solver.trans hg.solver, hk.settings.trans hg.settings, hk.signal.trans hg.signal⟩

omit [Clock τ] in
theorem Anew.onCourse (h₀ : g₀.Anew names u) : g₀.OnCourse names u g₀.begun.settled where
  inStep := ⟨rfl, h₀.honest, h₀.user, rfl, rfl, ⟨h₀.untimed, h₀.untimed⟩, .refl h₀.tidy.settled⟩
  saves := h₀.saves.of_same rfl rfl
  solver := rfl
  settings := rfl
  signal := rfl

theorem Course.onCourse (h₀ : g₀.Anew names u) (hc : g₀.Course past g) :
    g₀.OnCourse names u g := by
  induction hc with
  | start hs => exact h₀.onCourse.iterate ((start_fresh h₀.nothing _).symm.trans hs)
  | step _ _ hi ih => exact ih.iterate hi

/-! ## Going on from a snapshot -/

/-- How a run begins that goes on from a snapshot. If it can go on from the
state, it begins with that state opened. -/
structure Resumes (h : Engine τ) (s : Snapshot τ) (v : Engine τ) : Prop where
  solver : v.executor.solver = s.solver
  settings : v.executor.settings = h.executor.settings
  signal : v.executor.signal = h.executor.signal
  problem : v.executor.problem =
    { h.executor.problem with counts := h.executor.problem.counts.overlay s.state.counts }
  policy : v.executor.policy = h.executor.policy.map (·.loaded (some s))
  world : h.world.Follows Event.NoCall v.world
  state : s.state.Resumable → ∃ base, v.executor.state = (s.state.renumbered base).settled.opened

omit [Clock τ] in
/-- Noting that a snapshot was loaded only counts its iteration as tried. -/
theorem noteLoaded_eq (h : Engine τ) (s : Snapshot τ) :
    (h.noteLoaded s).executor =
        { h.executor with policy := h.executor.policy.map (·.loaded (some s)) } ∧
      h.world.Follows Event.NoCall (h.noteLoaded s).world := by
  unfold noteLoaded
  cases hp : h.executor.policy with
  | none =>
    refine ⟨?_, World.Follows.refl _⟩
    dsimp only [Option.map_none]
    rw [← hp]
  | some p => exact ⟨rfl, World.note_follows _ (e := .resumed _ _) rfl⟩

omit [Clock τ] in
/-- Going on from a snapshot keeps what the executor was built with, but for
the solver, the counters and the state. -/
theorem resume_eq (h : Engine τ) (s : Snapshot τ) :
    (h.resume s).executor.solver = s.solver ∧
      (h.resume s).executor.settings = h.executor.settings ∧
      (h.resume s).executor.signal = h.executor.signal ∧
      (h.resume s).executor.problem =
        { h.executor.problem with counts := h.executor.problem.counts.overlay s.state.counts } ∧
      (h.resume s).executor.policy = h.executor.policy ∧
      h.world.Follows Event.NoCall (h.resume s).world := by
  have hw : h.world.Follows Event.NoCall
      ((ignoredNames s.state.counts).foldl (fun w n => w.note (.ignoredCounter n)) h.world) :=
    World.foldl_follows (p := Event.NoCall) id
      (fun w n => World.note_follows w (e := .ignoredCounter n) rfl) _ h.world
  unfold resume
  dsimp only
  split
  · exact ⟨rfl, rfl, rfl, rfl, rfl, hw.trans (World.note_follows _ (e := .reopened _) rfl)⟩
  · exact ⟨rfl, rfl, rfl, rfl, rfl, hw⟩

omit [Clock τ] in
/-- A state that a run can go on from is opened, if its run was aborted. -/
theorem resume_state (h : Engine τ) {s : Snapshot τ} (hr : s.state.Resumable) :
    (h.resume s).executor.state =
      (s.state.renumbered h.executor.state.sharing.next).settled.opened := by
  unfold resume
  dsimp only
  rcases hr with hr | ⟨streak, text, hr⟩
  · simp only [hr, Status.running]
    have hs : (s.state.renumbered h.executor.state.sharing.next).settled.status = .running := hr
    exact (State.opened_of_running hs).symm
  · simp only [hr]
    rfl

theorem start_resumes {s : Snapshot τ} (hn : h.stored = .ok (some s)) :
    ∃ v, h.Course [] v ∧ h.Resumes s v := by
  obtain ⟨hexecutor, hnoted⟩ := noteLoaded_eq h.begun.settled s
  have hbegun : h.world.Follows Event.NoCall h.begun.settled.world :=
    World.note_follows _ (e := .started _) rfl
  refine ⟨_, .start (start_resumed hn _), ?_⟩
  generalize h.begun.settled.noteLoaded s = w at *
  obtain ⟨hsolver, hsettings, hsignal, hproblem, hpolicy, hworld⟩ := resume_eq w s
  rw [hexecutor] at hsettings hsignal hproblem hpolicy
  exact ⟨hsolver, hsettings, hsignal, hproblem, hpolicy, (hbegun.trans hnoted).trans hworld,
    fun hr => ⟨_, resume_state w hr⟩⟩

omit [Clock τ] in
/-- What saves do to a run is the same when it goes on from a snapshot. -/
theorem Resumes.saves {s : Snapshot τ} {v : Engine τ} {x : Solver τ} (hr : h.Resumes s v)
    (hs : h.SavesGoOn x) : v.SavesGoOn x := by
  intro q hq
  rw [hr.policy] at hq
  obtain ⟨p, hp, rfl⟩ := Option.map_eq_some_iff.mp hq
  have hcabinet := World.cabinet_of_cabinets hr.world.cabinets p.cabinet
  rcases hs p hp with hfatal | ⟨good, hworks, hgood⟩
  · exact .inl hfatal
  · exact .inr ⟨good, hworks, hcabinet ▸ hgood⟩

/-- An executor that takes over: it has the criteria of another and, around it,
the same user's problem; it is not timed, no save ends its run, and it finds a
snapshot to go on from. What else it was built with does not matter. -/
structure TakesOver (g₀ : Engine τ) (s : Snapshot τ) (h : Engine τ) : Prop where
  created : h.executor.phase = .created
  untimed : h.executor.settings.timer = false
  saves : h.SavesGoOn s.solver
  criteria : h.executor.settings.criteria = g₀.executor.settings.criteria
  user : h.executor.problem.user = g₀.executor.problem.user
  found : h.stored = .ok (some s)

/-- The run of an executor that takes over starts abreast of the engine whose
state it has loaded, if that state was running or is opened again. -/
theorem TakesOver.abreast {t : State τ} (h₀ : g₀.Anew names u) (hc : g₀.Course past g)
    (ht : t.Resumable) (halike : g.executor.state.Alike names t.opened)
    (hh : g₀.TakesOver ⟨g₀.executor.solver, t⟩ h) :
    ∃ h', h.Course [] h' ∧ g.Abreast names u g.world.calls h.world.calls h' := by
  have hon := hc.onCourse h₀
  obtain ⟨v, hv, hresumes⟩ := start_resumes hh.found
  obtain ⟨base, hstate⟩ := hresumes.state ht
  have hcounts : t.counts = g.executor.problem.counts.toTable :=
    halike.counts.symm.trans (hc.counts h₀.honest.counts h₀.nothing)
  have huser : h.executor.problem.user = g.executor.problem.user :=
    hh.user.trans (h₀.user.trans hon.inStep.user.symm)
  refine ⟨v, hv, ⟨hresumes.solver.trans hon.solver.symm, hon.inStep.honest, hon.inStep.user, ?_,
    ?_, ?_, ?_⟩, ⟨hon.saves, ?_⟩, [], (List.append_nil _).symm, ?_,
    fun _ hm => absurd hm List.not_mem_nil⟩
  · rw [hresumes.problem, hcounts, Counts.overlay_toTable]
    exact congrArg (fun x => (⟨x, g.executor.problem.counts⟩ : Problem)) huser
  · rw [hresumes.settings, hon.settings]
    exact hh.criteria
  · rw [hresumes.settings]
    exact ⟨hon.inStep.untimed.1, hh.untimed⟩
  · rw [hstate]
    have htidy := halike.tidy.2
    exact halike.trans ((State.alike_renumbered htidy _).trans
      (State.alike_settled (htidy.renumbered _)))
  · rw [hresumes.solver]
    exact hresumes.saves hh.saves
  · rw [hresumes.world.toGrows.calls, List.append_nil]

/-! ## Runs that end alike -/

/-- Outcomes that agree in every field of the state, some entries of the
record apart, in the problem with its counters, and in the failure. -/
structure SameOutcome (names : List String) (o p : Outcome τ) : Prop where
  state : o.state.told names = p.state.told names
  problem : o.problem = p.problem
  error : o.error = p.error

/-- Runs that end alike: neither comes to an end, or both do with the same
outcome, and since the calls that each had made before, both have made the
same steps. -/
inductive EndAlike (names : List String) (before before' : List (CallKind × Int)) :
    Except Fault (Option (Engine τ × Outcome τ)) → Except Fault (Option (Engine τ × Outcome τ)) →
      Prop
  | unended : EndAlike names before before' (.ok none) (.ok none)
  | ended {a b : Engine τ × Outcome τ} (same : SameOutcome names a.2 b.2)
      (more : List (CallKind × Int)) (ha : a.1.world.calls = before ++ more)
      (hb : b.1.world.calls = before' ++ more) (steps : ∀ c ∈ more, c.1 = .step) :
      EndAlike names before before' (.ok (some a)) (.ok (some b))

variable {before before' : List (CallKind × Int)} {h₀ : Engine τ} {past' : List (State τ)}

omit [Clock τ] in
/-- Attempts that left engines abreast are concluded alike. -/
theorem concluded_alike {x y : Attempt τ} (name name' : String)
    (hxy : Attempt.Both (Abreast names u before before') (Abreast names u before before') x y) :
    EndAlike names before before' (.ok (some (concluded name x)))
      (.ok (some (concluded name' y))) := by
  have hx := concluded_calls name x
  have hy := concluded_calls name' y
  cases hxy with
  | ok hab =>
    obtain ⟨more, hg, hh, hsteps⟩ := hab.calls
    exact .ended ⟨hab.inStep.state.told, hab.inStep.problem.symm, rfl⟩ more (hx.trans hg)
      (hy.trans hh) hsteps
  | @error f g h hab =>
    obtain ⟨more, hg, hh, hsteps⟩ := hab.calls
    obtain ⟨hsg, hpg⟩ := markFailed_state g name f
    obtain ⟨hsh, hph⟩ := markFailed_state h name' f
    refine .ended ⟨?_, ?_, rfl⟩ more (hx.trans hg) (hy.trans hh) hsteps
    · have hfailed := hab.inStep.state.alter (fun s => { s with status := ⟨some (.error f)⟩ })
        (fun s => { s with status := ⟨some (.error f)⟩ }) (fun _ => ⟨rfl, rfl⟩) (fun _ => rfl)
      have hstate : (g.markFailed name f).executor.state.told names =
          (h.markFailed name' f).executor.state.told names := by
        rw [hsg, hsh, ← hab.inStep.state.terminated]
        split
        · exact hab.inStep.state.told
        · exact hfailed.told
      exact hstate
    · exact hpg.trans (hab.inStep.problem.symm.trans hph.symm)

omit [Clock τ] in
/-- A last save keeps engines abreast. -/
theorem Abreast.save (hab : g.Abreast names u before before' h) (final : Bool) :
    Attempt.Both (Abreast names u before before') (Abreast names u before before')
      (g.save final) (h.save final) := by
  obtain ⟨a, ha, hstands, hkeeps, hgo⟩ := hab.saves.1.save final
  obtain ⟨b, hb, hstands', hkeeps', hgo'⟩ := hab.saves.2.save final
  rw [ha, hb]
  refine .ok ⟨hab.inStep.stands ⟨hstands, hkeeps⟩ ⟨hstands', hkeeps'⟩, ⟨?_, ?_⟩, ?_⟩
  · exact hkeeps.solver ▸ hgo
  · exact hkeeps'.solver ▸ hgo'
  · rw [hkeeps.world.calls, hkeeps'.world.calls]
    exact hab.calls

theorem onward_alike (hq : g₀.StaysQuiet) (hq' : h₀.StaysQuiet) (hc : g₀.Course past g)
    (hc' : h₀.Course past' h) (hab : g.Abreast names u before before' h) (limit : Nat) :
    (g.onward g₀.world.clock limit = none ∧ h.onward h₀.world.clock limit = none) ∨
    ∃ x y, g.onward g₀.world.clock limit = some x ∧ h.onward h₀.world.clock limit = some y ∧
      Attempt.Both (Abreast names u before before') (Abreast names u before before') x y := by
  induction limit generalizing past past' g h with
  | zero =>
    cases ht : g.executor.state.terminated with
    | true =>
      rw [onward_terminated _ _ ht, onward_terminated _ _ (hab.inStep.state.terminated ▸ ht)]
      exact .inr ⟨_, _, rfl, rfl, hab.save true⟩
    | false =>
      exact .inl ⟨onward_zero _ ht, onward_zero _ (hab.inStep.state.terminated ▸ ht)⟩
  | succ limit ih =>
    cases ht : g.executor.state.terminated with
    | true =>
      rw [onward_terminated _ _ ht, onward_terminated _ _ (hab.inStep.state.terminated ▸ ht)]
      exact .inr ⟨_, _, rfl, rfl, hab.save true⟩
    | false =>
      have ht' : h.executor.state.terminated = false := hab.inStep.state.terminated ▸ ht
      rw [onward_step _ _ ht, onward_step _ _ ht']
      have hboth := hab.iterate g₀.world.clock h₀.world.clock (hq _ _ _ (.step hc ht))
        (hq' _ _ _ (.step hc' ht'))
      cases hi : g.iterate .step g₀.world.clock with
      | ok a =>
        cases hj : h.iterate .step h₀.world.clock with
        | ok b =>
          rw [hi, hj] at hboth
          cases hboth with
          | ok hab' => exact ih (.step hc ht hi) (.step hc' ht' hj) hab'
        | error f =>
          rw [hi, hj] at hboth
          cases hboth
      | error f =>
        cases hj : h.iterate .step h₀.world.clock with
        | ok b =>
          rw [hi, hj] at hboth
          cases hboth
        | error f' =>
          rw [hi, hj] at hboth
          exact .inr ⟨_, _, rfl, rfl, hboth.errors⟩

/-- A run that has come to an engine of its course, and another that has come
to an engine abreast of that, end alike. -/
theorem runs_alike (hp : g₀.executor.phase = .created) (hp' : h₀.executor.phase = .created)
    (hq : g₀.StaysQuiet) (hq' : h₀.StaysQuiet) (hc : g₀.Course past g) (hc' : h₀.Course past' h)
    (hab : g.Abreast names u before before' h) (limit : Nat) :
    EndAlike names before before' (g₀.run (past.length + limit))
      (h₀.run (past'.length + limit)) := by
  rw [run_of_course hp hc, run_of_course hp' hc']
  rcases onward_alike hq hq' hc hc' hab limit with ⟨hg, hh⟩ | ⟨x, y, hx, hy, hxy⟩
  · rw [hg, hh]
    exact .unended
  · rw [hx, hy]
    exact concluded_alike _ _ hxy

/-! ## The law -/

/-- The signal that an executor hears stays the same in its run. -/
theorem Course.signal (hc : g₀.Course past g) : g.executor.signal = g₀.executor.signal := by
  induction hc with
  | start hs =>
    rcases start_ok hs with ⟨_, hi⟩ | ⟨s, hn, _⟩
    · have hk := iterate_keeps .opening g₀.world.clock g₀.begun.settled
      rw [hi] at hk
      exact hk.signal
    · obtain ⟨v, hv, hresumes⟩ := start_resumes hn
      obtain rfl := Except.ok.inj (hv.begins.symm.trans hs)
      exact hresumes.signal
  | @step past g g' _ _ hi ih =>
    have hk := iterate_keeps .step g₀.world.clock g
    rw [hi] at hk
    exact hk.signal.trans ih

theorem staysQuiet_of_no_signal (hs : g₀.executor.signal = none) : g₀.StaysQuiet := by
  intro kind past g hc
  have hg : g.executor.signal = none := by
    cases hc with
    | opening _ => exact hs
    | step hc _ => exact hc.signal.trans hs
  exact not_aborted ((iterate_keeps kind g₀.world.clock g).signal.trans hg)

theorem replay_anew (flags : List Bool) (m : Nat) (w : World Float) (names : List String) :
    (underLimit (Sample.replay flags) m none none w).Anew names .nothing where
  created := rfl
  nothing := rfl
  untimed := rfl
  saves := no_policy_saves
  user := rfl
  honest := Sample.replay_hidesNothing flags names .nothing
  tidy p n h := by
    cases p with
    | field f => cases h
    | member i => cases h

/-- A run that goes on from a checkpoint ends as the uninterrupted run. From
whichever iteration the stored state is, if it is not terminated: an executor
that takes over from it ends with the same state in every field, the same
counters of the problem and the same failure, and makes just the calls that
were still missing. -/
theorem a_resumed_run_ends_as_the_uninterrupted_one (h₀ : g₀.Anew [] u)
    (hs : g₀.executor.signal = none) (hc : g₀.Course past g)
    (hr : g.executor.state.terminated = false)
    (hh : g₀.TakesOver ⟨g₀.executor.solver, g.executor.state⟩ h)
    (hs' : h.executor.signal = none) (limit : Nat) :
    EndAlike [] g.world.calls h.world.calls (g₀.run (past.length + limit)) (h.run limit) := by
  have hrunning := State.not_terminated_iff.mp hr
  have halike : g.executor.state.Alike [] g.executor.state.opened := by
    rw [State.opened_of_running hrunning]
    exact (hc.onCourse h₀).inStep.state
  obtain ⟨h', hc', hab⟩ := hh.abreast h₀ hc (.inl hrunning) halike
  have hend := runs_alike h₀.created hh.created (staysQuiet_of_no_signal hs)
    (staysQuiet_of_no_signal hs') hc hc' hab limit
  simpa only [List.length_nil, Nat.zero_add] using hend

/-- The law for a replay that is taken over after its opening, by an executor
that was built with another solver. -/
theorem a_replay_is_resumed :
    ∃ g h, (underLimit (Sample.replay [true, false]) 3 none none (.start 0)).Course [] g ∧
      g.executor.state.terminated = false ∧
      (underLimit (Sample.replay [true, false]) 3 none none (.start 0)).TakesOver
        ⟨Sample.replay [true, false], g.executor.state⟩ h ∧
      ∀ limit, EndAlike [] g.world.calls h.world.calls
        ((underLimit (Sample.replay [true, false]) 3 none none (.start 0)).run (0 + limit))
        (h.run limit) := by
  obtain ⟨g, hg, _, _, _, hgl⟩ :=
    replay_opens_unsaved (List.cons_ne_nil true [false]) 3 (.start 0)
  have hopen := State.not_terminated_iff.mpr hgl.status
  have hover : (underLimit (Sample.replay [true, false]) 3 none none (.start 0)).TakesOver
      ⟨Sample.replay [true, false], g.executor.state⟩
      (underLimit (Sample.replay [false]) 3 (some (inMemory true)) none
        ((World.start 0).putCabinet "memory" (Checkpoint.Memory.put "run"
          (.pair ⟨Sample.replay [true, false], g.executor.state⟩) .empty))) := by
    refine ⟨rfl, rfl, fun p hp => .inl ?_, rfl, rfl, rfl⟩
    cases hp
    rfl
  exact ⟨g, _, hg, hopen, hover,
    a_resumed_run_ends_as_the_uninterrupted_one (replay_anew _ _ _ _) rfl hg hopen hover rfl⟩

end Engine

end Minimize
