-- The limit of iterations bounds every run whose solver leaves the iteration alone
-- when it is asked whether the run is to stop. A run goes on only from a state below the
-- limit, and every step counts one iteration, whatever the solver writes into the
-- state that it hands back. So the steps are counted by what is left up to the
-- limit; a run that goes on from a snapshot takes one step at least, as the
-- snapshot is not judged again. A solver that sets the iteration back when it is
-- asked is bounded by nothing.
import Minimize.Proofs.Breaks
import Minimize.Proofs.Resumption
import Minimize.Proofs.Stopping

namespace Minimize

variable {τ : Type} [Clock τ]

namespace Engine

variable {g₀ g : Engine τ} {past : List (State τ)} {i : Int} {cs : List (CallKind × Int)} {m : Nat}

/-! ## The calls of a run -/

def stepsFrom (i : Int) (n : Nat) : List (CallKind × Int) :=
  (List.range n).map fun k : Nat => (.step, i + k)

theorem stepsFrom_succ (i : Int) (n : Nat) :
    stepsFrom i (n + 1) = stepsFrom i n ++ [(.step, i + n)] := by
  simp [stepsFrom, List.range_succ]

/-- Where a run sets out: the iteration that it counts from, and the calls that
had been made by then. -/
structure SetsOut (g₀ : Engine τ) (i : Int) (cs : List (CallKind × Int)) : Prop where
  iteration : ∀ v, g₀.Course [] v → v.executor.state.book.iteration = i
  calls : ∀ v, g₀.Course [] v → v.world.calls = cs

theorem setsOut_fresh (hw : g₀.WorksBy Solver.LeavesIteration) (hn : g₀.stored = .ok none) :
    g₀.SetsOut g₀.executor.state.book.iteration
      (g₀.world.calls ++ [(.opening, g₀.executor.state.book.iteration)]) where
  iteration := opening_iteration hw hn
  calls v hv := by
    have hcalls := iterate_calls .opening g₀.world.clock g₀.begun.settled
    have hbegun : g₀.begun.settled.world.calls = g₀.world.calls :=
      (World.note_follows g₀.world (e := .started g₀.executor.runName) (p := Event.NoCall)
        rfl).toGrows.calls
    rw [(start_fresh hn _).symm.trans hv.begins, hbegun] at hcalls
    exact hcalls

/-- A run that goes on from a snapshot sets out from there, and has made no call
by then. -/
theorem setsOut_resumed {s : Snapshot τ} (hn : g₀.stored = .ok (some s)) :
    g₀.SetsOut s.state.book.iteration g₀.world.calls where
  iteration v hv := by
    obtain rfl := Except.ok.inj ((start_resumed hn _).symm.trans hv.begins)
    exact resume_iteration _ s
  calls v hv := by
    obtain ⟨w, hw, hresumes⟩ := start_resumes hn
    obtain ⟨_, rfl⟩ := hv.unique hw rfl
    exact hresumes.world.toGrows.calls

/-- Every step of a run calls the solver once more, at the next iteration. -/
theorem Course.steps (hw : g₀.WorksBy Solver.LeavesIteration) (hs : g₀.SetsOut i cs)
    (hc : g₀.Course past g) : g.world.calls = cs ++ stepsFrom i past.length := by
  induction hc with
  | start hstart => simp [hs.calls _ (.start hstart), stepsFrom]
  | @step past v w hc _ hi ih =>
    have hcalls := iterate_calls .step g₀.world.clock v
    rw [hi, hc.iteration hw hs.iteration, ih, List.append_assoc, ← stepsFrom_succ] at hcalls
    rw [List.length_append, List.length_singleton]
    exact hcalls

theorem Course.settings (hc : g₀.Course past g) :
    g.executor.settings = g₀.executor.settings := by
  induction hc with
  | @start v hs =>
    rcases start_ok hs with ⟨_, hi⟩ | ⟨s, hn, _⟩
    · have hkeeps := iterate_keeps .opening g₀.world.clock g₀.begun.settled
      rw [hi] at hkeeps
      exact hkeeps.settings
    · obtain ⟨w, hw, hresumes⟩ := start_resumes hn
      obtain ⟨_, rfl⟩ := (Course.start hs).unique hw rfl
      exact hresumes.settings
  | @step past v w _ _ hi ih =>
    have hkeeps := iterate_keeps .step g₀.world.clock v
    rw [hi] at hkeeps
    exact hkeeps.settings.trans ih

/-! ## Below the limit -/

/-- An iteration that leaves its state open leaves it below the limit. -/
theorem iterate_below {kind : CallKind} {started : τ} {g' : Engine τ}
    (hx : g.executor.solver.LeavesIteration)
    (hm : g.executor.settings.criteria.maxIters = some m) (hi : g.iterate kind started = .ok g')
    (hr : g'.executor.state.terminated = false) : g'.executor.state.book.iteration < m := by
  obtain ⟨u, ha, hstands, _⟩ := iterate_ok hi
  rw [hstands.state] at hr ⊢
  exact advance_below hx hm ha hr

/-- A run that has taken a step, and goes on, is below the limit. -/
theorem Course.below_after_step (hw : g₀.WorksBy Solver.LeavesIteration)
    (hm : g₀.executor.settings.criteria.maxIters = some m) (hc : g₀.Course past g)
    (hpast : past ≠ []) (hr : g.executor.state.terminated = false) :
    g.executor.state.book.iteration < m := by
  cases hc with
  | start _ => exact absurd rfl hpast
  | @step past v w hc _ hi =>
    rw [← hc.settings] at hm
    exact iterate_below (hc.works hw) hm hi hr

/-- A run from nothing goes on only below the limit. -/
theorem Course.below_limit (hw : g₀.WorksBy Solver.LeavesIteration)
    (hm : g₀.executor.settings.criteria.maxIters = some m) (hn : g₀.stored = .ok none)
    (hc : g₀.Course past g)
    (hr : g.executor.state.terminated = false) : g.executor.state.book.iteration < m := by
  by_cases hpast : past = []
  · subst hpast
    have hopening : g₀.begun.settled.iterate .opening g₀.world.clock = .ok g :=
      (start_fresh hn _).symm.trans hc.begins
    have hsettings : g₀.begun.settled.executor.settings.criteria.maxIters = some m := hm
    exact iterate_below (g := g₀.begun.settled) (hw.own hn) hsettings hopening hr
  · exact hc.below_after_step hw hm hpast hr

/-- So many steps, at most, does a run take: wherever it goes on, it has taken
fewer. -/
def StepsWithin (g₀ : Engine τ) (b : Nat) : Prop :=
  ∀ past g, g₀.Course past g → g.executor.state.terminated = false → past.length < b

theorem stepsWithin_fresh (hw : g₀.WorksBy Solver.LeavesIteration)
    (hm : g₀.executor.settings.criteria.maxIters = some m) (hn : g₀.stored = .ok none) :
    g₀.StepsWithin ((m : Int) - g₀.executor.state.book.iteration).toNat := by
  intro past g hc hr
  have hbelow := hc.below_limit hw hm hn hr
  rw [hc.iteration hw (opening_iteration hw hn)] at hbelow
  omega

theorem stepsWithin_resumed (hw : g₀.WorksBy Solver.LeavesIteration)
    (hm : g₀.executor.settings.criteria.maxIters = some m) {s : Snapshot τ}
    (hn : g₀.stored = .ok (some s)) :
    g₀.StepsWithin (max ((m : Int) - s.state.book.iteration) 1).toNat := by
  intro past g hc hr
  by_cases hpast : past = []
  · simp only [hpast, List.length_nil]
    omega
  · have hbelow := hc.below_after_step hw hm hpast hr
    rw [hc.iteration hw (setsOut_resumed hn).iteration] at hbelow
    omega

/-! ## The end -/

theorem StepsWithin.ends {b : Nat} (hb : g₀.StepsWithin b) (hp : g₀.executor.phase = .created) :
    ∃ r, g₀.Ends r ∧ ∀ limit, b ≤ limit →
      g₀.run limit = .ok (some (concluded g₀.executor.runName r)) := by
  have hends : ∀ limit, b ≤ limit → ∃ r, g₀.begun.attempt limit = some r := by
    intro limit hle
    cases ha : g₀.begun.attempt limit with
    | some r => exact ⟨r, rfl⟩
    | none =>
      obtain ⟨past, g, hc, hlength, hr⟩ := attempt_none ha
      have hshort := hb past g hc hr
      omega
  obtain ⟨r, hr⟩ := hends b (Nat.le_refl b)
  refine ⟨r, attempt_ends hr, fun limit hle => ?_⟩
  obtain ⟨r', hr'⟩ := hends limit hle
  rw [run_created hp, hr', attempt_agree hr' hr]
  rfl

/-- The steps that a run has tried when it is over: those of its course, and the
one that failed, if one did. -/
theorem Ends.steps {r : Attempt τ} {b : Nat} (hw : g₀.WorksBy Solver.LeavesIteration)
    (h : g₀.Ends r) (hs : g₀.SetsOut i cs) (hb : g₀.StepsWithin b) :
    (∃ f, g₀.stored = .error f) ∨
      (g₀.stored = .ok none ∧ r.left.world.calls = g₀.world.calls ++
        [(.opening, g₀.executor.state.book.iteration)]) ∨
      ∃ n ≤ b, r.left.world.calls = cs ++ stepsFrom i n := by
  cases h with
  | unread hn => exact .inl ⟨_, hn⟩
  | @failed kind past g f hc hi =>
    have hcalls := iterate_calls kind g₀.world.clock g
    rw [hi] at hcalls
    cases hc with
    | opening hn =>
      have hbegun : g₀.begun.settled.world.calls = g₀.world.calls :=
        (World.note_follows g₀.world (e := .started g₀.executor.runName) (p := Event.NoCall)
          rfl).toGrows.calls
      rw [hbegun] at hcalls
      exact .inr (.inl ⟨hn, hcalls⟩)
    | @step past g hc hr =>
      refine .inr (.inr ⟨past.length + 1, hb past g hc hr, ?_⟩)
      rw [hcalls, hc.iteration hw hs.iteration, hc.steps hw hs, stepsFrom_succ,
        List.append_assoc]
  | @finished past g hc ht =>
    have hcalls := (save_keeps g true).world.calls
    rw [hc.steps hw hs] at hcalls
    refine .inr (.inr ⟨past.length, ?_, hcalls⟩)
    cases hc with
    | start _ => exact Nat.zero_le b
    | @step past v _ hc hr _ =>
      have hshort := hb past v hc hr
      rw [List.length_append, List.length_singleton]
      exact hshort

/-- Where no check but the limit of iterations can have a word, and nothing aborts, a
word is given at the limit or beyond it. -/
theorem limit_of_word {v : Engine τ} {r : Reason}
    (hc : g₀.executor.settings.criteria = { Criteria.unset with maxIters := some m })
    (hearly : ∀ s r, g₀.executor.solver.terminateEarly s ≠ .ok (some r))
    (hr : r ≠ .aborted) (hfirst : Check.first (g₀.wordAt v) g₀.checks = .ok (some r)) :
    m ≤ v.executor.state.book.iteration := by
  obtain ⟨before, check, after, hchecks, _, hword⟩ := Check.first_eq_some hfirst
  have hmem : check ∈ g₀.checks := by
    rw [hchecks]
    simp
  unfold checks at hmem
  unfold wordAt at hword
  rw [hc] at hmem hword
  cases Criteria.grounds_of_word hword with
  | abort _ => exact absurd rfl hr
  | time hup => cases hup
  | iterations hm hle =>
    cases hm
    exact hle
  | target ht _ => cases ht
  | streak hp _ => cases hp
  | @budget counter limit _ =>
    have hnone : (Criteria.unset.maxEvaluations.entries : List (String × Period)) = [] := rfl
    simp [Criteria.checks, hnone] at hmem
  | solver hsays => exact absurd hsays (hearly _ _)

/-- So a run that is left open by its solver, also when that is asked, is over only
at the limit or beyond it. -/
theorem Course.over_at_limit (hx : g₀.executor.solver.LeavesIteration)
    (hn : g₀.stored = .ok none)
    (hc : g₀.executor.settings.criteria = { Criteria.unset with maxIters := some m })
    (hopen : g₀.LeavesOpen)
    (hstill : ∀ s, s.terminated = false → (g₀.executor.solver.revised s).terminated = false)
    (hearly : ∀ s r, g₀.executor.solver.terminateEarly s ≠ .ok (some r))
    (hcourse : g₀.Course past g) (ht : g.executor.state.terminated = true)
    (hr : g.executor.state.status ≠ ⟨some .aborted⟩) : m ≤ g.executor.state.book.iteration := by
  obtain ⟨v, o, _, hsolver, hleft, hfirst, hstate⟩ := hcourse.asked hn hopen
  cases o with
  | none =>
    have hquestioned : v.questioned.terminated = false := by
      rcases questioned_cases v with h | h
      · rw [h, hsolver]
        exact hstill _ hleft
      · rw [h]
        exact hleft
    rw [hstate] at ht
    cases hquestioned.symm.trans ht
  | some r =>
    have hleaves : v.executor.solver.LeavesIteration := by
      rw [hsolver]
      exact hx
    have hnever : r ≠ .aborted := by
      rintro rfl
      rw [hstate] at hr
      exact hr rfl
    rw [hstate]
    show m ≤ v.questioned.book.iteration
    rw [questioned_iteration hleaves]
    exact limit_of_word hc hearly hnever hfirst

/-- A run from nothing that neither fails nor is aborted, and has nothing to end
it but the limit of iterations, takes every step up to it. -/
theorem run_up_to (hw : g₀.WorksBy Solver.LeavesIteration) (hp : g₀.executor.phase = .created)
    (hn : g₀.stored = .ok none)
    (hc : g₀.executor.settings.criteria = { Criteria.unset with maxIters := some m })
    (hopen : g₀.LeavesOpen)
    (hstill : ∀ s, s.terminated = false → (g₀.executor.solver.revised s).terminated = false)
    (hearly : ∀ s r, g₀.executor.solver.terminateEarly s ≠ .ok (some r)) {limit : Nat}
    {h : Engine τ} {o : Outcome τ} (hrun : g₀.run limit = .ok (some (h, o)))
    (he : o.error = none) (hr : o.reason? ≠ some .aborted) :
    h.world.calls = g₀.world.calls ++ (.opening, g₀.executor.state.book.iteration) ::
      stepsFrom g₀.executor.state.book.iteration
        ((m : Int) - g₀.executor.state.book.iteration).toNat := by
  obtain ⟨past, g, g', hcourse, ht, hsave, hclosed, hlast⟩ := run_over hp hrun he
  have hlast' : o.state = g.executor.state := hlast
  have hle : (m : Int) ≤ g.executor.state.book.iteration := by
    refine hcourse.over_at_limit (hw.own hn) hn hc hopen hstill hearly ht fun habort => hr ?_
    rw [← hlast'] at habort
    exact congrArg Status.reason habort
  rw [hcourse.iteration hw (opening_iteration hw hn)] at hle
  have hm : g₀.executor.settings.criteria.maxIters = some m := by
    rw [hc]
  have hwithin : past.length ≤ ((m : Int) - g₀.executor.state.book.iteration).toNat := by
    cases hcourse with
    | start _ => exact Nat.zero_le _
    | @step past v _ hcourse hv _ =>
      rw [List.length_append, List.length_singleton]
      exact stepsWithin_fresh hw hm hn past v hcourse hv
  have hlength : past.length = ((m : Int) - g₀.executor.state.book.iteration).toNat := by omega
  have hend := concluded_calls g₀.executor.runName (.ok g')
  rw [← show (h, o) = concluded g₀.executor.runName (.ok g') from hclosed] at hend
  have hkeeps := save_keeps g true
  rw [hsave] at hkeeps
  have hsteps := hcourse.steps hw (setsOut_fresh hw hn)
  rw [hlength, List.append_assoc] at hsteps
  exact hend.trans (hkeeps.world.calls.trans hsteps)

/-! ## The law -/

/-- The limit of iterations bounds every run, whatever the solver hands back, if it
leaves the iteration alone when it is asked whether the run is to stop: a
run from nothing is over once it has taken as many steps as are left up to the
limit, a run that goes on from a snapshot as many or one. Each of its steps
calls the solver once, at the next iteration. If the limit is the only criterion,
and the run neither fails nor is aborted nor is terminated by its solver, also when
that is asked, a run from nothing takes all of these steps. -/
theorem a_limit_bounds_every_run (hw : g₀.WorksBy Solver.LeavesIteration)
    (hp : g₀.executor.phase = .created)
    (hm : g₀.executor.settings.criteria.maxIters = some m) :
    (∀ i, i = g₀.executor.state.book.iteration → g₀.stored = .ok none →
      ∃ h o n, (∀ limit, ((m : Int) - i).toNat ≤ limit → g₀.run limit = .ok (some (h, o))) ∧
        h.world.calls = g₀.world.calls ++ (.opening, i) :: stepsFrom i n ∧
        n ≤ ((m : Int) - i).toNat ∧
        (g₀.executor.settings.criteria = { Criteria.unset with maxIters := some m } →
          g₀.LeavesOpen →
          (∀ s, s.terminated = false → (g₀.executor.solver.revised s).terminated = false) →
          (∀ s r, g₀.executor.solver.terminateEarly s ≠ .ok (some r)) →
          o.error = none → o.reason? ≠ some .aborted → n = ((m : Int) - i).toNat)) ∧
    (∀ s i, i = s.state.book.iteration → g₀.stored = .ok (some s) →
      ∃ h o n, (∀ limit, (max ((m : Int) - i) 1).toNat ≤ limit →
          g₀.run limit = .ok (some (h, o))) ∧
        h.world.calls = g₀.world.calls ++ stepsFrom i n ∧ n ≤ (max ((m : Int) - i) 1).toNat) := by
  constructor
  · rintro i rfl hn
    have hb := stepsWithin_fresh hw hm hn
    obtain ⟨x, hends, hrun⟩ := hb.ends hp
    have hcalls := concluded_calls g₀.executor.runName x
    obtain ⟨n, hle, hsteps⟩ : ∃ n ≤ ((m : Int) - g₀.executor.state.book.iteration).toNat,
        x.left.world.calls = g₀.world.calls ++ (.opening, g₀.executor.state.book.iteration) ::
          stepsFrom g₀.executor.state.book.iteration n := by
      rcases hends.steps hw (setsOut_fresh hw hn) hb with ⟨f, hf⟩ | ⟨_, hopening⟩ | ⟨n, hle, hsteps⟩
      · cases hn.symm.trans hf
      · exact ⟨0, Nat.zero_le _, hopening⟩
      · exact ⟨n, hle, by rw [hsteps, List.append_assoc]; rfl⟩
    refine ⟨_, _, n, hrun, hcalls.trans hsteps, hle, fun hc hopen hstill hearly he hr => ?_⟩
    have hall := run_up_to hw hp hn hc hopen hstill hearly (hrun _ (Nat.le_refl _)) he hr
    have hsame := congrArg List.length ((hcalls.trans hsteps).symm.trans hall)
    simpa [stepsFrom] using hsame
  · rintro s i rfl hn
    have hb := stepsWithin_resumed hw hm hn
    obtain ⟨x, hends, hrun⟩ := hb.ends hp
    have hcalls := concluded_calls g₀.executor.runName x
    rcases hends.steps hw (setsOut_resumed hn) hb with ⟨f, hf⟩ | ⟨hnone, _⟩ | ⟨n, hle, hsteps⟩
    · cases hn.symm.trans hf
    · cases hn.symm.trans hnone
    · exact ⟨_, _, n, hrun, hcalls.trans hsteps, hle⟩

def atSeven : State Float :=
  (State.fresh .point).restore { Bookkeeping.fresh with iteration := 7 }

def findsSeven : Engine Float :=
  underLimit (Sample.replay [false]) 2 (some (inMemory true)) none
    ((World.start 0).putCabinet "memory"
      (Checkpoint.Memory.put "run" (.pair ⟨Sample.replay [true], atSeven⟩) .empty))

/-- The law for a replay, which takes the two steps of its limit, and for one
that goes on from beyond the limit. -/
theorem a_replay_is_bounded :
    (∃ h o, (underLimit (Sample.replay [true, false]) 2 none none (.start 0)).run 2 =
        .ok (some (h, o)) ∧ h.world.calls = [(.opening, 0), (.step, 0), (.step, 1)]) ∧
      ∃ h o n, findsSeven.run 1 = .ok (some (h, o)) ∧
        h.world.calls = stepsFrom 7 n ∧ n ≤ 1 := by
  constructor
  · obtain ⟨⟨h, o⟩, hrun, herror, _, hreason⟩ :=
      a_replay_ends_at_its_limit (List.cons_ne_nil true [false]) 2 (.start 0)
    obtain ⟨h', o', n, hbounded, hcalls, _, hexact⟩ :=
      (a_limit_bounds_every_run (.fresh rfl fun _ => rfl)
        (rfl : (underLimit (Sample.replay [true, false]) 2 none none
          (.start 0)).executor.phase = .created) rfl).1 0 rfl rfl
    obtain ⟨rfl, rfl⟩ := Prod.mk.inj (Option.some.inj (Except.ok.inj
      (hrun.symm.trans (hbounded 2 (by decide)))))
    have htwo := hexact rfl (sequence_leavesOpen rfl rfl rfl) (fun _ h => h)
      (fun _ _ hr => nomatch hr) herror
      (by rw [hreason]; decide)
    rw [htwo] at hcalls
    exact ⟨h, o, hrun, hcalls⟩
  · obtain ⟨h, o, n, hbounded, hcalls, hle⟩ :=
      (a_limit_bounds_every_run (.resumed rfl fun _ => rfl)
        (rfl : findsSeven.executor.phase = .created) rfl).2
        ⟨Sample.replay [true], atSeven⟩ 7 rfl rfl
    exact ⟨h, o, n, hbounded 1 (by decide), hcalls, hle⟩

/-! ## A run without an end -/

/-- A solver that sets the iteration back when it is asked whether the run is to
stop. -/
def rewinding : Solver Float :=
  { Sample.replay [true] with
    revised := fun s => { s with book := { s.book with iteration := 0 } } }

/-- An engine that works with that solver under a limit of three iterations, at an
iteration that was set back. -/
structure SetBack (g : Engine Float) : Prop where
  solver : g.executor.solver = rewinding
  settings : g.executor.settings.criteria = { Criteria.unset with maxIters := some 3 }
  silent : g.executor.signal = none
  saves : g.SavesGoOn rewinding
  reaches : g.Reaches 0 (.bool true) (.bool true) none

/-- An iteration of that solver is set back, whether it opens the run or is the step
after one that was set back. -/
theorem iterate_setBack {e : Engine Float} (kind : CallKind) (hx : e.executor.solver = rewinding)
    (hs : e.executor.settings.criteria = { Criteria.unset with maxIters := some 3 })
    (hsignal : e.executor.signal = none) (hgo : e.SavesGoOn rewinding)
    (hi : e.executor.state.book.iteration = 0) (hr : e.executor.state.status = .running)
    {better : Bool} (hb : e.executor.state.book.betters (.bool true) = .ok better)
    (hbest : (if better then .bool true else e.executor.state.book.bestCost) = .bool true) :
    ∃ v, e.iterate kind 0 = .ok v ∧ v.SetBack := by
  have hasks : e.Asks kind (.bool true) (.bool true) none [] := by
    refine asked_of_call ?_
    rw [hx]
    cases kind with
    | opening => rfl
    | step =>
      unfold Solver.call rewinding Sample.replay Sample.sequence
      dsimp only
      rw [hi]
      rfl
  obtain ⟨u, htake, husolver, husettings, huquiet, _, _, hu⟩ := taken_of_asked hasks hr hb 0
  rw [hi, hbest] at hu
  -- below the limit no criterion fires, and the solver is asked
  have hfiring : u.executor.settings.criteria.firing u.aborted u.executor.state = .ok none := by
    rw [husettings, hs, huquiet, not_aborted hsignal, firing_of_limit, hu.iteration]
    cases kind <;> rfl
  have hjudged := judge_of_silence hu.status hfiring (by rw [husolver, hx]; rfl)
  rw [husolver, hx] at hjudged
  obtain ⟨standard, hsummary⟩ :
      ∃ standard, (rewinding.revised u.executor.state).summary = .ok standard :=
    State.summary_ok (congrArg Value.toFloat hu.cost) (congrArg Value.toFloat hu.best) rfl
  obtain ⟨w, hw, hexecutor⟩ := advance_of_judge htake hjudged hsummary
  have hsaves : e.SavesGoOn e.executor.solver := hx ▸ hgo
  obtain ⟨v, hv, hstands, hkeeps, hvgo⟩ := hsaves.iterate hw
  have hwsolver : w.executor.solver = rewinding := by
    rw [hexecutor]
    exact husolver.trans hx
  have hvsolver : v.executor.solver = rewinding := hkeeps.solver.trans hwsolver
  refine ⟨v, hv, hvsolver, ?_, ?_, hvsolver ▸ hvgo, ?_⟩
  · rw [hkeeps.settings, hexecutor]
    exact (congrArg Settings.criteria husettings).trans hs
  · have hsame := iterate_keeps kind 0 e
    rw [hv] at hsame
    exact hsame.signal.trans hsignal
  · constructor
    all_goals rw [hstands.state, hexecutor]
    · rfl
    · exact hu.cost
    · exact hu.best
    · exact hu.hasBest
    · exact hu.status

/-- A run of that solver goes on at every iteration. -/
theorem course_setBack (n : Nat) : ∃ past g,
    (underLimit rewinding 3 none none (.start 0)).Course past g ∧ past.length = n ∧ g.SetBack := by
  induction n with
  | zero =>
    let e := (underLimit rewinding 3 none none (.start 0)).begun.settled
    have hbetter : e.executor.state.book.betters (.bool true) = .ok true := rfl
    have hsaves : e.SavesGoOn rewinding := fun _ hp => nomatch hp
    obtain ⟨g, hg, hback⟩ := iterate_setBack .opening rfl rfl rfl hsaves rfl rfl hbetter rfl
    exact ⟨[], g, .start ((start_fresh rfl _).trans hg), rfl, hback⟩
  | succ n ih =>
    obtain ⟨past, g, hc, hlength, hback⟩ := ih
    have hr := hback.reaches
    obtain ⟨better, _, hb, _⟩ := Bookkeeping.betters_flag true fun _ => ⟨true, hr.best⟩
    obtain ⟨v, hv, hvback⟩ := iterate_setBack .step hback.solver hback.settings hback.silent
      hback.saves hr.iteration hr.status hb (by rw [hr.best, ite_self])
    exact ⟨_, v, .step hc (State.not_terminated_iff.mpr hr.status) hv, by simp [hlength], hvback⟩

/-- However many steps are allowed, a run of that solver is not over after
them. -/
theorem rewinding_goes_on (limit : Nat) :
    (underLimit rewinding 3 none none (.start 0)).run limit = .ok none := by
  obtain ⟨past, g, hc, rfl, hback⟩ := course_setBack limit
  have hrun := run_of_course rfl hc 0
  rw [Nat.add_zero, onward_zero _ (State.not_terminated_iff.mpr hback.reaches.status)] at hrun
  exact hrun

/-- A solver that ends a run as soon as it is asked. -/
def ceasing : Solver Float :=
  { Sample.replay [true] with terminateEarly := fun _ => .ok (some .solverConverged) }

/-- Without the conditions on what the solver does when it is asked whether the run is
to stop, the law fails: one solver undoes the limit of three iterations, so that the
run is not over after any number of steps, another has it over after none. -/
theorem a_limit_can_bound_nothing :
    (∀ limit, (underLimit rewinding 3 none none (.start 0)).run limit = .ok none) ∧
    ∃ h o, (underLimit ceasing 3 none none (.start 0)).run 0 = .ok (some (h, o)) ∧
      o.state.status = ⟨some .solverConverged⟩ ∧ o.iterations = 0 := by
  refine ⟨rewinding_goes_on, ?_⟩
  have hmoves : (underLimit ceasing 3 none none (.start 0)).begun.settled.MovesTo .opening
      (.bool true) := rfl
  have hbetter :
      (underLimit ceasing 3 none none (.start 0)).begun.settled.executor.state.book.betters
        (.bool true) = .ok true := rfl
  obtain ⟨u, hu, _, _, hreaches⟩ := advance_of_call (o := some .solverConverged) (fun _ => rfl)
    hmoves rfl hbetter rfl rfl
    (fun s hi _ => by
      have hfiring : (underLimit ceasing 3 none none (.start 0)).executor.settings.criteria.firing
          false s = .ok none := (firing_of_limit 3 s).trans (by rw [hi]; rfl)
      show checkTermination (underLimit ceasing 3 none none (.start 0)).executor.settings.criteria
        (some ceasing.terminateEarly) false s = _
      unfold checkTermination
      rw [hfiring]
      rfl) 0
  have hcreated : (underLimit ceasing 3 none none (.start 0)).executor.phase = .created := rfl
  obtain ⟨h, o, hrun, hstate⟩ := run_of_terminated hcreated (.opening rfl) hu
    (State.terminated_of_reason hreaches.status)
  refine ⟨h, o, hrun, ?_, ?_⟩
  · rw [hstate]
    exact hreaches.status
  · unfold Outcome.iterations
    rw [hstate]
    exact hreaches.iteration

end Engine

end Minimize
