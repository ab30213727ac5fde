-- Runs that are aborted and resumed, any number of times. Up to the abort a
-- run is in step with the run that is never aborted. The abort is judged
-- before every other criterion, and the state is opened again when it is
-- resumed. So the resumed run ends as the run that was never aborted, unless
-- that one ended at the very iteration of the abort: then the abort hides the
-- reason, and the resumed run goes on past the end.
import Minimize.Proofs.Durability
import Minimize.Proofs.Pace

namespace Minimize

variable {τ : Type} [Clock τ]

/-! ## The record of an aborted iteration -/

theorem fullRecord_without (standard : Record) (record : Option Record) (status : Status) :
    Record.without (Engine.fullRecord standard record status) ["termination"] =
      Record.without (standard.merge (record.getD .empty)) ["termination"] := by
  unfold Engine.fullRecord
  dsimp only
  cases status.reason with
  | none => rfl
  | some r => exact Table.erase_insert _ _ _

namespace Engine

variable {u : UserProblem} {g g' h h' g₀ : Engine τ} {kind : CallKind} {started started' : τ}

/-! ## Beside a run that is aborted -/

/-- An engine in step with another that may have been aborted: they are in
step when that one is opened again. -/
structure Beside (u : UserProblem) (g h : Engine τ) : Prop where
  resumable : h.executor.state.Resumable
  inStep : g.InStep ["termination"] u (h.withState h.executor.state.opened)

omit [Clock τ] in
theorem Beside.running (hb : g.Beside u h) (hr : h.executor.state.terminated = false) :
    g.InStep ["termination"] u h := by
  have hs := hb.inStep
  rw [State.opened_of_running (State.not_terminated_iff.mp hr)] at hs
  exact hs

omit [Clock τ] in
theorem InStep.beside (hs : g.InStep ["termination"] u h)
    (hr : h.executor.state.terminated = false) : g.Beside u h := by
  have hrunning := State.not_terminated_iff.mp hr
  refine ⟨.inl hrunning, ?_⟩
  rw [State.opened_of_running hrunning]
  exact hs

/-- Judging one of two engines in step goes on only if nothing but an abort
can end the other. -/
theorem InStep.judge_beside (hx : g.executor.solver.OnlyJudges)
    (hs : g.InStep ["termination"] u h) (ha : g.aborted = false)
    (hg : g.judge = .ok g') (hr : g'.executor.state.terminated = false)
    (hh : h.judge = .ok h') : g' = g ∧ g.Beside u h' := by
  have hx' : h.executor.solver.OnlyJudges := by
    rw [hs.solver]
    exact hx
  rcases judge_ok hx hg with ⟨ht, rfl⟩ | ⟨ht, o, ho, rfl⟩
  · exact nomatch ht.symm.trans hr
  · cases o with
    | some r => cases hr
    | none =>
      refine ⟨rfl, ?_⟩
      have ht' : h.executor.state.terminated = false := hs.state.terminated ▸ ht
      rcases judge_ok hx' hh with ⟨ht'', _⟩ | ⟨_, o', ho', rfl⟩
      · exact nomatch ht''.symm.trans ht'
      · rw [hs.criteria, hs.solver,
          ← hs.state.checkTermination hs.honest g.executor.settings.criteria] at ho'
        cases hab : h.aborted with
        | false =>
          rw [hab, ← ha, ho] at ho'
          cases ho'
          exact hs.beside ht'
        | true =>
          rw [hab] at ho'
          cases ho'
          refine ⟨.inr ⟨none, none, rfl⟩, ?_⟩
          have hopened : ({ h.executor.state with status := ⟨some .aborted⟩ } : State τ).opened =
              h.executor.state := State.opened_of_running (State.not_terminated_iff.mp ht')
          have hs' : g.InStep ["termination"] u (h.withState
              ({ h.executor.state with status := ⟨some .aborted⟩ } : State τ).opened) := by
            rw [hopened]
            exact hs
          exact hs'

/-- The records of engines side by side differ at most in what they tell of
the end. -/
theorem Beside.complete (hb : g.Beside u h) {record : Option Record}
    (hg : g.complete record = .ok g') (hh : h.complete record = .ok h') : g'.Beside u h' := by
  obtain ⟨standard, hs, heg⟩ := complete_ok hg
  obtain ⟨standard', hs', heh⟩ := complete_ok hh
  have hi := hb.inStep.state
  have hsummary : g.executor.state.summary = h.executor.state.summary := hi.summary
  obtain rfl : standard = standard' := by
    rw [hs, hs'] at hsummary
    exact Except.ok.inj hsummary
  have halike := hi.noted ((fullRecord_without standard record g.executor.state.status).trans
    (fullRecord_without standard record h.executor.state.status).symm)
  refine ⟨?_, hb.inStep.moved ?_ ?_ ?_⟩
  · have hr := hb.resumable
    unfold State.Resumable at hr ⊢
    rw [heh]
    exact hr
  · constructor <;> rw [heg]
  · unfold withState
    constructor <;> rw [heh]
  · unfold withState
    rw [heg, heh]
    exact halike

omit [Clock τ] in
theorem Beside.stands (hb : g.Beside u h) (hg : g.Stands g' ∧ g.Keeps g')
    (hh : h.Stands h' ∧ h.Keeps h') : g'.Beside u h' := by
  have hi : g'.InStep ["termination"] u (h'.withState h.executor.state.opened) :=
    hb.inStep.stands hg ⟨⟨rfl, hh.1.problem, hh.1.improved⟩,
      ⟨hh.2.solver, hh.2.settings, hh.2.signal, hh.2.world⟩⟩
  refine ⟨?_, ?_⟩
  · rw [hh.1.state]
    exact hb.resumable
  · rw [hh.1.state]
    exact hi

/-- An iteration after which one of two engines in step goes on leaves the
other beside it: aborted, or going on as well. -/
theorem InStep.iterate_beside (hj : g.executor.solver.OnlyJudges)
    (hs : g.InStep ["termination"] u h) (ha : g.executor.signal = none)
    (hg : g.iterate kind started = .ok g')
    (hr : g'.executor.state.terminated = false) (hh : h.iterate kind started' = .ok h') :
    g'.Beside u h' := by
  obtain ⟨x, hx, hxs, hxk⟩ := iterate_ok hg
  obtain ⟨y, hy, hys, hyk⟩ := iterate_ok hh
  obtain ⟨a, record, v, hta, hja, hca⟩ := advance_ok hx
  obtain ⟨b, record', w, htb, hjb, hcb⟩ := advance_ok hy
  have hboth := (hs.enter kind).take kind started started'
  rw [hta, htb] at hboth
  cases hboth with
  | ok hab =>
    obtain ⟨hin, hrecord⟩ := hab
    dsimp only at hin hrecord
    have hquiet : a.aborted = false := not_aborted ((taken_signal hta).trans ha)
    have hrv : v.executor.state.terminated = false := by
      obtain ⟨_, _, he⟩ := complete_ok hca
      rw [hxs.state, he] at hr
      exact hr
    have hxa : a.executor.solver.OnlyJudges := by
      rw [taken_solver hta]
      exact hj
    obtain ⟨rfl, hbeside⟩ := hin.judge_beside hxa hquiet hja hrv hjb
    rw [← hrecord] at hcb
    exact (hbeside.complete hca hcb).stands ⟨hxs, hxk⟩ ⟨hys, hyk⟩

/-! ## In the shadow of a run -/

/-- An engine stands beside the one to which the run of `g₀` comes after `n`
steps, if that run goes on there. -/
def Shadows (u : UserProblem) (g₀ : Engine τ) (n : Nat) (v : Engine τ) : Prop :=
  ∀ past g, g₀.Course past g → past.length = n → g.executor.state.terminated = false → g.Beside u v

variable {n : Nat} {v v' : Engine τ}

theorem Shadows.step (hj : g₀.OnlyJudges) (hs : g₀.Shadows u n v) (hsig : g₀.executor.signal = none)
    (hr : v.executor.state.terminated = false) (hi : v.iterate .step started = .ok v') :
    g₀.Shadows u (n + 1) v' := by
  intro past g hc hl ht
  cases hc with
  | start _ => exact nomatch hl
  | @step past w _ hc hrw hiw =>
    have hb := hs past w hc (by simpa using hl) hrw
    exact (hb.running hr).iterate_beside (hc.works hj) (hc.signal.trans hsig) hiw ht hi

/-- A run that starts in the shadow of another stays in it until it ends. -/
theorem Course.shadows (hj : g₀.OnlyJudges) (hsig : g₀.executor.signal = none)
    (hs : ∀ w, h.Course [] w → g₀.Shadows u n w) {past : List (State τ)} (hc : h.Course past v) :
    g₀.Shadows u (n + past.length) v := by
  induction hc with
  | start hst => exact hs _ (.start hst)
  | @step past v w _ hr hi ih =>
    rw [List.length_append, ← Nat.add_assoc]
    exact ih.step hj hsig hr hi

/-- An executor built like another. -/
structure Doubles (g₀ h : Engine τ) : Prop where
  created : h.executor.phase = .created
  nothing : h.stored = .ok none
  untimed : h.executor.settings.timer = false
  solver : h.executor.solver = g₀.executor.solver
  problem : h.executor.problem = g₀.executor.problem
  criteria : h.executor.settings.criteria = g₀.executor.settings.criteria
  state : h.executor.state = g₀.executor.state

theorem Doubles.shadows (hj : g₀.OnlyJudges) (hd : g₀.Doubles h) (h₀ : g₀.Anew ["termination"] u)
    (hsig : g₀.executor.signal = none) (w : Engine τ) (hw : h.Course [] w) :
    g₀.Shadows u 0 w := by
  intro past g hc hl ht
  obtain rfl := List.length_eq_zero_iff.mp hl
  have hg := (start_fresh h₀.nothing _).symm.trans hc.begins
  have hw' := (start_fresh hd.nothing _).symm.trans hw.begins
  have hstate : h.begun.settled.executor.state = g₀.begun.settled.executor.state :=
    congrArg State.settled hd.state
  have hin : g₀.begun.settled.InStep ["termination"] u h.begun.settled := by
    refine ⟨hd.solver, h₀.honest, h₀.user, hd.problem, hd.criteria, ⟨h₀.untimed, hd.untimed⟩, ?_⟩
    rw [hstate]
    exact .refl h₀.tidy.settled
  exact InStep.iterate_beside (g := g₀.begun.settled) (hj.own h₀.nothing) hin hsig hg ht hw'

/-- An executor that takes over what an aborted run has left: it finds a state
that was aborted when the run of `g₀` had made `n` steps. -/
structure HandedOver (u : UserProblem) (g₀ : Engine τ) (n : Nat) (t : State τ) (h : Engine τ) :
    Prop where
  takesOver : g₀.TakesOver ⟨g₀.executor.solver, t⟩ h
  resumable : t.Resumable
  iteration : t.book.iteration = g₀.executor.state.book.iteration + n
  alike : ∀ past g, g₀.Course past g → past.length = n → g.executor.state.terminated = false →
    g.executor.state.Alike ["termination"] t.opened

/-- A run that takes over starts open, at the iteration of the state that it
has found. -/
theorem HandedOver.opened {t : State τ} (hh : g₀.HandedOver u n t h) (w : Engine τ)
    (hw : h.Course [] w) : w.executor.state.terminated = false ∧
      w.executor.state.book.iteration = g₀.executor.state.book.iteration + n := by
  obtain ⟨v, hv, hresumes⟩ := start_resumes hh.takesOver.found
  obtain rfl := (hw.unique hv rfl).2
  obtain ⟨base, hstate⟩ := hresumes.state hh.resumable
  rw [hstate]
  exact ⟨rfl, hh.iteration⟩

theorem HandedOver.shadows {t : State τ} (hh : g₀.HandedOver u n t h)
    (h₀ : g₀.Anew ["termination"] u) (w : Engine τ) (hw : h.Course [] w) :
    g₀.Shadows u n w := by
  intro past g hc hl ht
  obtain ⟨w', hw', hab⟩ := hh.takesOver.abreast h₀ hc hh.resumable (hh.alike past g hc hl ht)
  obtain rfl := (hw.unique hw' rfl).2
  exact hab.inStep.beside (hh.opened w hw).1

/-! ## Aborted again and again -/

/-- An executor that picks up after a run: it has the criteria of `g₀` and its
user's problem, is not timed, and resumes from what the run has left in its
store. How often it saves and what else it was built with does not matter. -/
structure PicksUp (g₀ a : Engine τ) (p q : Policy τ) (h : Engine τ) : Prop where
  created : h.executor.phase = .created
  untimed : h.executor.settings.timer = false
  criteria : h.executor.settings.criteria = g₀.executor.settings.criteria
  user : h.executor.problem.user = g₀.executor.problem.user
  policy : h.executor.policy = some q
  untried : q.lastAttempted = none
  resumes : q.resume = true
  store : q.store = p.store
  key : q.key = p.key
  cabinet : h.world.cabinet q.cabinet = a.world.cabinet p.cabinet

def Aborts (o : Outcome τ) : Prop :=
  o.error = none ∧ ∃ streak text, o.state.status = ⟨some ⟨.aborted, streak, text⟩⟩

/-- An executor that starts like `g₀`, or picks up after runs that were aborted
one after another, at these iterations, the latest first. -/
inductive Interrupted (g₀ : Engine τ) (good : Cabinet τ → Prop) :
    List Int → Policy τ → Engine τ → Prop
  | first {p : Policy τ} {h : Engine τ} (hd : g₀.Doubles h) (hs : h.Saves p good) :
      Interrupted g₀ good [] p h
  | again {at_ : List Int} {p q : Policy τ} {h h' : Engine τ} {limit : Nat}
      {a : Engine τ × Outcome τ} (hi : Interrupted g₀ good at_ p h)
      (hr : h.run limit = .ok (some a)) (ha : Aborts a.2) (hn : g₀.PicksUp a.1 p q h') :
      Interrupted g₀ good (a.2.iterations :: at_) q h'

/-- An executor whose run starts in the shadow of `g₀`, after `n` steps. -/
structure Ready (u : UserProblem) (g₀ : Engine τ) (good : Cabinet τ → Prop) (n : Nat)
    (p : Policy τ) (h : Engine τ) : Prop where
  created : h.executor.phase = .created
  saves : h.Saves p good
  works : p.store.Works p.key g₀.executor.solver good
  runs : h.RunsWith g₀.executor.solver
  shadows : ∀ w, h.Course [] w → g₀.Shadows u n w
  begins : ∀ w, h.Course [] w →
    w.executor.state.book.iteration = g₀.executor.state.book.iteration + n

variable {good : Cabinet τ → Prop} {p q : Policy τ} {a : Engine τ × Outcome τ} {limit : Nat}

omit [Clock τ] in
theorem PicksUp.found {w : Engine τ} {x : Solver τ} {t : State τ} (hn : g₀.PicksUp w p q h)
    (hp : p.Holds x t (w.world.cabinet p.cabinet)) : h.stored = .ok (some ⟨x, t⟩) := by
  have hholds : q.store.holds (.text q.key) (h.world.cabinet q.cabinet) = .ok true := by
    rw [hn.store, hn.key, hn.cabinet]
    exact hp.holds
  have hload : q.store.load (.text q.key) (h.world.cabinet q.cabinet) = .ok ⟨x, t⟩ := by
    rw [hn.store, hn.key, hn.cabinet]
    exact hp.load
  unfold Engine.stored
  rw [hn.policy]
  simp only [Policy.load, hn.resumes, hholds, hload, Bool.not_true, Bool.false_eq_true, if_false]
  rfl

theorem Ready.handedOver (hj : g₀.OnlyJudges) (hx : g₀.executor.solver.OnlyJudges)
    (hr : g₀.Ready u good n p h) (hsig : g₀.executor.signal = none)
    (hrun : h.run limit = .ok (some a)) (ha : Aborts a.2) (hn : g₀.PicksUp a.1 p q h') :
    ∃ m : Nat, a.2.iterations = g₀.executor.state.book.iteration + m ∧
      g₀.HandedOver u m a.2.state h' ∧ h'.Saves q good ∧
      q.store.Works q.key g₀.executor.solver good := by
  obtain ⟨hgood, hholds⟩ := a_run_leaves_its_last_state_in_the_store hx hr.created hr.saves
    hr.works hr.runs hrun ha.1
  obtain ⟨past, v, _, hc, _, _, _, hlast⟩ := run_over hr.created hrun ha.1
  have hits : a.2.iterations = g₀.executor.state.book.iteration + (n + past.length : Nat) := by
    have hv' := hc.iteration (hr.runs.onlyJudges hx).leavesIteration hr.begins
    unfold Outcome.iterations
    rw [hlast, hv']
    omega
  have hsaves : h'.Saves q good := ⟨hn.policy, hn.untried, hn.cabinet ▸ hgood⟩
  have hworks : q.store.Works q.key g₀.executor.solver good := by
    rw [hn.store, hn.key]
    exact hr.works
  refine ⟨n + past.length, hits, ⟨⟨hn.created, hn.untimed, ?_, hn.criteria, hn.user,
    hn.found hholds⟩, .inr ha.2, hits, ?_⟩, hsaves, hworks⟩
  · intro p' hp'
    rw [hn.policy] at hp'
    cases hp'
    exact .inr ⟨good, hworks, hsaves.good⟩
  · intro past' g hc' hl ht
    rw [hlast]
    exact (hc.shadows hj hsig hr.shadows past' g hc' hl ht).inStep.state

theorem Interrupted.ready {at_ : List Int} (hx : g₀.executor.solver.OnlyJudges)
    (hi : g₀.Interrupted good at_ p h) (h₀ : g₀.Anew ["termination"] u)
    (hsig : g₀.executor.signal = none)
    (hw : p.store.Works p.key g₀.executor.solver good) : ∃ n, g₀.Ready u good n p h := by
  have hj : g₀.OnlyJudges := .fresh h₀.nothing hx
  induction hi with
  | @first p h hd hs =>
    have hd' : h.OnlyJudges := .fresh hd.nothing (hd.solver ▸ hx)
    refine ⟨0, hd.created, hs, hw, .inl ⟨hd.nothing, hd.solver⟩, hd.shadows hj h₀ hsig, ?_⟩
    intro w hc
    rw [opening_iteration hd'.leavesIteration hd.nothing w hc, hd.state]
    exact (Int.add_zero _).symm
  | again hi hr ha hn ih =>
    rw [hn.store, hn.key] at hw
    obtain ⟨n, hready⟩ := ih hw
    obtain ⟨m, _, hover, hsaves, hworks⟩ := hready.handedOver hj hx hsig hr ha hn
    exact ⟨m, hover.takesOver.created, hsaves, hworks, .inr ⟨_, hover.takesOver.found,
      hover.resumable⟩, hover.shadows h₀, fun w hc => (hover.opened w hc).2⟩

/-- After an abort at an iteration the run is handed over there. -/
theorem Interrupted.handedOver {at_ : List Int} {k : Int} (hx : g₀.executor.solver.OnlyJudges)
    (hi : g₀.Interrupted good (k :: at_) p h) (h₀ : g₀.Anew ["termination"] u)
    (hsig : g₀.executor.signal = none) (hw : p.store.Works p.key g₀.executor.solver good) :
    ∃ (m : Nat) (t : State τ), k = g₀.executor.state.book.iteration + m ∧
      g₀.HandedOver u m t h := by
  cases hi with
  | again hi hr ha hn =>
    rw [hn.store, hn.key] at hw
    obtain ⟨n, hready⟩ := hi.ready hx h₀ hsig hw
    obtain ⟨m, hk, hover, _⟩ :=
      hready.handedOver (.fresh h₀.nothing hx) hx hsig hr ha hn
    exact ⟨m, _, hk, hover⟩

/-! ## The law -/

/-- Whether a run goes on at an iteration. -/
def GoesOnAt (g₀ : Engine τ) (k : Int) : Prop :=
  ∃ past g, g₀.Course past g ∧ g.executor.state.terminated = false ∧
    g.executor.state.book.iteration = k

/-- A run that has ended without a failure where it does not go on has ended by
then. -/
theorem iterations_le_of_not_goesOnAt (hj : g₀.OnlyJudges) (hphase : g₀.executor.phase = .created)
    (hn : g₀.stored = .ok none) {m : Nat}
    (hgo : ¬ g₀.GoesOnAt (g₀.executor.state.book.iteration + m))
    (hr : g₀.run limit = .ok (some a)) (he : a.2.error = none) :
    a.2.iterations ≤ g₀.executor.state.book.iteration + m := by
  obtain ⟨past, g, _, hc, _, _, _, hlast⟩ := run_over hphase hr he
  have hg := hc.iteration hj.leavesIteration (opening_iteration hj.leavesIteration hn)
  unfold Outcome.iterations
  rw [hlast, hg]
  rcases Nat.lt_or_ge m past.length with hlt | hle
  · obtain ⟨past', v, hc', hl, ht⟩ := hc.earlier hlt
    refine absurd ⟨past', v, hc', ht, ?_⟩ hgo
    rw [hc'.iteration hj.leavesIteration (opening_iteration hj.leavesIteration hn), hl]
  · omega

theorem HandedOver.lt_iterations {m : Nat} {t : State τ}
    (hx : g₀.executor.solver.OnlyJudges) (hh : g₀.HandedOver u m t h)
    (hr : h.run limit = .ok (some a)) (he : a.2.error = none) :
    g₀.executor.state.book.iteration + m < a.2.iterations := by
  obtain ⟨past, g, _, hc, ht, _, _, hlast⟩ := run_over hh.takesOver.created hr he
  have hg := hc.iteration (.resumed hh.takesOver.found hx.leavesIteration)
    fun v hv => (hh.opened v hv).2
  unfold Outcome.iterations
  rw [hlast, hg]
  cases past with
  | nil => exact nomatch (hh.opened g hc).1.symm.trans ht
  | cons s past =>
    rw [List.length_cons]
    omega

/-! ## A replay that is aborted at its opening -/

section

variable {flags : List Bool} {m : Nat}

/-- A replay whose signal is raised before it begins is aborted at its opening. -/
theorem replay_is_aborted (hf : flags ≠ []) (m : Nat) :
    ∃ a, (underLimit (Sample.replay flags) m (some (inMemory false)) (some 0)
        (((World.start 0).addSignal "stop").raise "stop")).run 0 = .ok (some a) ∧
      Aborts a.2 ∧ a.2.iterations = 0 ∧ ∃ b, a.2.bestCost = .bool b := by
  have hsaves : (underLimit (Sample.replay flags) m (some (inMemory false)) (some 0)
      (((World.start 0).addSignal "stop").raise "stop")).SavesGoOn (Sample.replay flags) := by
    intro p hp
    cases hp
    exact .inl rfl
  obtain ⟨v, hv, hvs, _, _, hvl⟩ := replay_opens hf rfl hsaves
  have hstatus : v.executor.state.status = ⟨some .aborted⟩ := hvl.status
  obtain ⟨w, hw, hstands, _, _⟩ := hvs.save true
  have hrun := run_of_course rfl hv 0
  rw [onward_terminated _ _ (State.terminated_of_reason hstatus), hw] at hrun
  have hlast : (w.close (Sample.replay flags).displayName none).2.state = v.executor.state :=
    hstands.state
  refine ⟨w.close (Sample.replay flags).displayName none, hrun, ⟨rfl, none, none, ?_⟩, ?_, ?_⟩
  · rw [hlast, hstatus]
    rfl
  · unfold Outcome.iterations
    rw [hlast]
    exact hvl.iteration
  · unfold Outcome.bestCost
    rw [hlast]
    exact hvl.bestCost

theorem replay_is_interrupted (hf : flags ≠ []) (m : Nat) :
    ∃ (w : World Float) (t : State Float),
      (underLimit (Sample.replay flags) m none none (.start 0)).Interrupted (fun _ => True) [0]
        (inMemory true) (underLimit (Sample.replay flags) m (some (inMemory true)) none w) ∧
      (underLimit (Sample.replay flags) m (some (inMemory true)) none w).stored =
        .ok (some ⟨Sample.replay flags, t⟩) ∧
      t.Resumable ∧ t.book.iteration = 0 ∧ ∃ b, t.book.bestCost = .bool b := by
  obtain ⟨a, hrun, ha, hits, hbest⟩ := replay_is_aborted hf m
  have hdoubles : (underLimit (Sample.replay flags) m none none (.start 0)).Doubles
      (underLimit (Sample.replay flags) m (some (inMemory false)) (some 0)
        (((World.start 0).addSignal "stop").raise "stop")) :=
    ⟨rfl, rfl, rfl, rfl, rfl, rfl, rfl⟩
  have hsaves : (underLimit (Sample.replay flags) m (some (inMemory false)) (some 0)
      (((World.start 0).addSignal "stop").raise "stop")).Saves (inMemory false) fun _ => True :=
    ⟨rfl, rfl, trivial⟩
  have hpicks : (underLimit (Sample.replay flags) m none none (.start 0)).PicksUp a.1
      (inMemory false) (inMemory true)
      (underLimit (Sample.replay flags) m (some (inMemory true)) none a.1.world) :=
    ⟨rfl, rfl, rfl, rfl, rfl, rfl, rfl, rfl, rfl, rfl⟩
  have hinterrupted := Interrupted.again (.first hdoubles hsaves) hrun ha hpicks
  rw [hits] at hinterrupted
  have hleft := a_run_leaves_its_last_state_in_the_store (fun _ => rfl) rfl hsaves
    (memory_works rfl rfl) (.inl ⟨rfl, rfl⟩) hrun ha.1
  exact ⟨a.1.world, a.2.state, hinterrupted, hpicks.found hleft.2, .inr ha.2, hits, hbest⟩

theorem interrupted_replay_ends (hf : flags ≠ []) {w : World Float} {t : State Float}
    (hn : (underLimit (Sample.replay flags) m (some (inMemory true)) none w).stored =
      .ok (some ⟨Sample.replay flags, t⟩))
    (ht : t.Resumable) (hi : t.book.iteration = 0) (hb : ∃ b, t.book.bestCost = .bool b) :
    ∃ b, (underLimit (Sample.replay flags) m (some (inMemory true)) none w).run (m + 1) =
        .ok (some b) ∧ b.2.error = none ∧ b.2.iterations = (max 1 m : Int) := by
  obtain ⟨v, hv, hresumes⟩ := start_resumes hn
  obtain ⟨base, hstate⟩ := hresumes.state ht
  have hsaves : (underLimit (Sample.replay flags) m (some (inMemory true)) none w).SavesGoOn
      v.executor.solver := by
    intro p hp
    cases hp
    exact .inl rfl
  have hreplays : v.Replays flags := by
    refine ⟨hresumes.solver, hf, ?_⟩
    rw [hstate]
    exact Int.le_of_eq hi.symm
  have hlimited : v.Limited m := by
    refine ⟨?_, ?_, ?_, fun _ => ?_⟩
    · rw [hresumes.settings]
      rfl
    · rw [hresumes.solver]
      rfl
    · rw [hresumes.solver]
      exact fun _ => rfl
    · rw [hstate]
      exact hb
  have hrunning : v.executor.state.status = .running := by
    rw [hstate]
    rfl
  have hquiet : v.aborted = false := by
    unfold aborted
    rw [hresumes.signal]
    rfl
  have hzero : v.executor.state.book.iteration = 0 := by
    rw [hstate]
    exact hi
  obtain ⟨u, hu, hus, hul⟩ := hlimited.iterate (hreplays.moves .step) (hresumes.saves hsaves)
    hrunning w.clock
  rw [hquiet, hzero] at hul
  have hsignal : u.executor.signal = none := by
    have hk := iterate_keeps .step w.clock v
    rw [hu] at hk
    exact hk.signal.trans hresumes.signal
  have hreach : (m : Int) ≤ CallKind.step.target 0 + m := by
    show (m : Int) ≤ 0 + 1 + m
    omega
  obtain ⟨g', hg', hlast, _⟩ := (hreplays.iterate hu).onward hul hus hsignal hreach
  have hend : v.onward w.clock (m + 1) = some (.ok g') := by
    rw [onward_step _ _ (State.not_terminated_iff.mpr hrunning), hu]
    exact hg'
  have hrun := run_of_course rfl hv (m + 1)
  have hclock : (underLimit (Sample.replay flags) m (some (inMemory true)) none w).world.clock =
      w.clock := rfl
  rw [List.length_nil, Nat.zero_add, hclock, hend] at hrun
  exact ⟨_, hrun, rfl, hlast⟩

end

/-- An abort is undone by resuming, unless it hid the end. The solver leaves the state
alone when it is asked whether the run is to stop. A run is aborted any number of times,
at whatever moments, and picked up each time from its last checkpoint; the last time it
is not aborted. If the run that is never aborted goes on at the iteration of the last
abort, both end alike: with the same state, counters and reason, after the same steps.
If it does not go on there, it had ended by then, and the resumed run goes past its end.
-/
theorem an_abort_is_undone_unless_it_hid_the_end (hx : g₀.executor.solver.OnlyJudges)
    (h₀ : g₀.Anew ["termination"] u)
    (hsig : g₀.executor.signal = none) {at_ : List Int} {k : Int}
    (hi : g₀.Interrupted good (k :: at_) p h)
    (hw : p.store.Works p.key g₀.executor.solver good) (hq : h.StaysQuiet) :
    (∀ past g, g₀.Course past g → g.executor.state.terminated = false →
      g.executor.state.book.iteration = k → ∀ limit, EndAlike ["termination"] g.world.calls
        h.world.calls (g₀.run (past.length + limit)) (h.run limit)) ∧
    (¬ g₀.GoesOnAt k → ∀ limit limit' a b, g₀.run limit = .ok (some a) → a.2.error = none →
      h.run limit' = .ok (some b) → b.2.error = none →
        a.2.iterations ≤ k ∧ k < b.2.iterations) := by
  have hj : g₀.OnlyJudges := .fresh h₀.nothing hx
  obtain ⟨m, t, rfl, hover⟩ := hi.handedOver hx h₀ hsig hw
  constructor
  · intro past g hc ht hk limit
    have hl : past.length = m := by
      rw [hc.iteration hj.leavesIteration (opening_iteration hj.leavesIteration h₀.nothing)] at hk
      omega
    obtain ⟨w, hw, hab⟩ := hover.takesOver.abreast h₀ hc hover.resumable
      (hover.alike past g hc hl ht)
    have hend := runs_alike h₀.created hover.takesOver.created (staysQuiet_of_no_signal hsig) hq hc
      hw hab limit
    simpa only [List.length_nil, Nat.zero_add] using hend
  · intro hgo limit limit' a b ha hea hb heb
    exact ⟨iterations_le_of_not_goesOnAt hj h₀.created h₀.nothing hgo ha hea,
      hover.lt_iterations hx hb heb⟩

/-- The law for a replay of three iterations, aborted at its opening. -/
theorem an_abort_of_a_replay_is_undone :
    ∃ g h, (underLimit (Sample.replay [true, false]) 3 none none (.start 0)).Course [] g ∧
      (underLimit (Sample.replay [true, false]) 3 none none (.start 0)).Interrupted
        (fun _ => True) [0] (inMemory true) h ∧
      ∀ limit, EndAlike ["termination"] g.world.calls h.world.calls
        ((underLimit (Sample.replay [true, false]) 3 none none (.start 0)).run (0 + limit))
        (h.run limit) := by
  have hflags : [true, false] ≠ [] := List.cons_ne_nil _ _
  obtain ⟨w, t, hinterrupted, _⟩ := replay_is_interrupted hflags 3
  obtain ⟨g, hg, _, _, _, hgl⟩ := replay_opens_unsaved hflags 3 (.start 0)
  have hlaw := an_abort_is_undone_unless_it_hid_the_end (fun _ => rfl) (replay_anew _ _ _ _) rfl
    hinterrupted (memory_works rfl rfl) (staysQuiet_of_no_signal rfl)
  exact ⟨g, _, hg, hinterrupted,
    hlaw.1 [] g hg (State.not_terminated_iff.mpr hgl.status) hgl.iteration⟩

/-- Under a limit of none the run ends at its opening. Aborted there and
resumed, it goes on: the abort has hidden the end. -/
theorem an_abort_can_hide_the_end :
    ∃ h a b, (underLimit (Sample.replay [true]) 0 none none (.start 0)).Interrupted
        (fun _ => True) [0] (inMemory true) h ∧ h.executor.signal = none ∧
      (underLimit (Sample.replay [true]) 0 none none (.start 0)).run 0 = .ok (some a) ∧
      a.2.error = none ∧ a.2.reason? = some .maxItersReached ∧ a.2.iterations = 0 ∧
      h.run 1 = .ok (some b) ∧ b.2.error = none ∧ b.2.iterations = 1 := by
  have hflags : [true] ≠ [] := List.cons_ne_nil _ _
  obtain ⟨w, t, hinterrupted, hstored, ht, hi, hb⟩ := replay_is_interrupted hflags 0
  obtain ⟨a, ha, hea, hia, hra⟩ := a_replay_ends_at_its_limit hflags 0 (.start 0)
  obtain ⟨b, hb, heb, hib⟩ := interrupted_replay_ends hflags hstored ht hi hb
  exact ⟨_, a, b, hinterrupted, rfl, ha, hea, hra, hia, hb, heb, hib⟩

end Engine

end Minimize
