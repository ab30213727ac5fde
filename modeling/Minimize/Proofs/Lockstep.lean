-- Two engines in step. They have the same solver, problem and criteria and
-- stand at states that the solver cannot tell apart, whatever their worlds,
-- observers and stores are. If the solver hides nothing, neither run is timed
-- and no signal is raised, each part of an iteration keeps them in step.
import Minimize.Proofs.Course
import Minimize.Proofs.Iteration
import Minimize.Proofs.Likeness

namespace Minimize

variable {τ : Type} [Clock τ]

/-- Attempts that came to the same: both succeeded, or both met with the same
failure, and what they came to is related. -/
inductive Attempt.Both {α β : Type} (R : α → β → Prop) (S : Engine τ → Engine τ → Prop) :
    Except (Failed τ) α → Except (Failed τ) β → Prop
  | ok {a : α} {b : β} (h : R a b) : Both R S (.ok a) (.ok b)
  | error {f : Fault} {g h : Engine τ} (hs : S g h) : Both R S (.error ⟨f, g⟩) (.error ⟨f, h⟩)

omit [Clock τ] in
theorem Attempt.Both.bind {α β γ δ : Type} {R : α → β → Prop} {R' : γ → δ → Prop}
    {S : Engine τ → Engine τ → Prop} {x : Except (Failed τ) α} {y : Except (Failed τ) β}
    {f : α → Except (Failed τ) γ} {k : β → Except (Failed τ) δ} (h : Attempt.Both R S x y)
    (hf : ∀ a b, x = .ok a → y = .ok b → R a b → Attempt.Both R' S (f a) (k b)) :
    Attempt.Both R' S (x.bind f) (y.bind k) := by
  cases h with
  | ok h => exact hf _ _ rfl rfl h
  | error h => exact .error h

omit [Clock τ] in
theorem Attempt.Both.mono {α β : Type} {R R' : α → β → Prop} {S S' : Engine τ → Engine τ → Prop}
    {a : Except (Failed τ) α} {b : Except (Failed τ) β} (h : Attempt.Both R S a b)
    (hR : ∀ a b, R a b → R' a b) (hS : ∀ u v, S u v → S' u v) : Attempt.Both R' S' a b := by
  cases h with
  | ok h => exact .ok (hR _ _ h)
  | error h => exact .error (hS _ _ h)

omit [Clock τ] in
theorem Attempt.Both.errors {α β γ δ : Type} {R : α → β → Prop} {R' : γ → δ → Prop}
    {S : Engine τ → Engine τ → Prop} {f f' : Failed τ}
    (h : Attempt.Both R S (.error f) (.error f')) : Attempt.Both R' S (.error f) (.error f') := by
  cases h with
  | error h => exact .error h

/-! ## What the engine reads of a state -/

namespace State.Alike

variable {names : List String} {s t : State τ}

theorem firing (h : s.Alike names t) (c : Criteria) (aborted : Bool) :
    c.firing aborted s = c.firing aborted t :=
  h.same (c.firing aborted) fun _ => rfl

theorem summary (h : s.Alike names t) : s.summary = t.summary := by
  refine h.same State.summary fun x => ?_
  have hshape : (x.told names).shapeEntries = x.shapeEntries := by
    unfold State.shapeEntries State.told Shape.mapMembers
    cases x.shape <;> simp
  unfold State.summary
  rw [hshape]
  rfl

theorem checkTermination {u : UserProblem} {x : Solver τ} (hx : x.HidesNothing names u)
    (h : s.Alike names t) (c : Criteria) (aborted : Bool) :
    checkTermination c (some x.terminateEarly) aborted s =
      checkTermination c (some x.terminateEarly) aborted t := by
  unfold Minimize.checkTermination
  simp only [h.firing c aborted, hx.early s t h]

omit [Clock τ] in
theorem recordBest (h : s.Alike names t) :
    (∃ e, s.recordBest = .error e ∧ t.recordBest = .error e) ∨
    (∃ s' t' improved, s.recordBest = .ok (s', improved) ∧ t.recordBest = .ok (t', improved) ∧
      s'.Alike names t') := by
  unfold State.recordBest
  rw [← h.book, ← h.param, ← h.cost]
  cases s.book.recorded s.param s.cost with
  | error e => exact .inl ⟨e, rfl, rfl⟩
  | ok r =>
    refine .inr ⟨_, _, _, rfl, rfl, ?_⟩
    exact h.alter (·.restore r.1) (·.restore r.1) (fun _ => ⟨rfl, rfl⟩) fun _ => rfl

omit [Clock τ] in
theorem terminateWith (h : s.Alike names t) (r : Reason) :
    (∃ f, s.terminateWith r = .error f ∧ t.terminateWith r = .error f) ∨
    (∃ s' t', s.terminateWith r = .ok s' ∧ t.terminateWith r = .ok t' ∧ s'.Alike names t') := by
  unfold State.terminateWith
  rw [← h.same State.status fun _ => rfl]
  cases s.status.reason with
  | some standing => exact .inl ⟨_, rfl, rfl⟩
  | none =>
    refine .inr ⟨_, _, rfl, rfl, ?_⟩
    exact h.alter (fun x => { x with status := ⟨some r⟩ })
      (fun x => { x with status := ⟨some r⟩ }) (fun _ => ⟨rfl, rfl⟩) (fun _ => rfl)

end State.Alike

/-! ## Engines in step -/

/-- Engines in step: nothing that an iteration goes by differs between
them. -/
structure Engine.InStep (names : List String) (u : UserProblem) (g h : Engine τ) : Prop where
  solver : h.executor.solver = g.executor.solver
  honest : g.executor.solver.HidesNothing names u
  user : g.executor.problem.user = u
  problem : h.executor.problem = g.executor.problem
  criteria : h.executor.settings.criteria = g.executor.settings.criteria
  untimed : g.executor.settings.timer = false ∧ h.executor.settings.timer = false
  state : g.executor.state.Alike names h.executor.state

namespace Engine

/-- An engine with the solver, the problem and the settings of another. -/
structure SetUpLike (g g' : Engine τ) : Prop where
  solver : g'.executor.solver = g.executor.solver
  problem : g'.executor.problem = g.executor.problem
  settings : g'.executor.settings = g.executor.settings

variable {names : List String} {u : UserProblem} {g g' h h' : Engine τ}

omit [Clock τ] in
/-- Engines in step stay so wherever they go on to states that are alike. -/
theorem InStep.moved (hs : g.InStep names u h) (hg : g.SetUpLike g') (hh : h.SetUpLike h')
    (hst : g'.executor.state.Alike names h'.executor.state) : g'.InStep names u h' where
  solver := by rw [hh.solver, hg.solver, hs.solver]
  honest := by rw [hg.solver]; exact hs.honest
  user := by rw [hg.problem]; exact hs.user
  problem := by rw [hh.problem, hg.problem, hs.problem]
  criteria := by rw [hh.settings, hg.settings, hs.criteria]
  untimed := by rw [hh.settings, hg.settings]; exact hs.untimed
  state := hst

/-- What the solvers of engines in step are asked comes to the same. -/
theorem InStep.asked (hs : g.InStep names u h) (kind : CallKind) :
    (h.asked kind).problem = (g.asked kind).problem ∧ (g.asked kind).problem.user = u ∧
      (g.asked kind).left.Alike names (h.asked kind).left ∧
      (g.asked kind).answer.Alike names (h.asked kind).answer ∧ h.kept kind = g.kept kind := by
  have hh : h.asked kind = (g.executor.solver.call kind h.executor.state).run g.executor.problem
      (h.world.note (.called kind h.executor.state.book.iteration)) := by
    unfold Engine.asked
    dsimp only
    rw [hs.solver, hs.problem]
  obtain ⟨hproblem, huser, hleft, hanswer, hkept⟩ := (hs.honest.calls kind _ _ hs.state).run hs.user
    (g.world.note (.called kind g.executor.state.book.iteration))
    (h.world.note (.called kind h.executor.state.book.iteration))
  have hbook : h.kept kind = g.kept kind := by
    unfold Engine.kept
    rw [hh]
    exact (congrArg (Bookkeeping.afterAll · _) hs.state.book.symm).trans (hkept _).symm
  rw [hh]
  exact ⟨hproblem.symm, huser, hleft, hanswer, hbook⟩

theorem InStep.consult (hs : g.InStep names u h) (kind : CallKind) :
    Attempt.Both (fun a b => a.1.InStep names u b.1 ∧ a.2.Alike names b.2) (InStep names u)
      (g.consult kind) (h.consult kind) := by
  obtain ⟨hproblem, huser, hleft, hanswer, _⟩ := hs.asked kind
  unfold Engine.consult
  dsimp only
  rw [hs.solver]
  rcases hanswer.returned hleft g.executor.solver kind with
    ⟨f, hg, hh⟩ | ⟨r, r', hg, hh, hr⟩
  · rw [hg, hh]
    exact .error ⟨rfl, hs.honest, huser, hproblem, hs.criteria, hs.untimed, hs.state⟩
  · rw [hg, hh]
    exact .ok ⟨⟨rfl, hs.honest, huser, hproblem, hs.criteria, hs.untimed, hleft⟩, hr⟩

theorem InStep.carried (hs : g.InStep names u h) {s t : State τ} (hst : s.Alike names t)
    (book : Bookkeeping τ) (i : Int) (started started' : τ) :
    (g.carried s book i started).Alike names (h.carried t book i started') := by
  unfold Engine.carried Engine.elapsed
  rw [hs.problem, hs.untimed.1, hs.untimed.2]
  exact hst.alter
    (fun x => { x with
      book := { book with iteration := i }, counts := g.executor.problem.counts.toTable })
    (fun x => { x with
      book := { book with iteration := i }, counts := g.executor.problem.counts.toTable })
    (fun _ => ⟨rfl, rfl⟩) (fun _ => rfl)

theorem InStep.merge (hs : g.InStep names u h) {r r' : Returned τ} (hr : r.Alike names r')
    (book : Bookkeeping τ) (i : Int) (started started' : τ) :
    Attempt.Both (InStep names u) (InStep names u) (g.merge r book i started)
      (h.merge r' book i started') := by
  have hcarried := hs.carried hr.state book i started started'
  unfold Engine.merge
  dsimp only
  rw [← hr.inPlace]
  rcases hcarried.recordBest with ⟨e, hg, hh⟩ | ⟨s, t, improved, hg, hh, hst⟩
  · rw [hg, hh]
    cases r.inPlace with
    | true =>
      exact .error (hs.moved ⟨rfl, rfl, rfl⟩ ⟨rfl, rfl, rfl⟩ hcarried)
    | false => exact .error hs
  · rw [hg, hh]
    cases r.inPlace <;> exact .ok (hs.moved ⟨rfl, rfl, rfl⟩ ⟨rfl, rfl, rfl⟩ hst)

omit [Clock τ] in
theorem InStep.enter (hs : g.InStep names u h) (kind : CallKind) :
    (g.enter kind).InStep names u (h.enter kind) := by
  cases kind <;> exact hs.moved ⟨rfl, rfl, rfl⟩ ⟨rfl, rfl, rfl⟩ hs.state

theorem InStep.take (hs : g.InStep names u h) (kind : CallKind) (started started' : τ) :
    Attempt.Both (fun a b => a.1.InStep names u b.1 ∧ a.2 = b.2) (InStep names u)
      (g.take kind started) (h.take kind started') := by
  unfold Engine.take
  rw [(hs.asked kind).2.2.2.2]
  refine (hs.consult kind).bind fun a b _ _ hab => ?_
  rw [← hs.state.book]
  refine (hab.1.merge (hab.2.placed hs.state kind) _ _ started started').bind fun a' b' _ _ hs' => ?_
  exact .ok ⟨hs', hab.2.record⟩

theorem InStep.questioned (hs : g.InStep names u h) (ha : g.aborted = h.aborted) :
    g.questioned.Alike names h.questioned := by
  unfold Engine.questioned
  dsimp only
  rw [hs.solver, hs.criteria, ← ha, ← hs.state.firing]
  split
  · exact hs.honest.revised _ _ hs.state
  · exact hs.state

theorem InStep.judge (hs : g.InStep names u h) (ha : g.aborted = h.aborted) :
    Attempt.Both (InStep names u) (InStep names u) g.judge h.judge := by
  have hasked := hs.questioned ha
  have hstep : (g.withState g.questioned).InStep names u (h.withState h.questioned) :=
    hs.moved ⟨rfl, rfl, rfl⟩ ⟨rfl, rfl, rfl⟩ hasked
  unfold Engine.judge
  dsimp only
  rw [← hs.state.terminated, hs.solver, hs.criteria, ← ha,
    ← hs.state.checkTermination hs.honest g.executor.settings.criteria g.aborted]
  split
  · exact .ok hs
  · split
    · exact .error hstep
    · exact .ok hstep
    · rename_i r _
      rcases hasked.terminateWith r with ⟨f, hg, hh⟩ | ⟨s, t, hg, hh, hst⟩
      · rw [hg, hh]
        exact .error hstep
      · rw [hg, hh]
        exact .ok (hs.moved ⟨rfl, rfl, rfl⟩ ⟨rfl, rfl, rfl⟩ hst)

theorem InStep.complete (hs : g.InStep names u h) (record : Option Record) :
    Attempt.Both (InStep names u) (InStep names u) (g.complete record) (h.complete record) := by
  unfold Engine.complete
  dsimp only
  rw [← hs.state.summary]
  split
  · exact .error hs
  · rename_i standard _
    refine .ok (hs.moved ⟨rfl, rfl, rfl⟩ ⟨rfl, rfl, rfl⟩ ?_)
    exact hs.state.alter
      (fun x => { x with record := fullRecord standard record x.status })
      (fun x => { x with record := (fullRecord standard record x.status).without names })
      (fun _ => ⟨rfl, rfl⟩) (fun _ => rfl)

/-- A completed iteration keeps engines in step if their signals are alike
when it is judged. -/
theorem InStep.advance (hs : g.InStep names u h) (kind : CallKind) (started started' : τ)
    (ha : ∀ a b, (g.enter kind).take kind started = .ok a →
      (h.enter kind).take kind started' = .ok b → a.1.aborted = b.1.aborted) :
    Attempt.Both (InStep names u) (InStep names u) (g.advance kind started)
      (h.advance kind started') := by
  unfold Engine.advance
  refine ((hs.enter kind).take kind started started').bind fun a b hga hhb hab => ?_
  refine (hab.1.judge (ha a b hga hhb)).bind fun a' b' _ _ hs' => ?_
  rw [← hab.2]
  exact hs'.complete a.2

theorem take_not_aborted {kind : CallKind} {started : τ} {a : Engine τ × Option Record}
    (ha : (g.enter kind).take kind started = .ok a)
    (h : (Attempt.left (g.advance kind started)).aborted = false) : a.1.aborted = false := by
  unfold Engine.advance at h
  rw [ha] at h
  exact ((judge_stays a.1).bind fun y => complete_stays y a.2).toKeeps.not_aborted h

theorem InStep.itself {g' : Engine τ} {kind : CallKind} {started : τ} (hs : g.InStep names u g)
    (ha : g.advance kind started = .ok g') : g'.InStep names u g' := by
  have hboth := hs.advance kind started started fun a b h1 h2 => by
    rw [h1] at h2
    cases h2
    rfl
  rw [ha] at hboth
  cases hboth with
  | ok h => exact h

end Engine

/-! ## Saves that end no run -/

/-- A store in order: every snapshot of a solver is saved under a key, and
loaded from there as it was. -/
structure Store.Works (s : Store τ) (key : String) (x : Solver τ) (good : Cabinet τ → Prop) :
    Prop where
  saves : ∀ (c : Cabinet τ) (t : State τ), good c →
    ∃ c', s.save (.text key) ⟨x, t⟩ c = (c', .ok ()) ∧
    good c' ∧ s.holds (.text key) c' = .ok true ∧ s.load (.text key) c' = .ok ⟨x, t⟩

namespace Engine

/-- No save ends the run: nothing is saved, or a failure to save is got over,
or the store is in order. -/
def SavesGoOn (x : Solver τ) (g : Engine τ) : Prop :=
  ∀ p, g.executor.policy = some p → p.fatal = false ∨
    ∃ good, p.store.Works p.key x good ∧ good (g.world.cabinet p.cabinet)

variable {names : List String} {u : UserProblem} {g h : Engine τ} {x : Solver τ}

omit [Clock τ] in
theorem SavesGoOn.of_same (hs : g.SavesGoOn x) (hp : h.executor.policy = g.executor.policy)
    (hc : h.world.cabinets = g.world.cabinets) : h.SavesGoOn x := by
  intro p hpp
  rw [hp] at hpp
  rw [World.cabinet_of_cabinets hc]
  exact hs p hpp

omit [Clock τ] in
theorem cabinet_putCabinet (w : World τ) (name : String) (c : Cabinet τ) :
    (w.putCabinet name c).cabinet name = c := by
  unfold World.putCabinet World.cabinet
  rw [Table.get?_insert_self]
  rfl

omit [Clock τ] in
/-- A save that is not due leaves the executor and the cabinet as they are. -/
theorem save_not_due {p : Policy τ} (hp : g.executor.policy = some p) {final : Bool}
    (hd : p.isDue g.executor.state.book.iteration final = false) :
    ∃ g', g.save final = .ok g' ∧ g'.executor = g.executor ∧
      g'.world.cabinet p.cabinet = g.world.cabinet p.cabinet := by
  rw [save_eq hp]
  unfold Policy.maybeSave
  simp only [hd, Bool.false_eq_true, if_false]
  refine ⟨_, rfl, ?_, cabinet_putCabinet _ _ _⟩
  rw [← hp]

omit [Clock τ] in
/-- A save that is due is tried, and the iteration counts as tried from then
on; it leaves in the cabinet what the store leaves there. -/
theorem save_due {p : Policy τ} (hp : g.executor.policy = some p) {final : Bool}
    (hd : p.isDue g.executor.state.book.iteration final = true) {c : Cabinet τ}
    {r : Except Fault Unit}
    (hr : p.store.save (.text p.key) ⟨g.executor.solver, g.executor.state⟩
      (g.world.cabinet p.cabinet) = (c, r))
    (ho : r = .ok () ∨ p.fatal = false) :
    ∃ g', g.save final = .ok g' ∧
      g'.executor.policy = some { p with lastAttempted := some g.executor.state.book.iteration } ∧
      g'.world.cabinet p.cabinet = c := by
  have hc : (g.world.note (.attempted p.key g.executor.state.book.iteration)).cabinet p.cabinet =
      g.world.cabinet p.cabinet := rfl
  rw [save_eq hp]
  unfold Policy.maybeSave
  simp only [hd, if_true, hc, hr]
  cases r with
  | ok _ => exact ⟨_, rfl, rfl, cabinet_putCabinet _ _ _⟩
  | error f =>
    have hfatal : p.fatal = false := ho.resolve_left fun h => nomatch h
    unfold afterSave
    simp only [hfatal, Bool.false_eq_true, if_false]
    exact ⟨_, rfl, rfl, cabinet_putCabinet _ _ _⟩

omit [Clock τ] in
/-- Where no save ends the run, a save succeeds and moves nothing. -/
theorem SavesGoOn.save (hs : g.SavesGoOn g.executor.solver) (final : Bool) :
    ∃ g', g.save final = .ok g' ∧ g.Stands g' ∧ g.Keeps g' ∧ g'.SavesGoOn g.executor.solver := by
  suffices h : ∃ g', g.save final = .ok g' ∧ g'.SavesGoOn g.executor.solver by
    obtain ⟨g', hg, hgo⟩ := h
    have hstands := save_stands g final
    have hkeeps := save_keeps g final
    rw [hg] at hstands hkeeps
    exact ⟨g', hg, hstands, hkeeps, hgo⟩
  cases hp : g.executor.policy with
  | none =>
    refine ⟨g, ?_, hs⟩
    unfold Engine.save
    rw [hp]
  | some p =>
    cases hd : p.isDue g.executor.state.book.iteration final with
    | false =>
      obtain ⟨g', hg, hexecutor, hcabinet⟩ := save_not_due hp hd
      refine ⟨g', hg, fun q hq => ?_⟩
      rw [hexecutor, hp] at hq
      cases hq
      rw [hcabinet]
      exact hs p hp
    | true =>
      cases hr : p.store.save (.text p.key) ⟨g.executor.solver, g.executor.state⟩
          (g.world.cabinet p.cabinet) with
      | mk c r =>
        rcases hs p hp with hfatal | ⟨good, hworks, hgood⟩
        · obtain ⟨g', hg, hpolicy, _⟩ := save_due hp hd hr (.inr hfatal)
          refine ⟨g', hg, fun q hq => .inl ?_⟩
          rw [hpolicy] at hq
          cases hq
          exact hfatal
        · obtain ⟨c', hsave, hgood', _⟩ := hworks.saves _ g.executor.state hgood
          rw [hsave] at hr
          cases hr
          obtain ⟨g', hg, hpolicy, hcabinet⟩ := save_due hp hd hsave (.inl rfl)
          refine ⟨g', hg, fun q hq => .inr ⟨good, ?_⟩⟩
          rw [hpolicy] at hq
          cases hq
          exact ⟨hworks, hcabinet ▸ hgood'⟩

/-! ## Runs abreast -/

/-- Engines abreast: they are in step, no save ends either run, and since the
calls that each had made before, both have made the same steps. -/
structure Abreast (names : List String) (u : UserProblem) (before before' : List (CallKind × Int))
    (g h : Engine τ) : Prop where
  inStep : g.InStep names u h
  saves : g.SavesGoOn g.executor.solver ∧ h.SavesGoOn h.executor.solver
  calls : ∃ more, g.world.calls = before ++ more ∧ h.world.calls = before' ++ more ∧
    ∀ c ∈ more, c.1 = .step

omit [Clock τ] in
theorem InStep.stands {g' h' : Engine τ} (hs : g.InStep names u h) (hg : g.Stands g' ∧ g.Keeps g')
    (hh : h.Stands h' ∧ h.Keeps h') : g'.InStep names u h' := by
  refine hs.moved ⟨hg.2.solver, hg.1.problem, hg.2.settings⟩
    ⟨hh.2.solver, hh.1.problem, hh.2.settings⟩ ?_
  rw [hg.1.state, hh.1.state]
  exact hs.state

omit [Clock τ] in
/-- The end of an iteration, when it is completed. -/
theorem SavesGoOn.conclude (hs : g.SavesGoOn g.executor.solver) :
    ∃ g', Except.bind (g.save false) (fun v => (.ok v.dispatch : Attempt τ)) = .ok g' ∧
      g.Stands g' ∧ g.Keeps g' ∧ g'.SavesGoOn g'.executor.solver := by
  obtain ⟨v, hv, hstands, hkeeps, hgo⟩ := hs.save false
  have hd := dispatch_stays v
  refine ⟨v.dispatch, by rw [hv]; rfl, ⟨hstands.state, hstands.problem, hstands.improved⟩,
    hkeeps.trans hd.toKeeps, ?_⟩
  rw [hd.solver, hkeeps.solver]
  exact hgo.of_same hd.policy hd.cabinets

theorem SavesGoOn.advance (hs : g.SavesGoOn g.executor.solver) (kind : CallKind) (started : τ) :
    (Attempt.left (g.advance kind started)).SavesGoOn
      (Attempt.left (g.advance kind started)).executor.solver := by
  have ha := advance_stays kind started g
  rw [ha.solver]
  exact hs.of_same ha.policy ha.cabinets

/-- Where no save ends the run, an iteration that is completed succeeds. -/
theorem SavesGoOn.iterate (hs : g.SavesGoOn g.executor.solver) {kind : CallKind} {started : τ}
    {v : Engine τ} (ha : g.advance kind started = .ok v) :
    ∃ g', g.iterate kind started = .ok g' ∧ v.Stands g' ∧ v.Keeps g' ∧
      g'.SavesGoOn g'.executor.solver := by
  have hsaves := hs.advance kind started
  rw [ha] at hsaves
  obtain ⟨g', hg', hstands, hkeeps, hgo⟩ := SavesGoOn.conclude hsaves
  refine ⟨g', ?_, hstands, hkeeps, hgo⟩
  rw [iterate_eq, ha]
  exact hg'

theorem advance_not_aborted {kind : CallKind} {started : τ}
    (h : (Attempt.left (g.iterate kind started)).aborted = false) :
    (Attempt.left (g.advance kind started)).aborted = false := by
  unfold iterate at h
  cases ha : g.advance kind started with
  | error e =>
    rw [ha] at h
    exact h
  | ok v =>
    rw [ha] at h
    have hkeeps : v.Keeps (Attempt.left ((v.save false).bind fun w => .ok w.dispatch)) :=
      (save_keeps v false).bind fun w => (dispatch_stays w).toKeeps
    exact hkeeps.not_aborted h

/-- A step keeps engines abreast if no signal is raised at its end. -/
theorem Abreast.iterate {before before' : List (CallKind × Int)}
    (hab : g.Abreast names u before before' h) (started started' : τ)
    (hg : (Attempt.left (g.iterate .step started)).aborted = false)
    (hh : (Attempt.left (h.iterate .step started')).aborted = false) :
    Attempt.Both (Abreast names u before before') (Abreast names u before before')
      (g.iterate .step started) (h.iterate .step started') := by
  obtain ⟨more, hmore, hmore', hsteps⟩ := hab.calls
  have hcalls : ∃ more, (Attempt.left (g.iterate .step started)).world.calls = before ++ more ∧
      (Attempt.left (h.iterate .step started')).world.calls = before' ++ more ∧
      ∀ c ∈ more, c.1 = .step := by
    refine ⟨more ++ [(.step, g.executor.state.book.iteration)], ?_, ?_, ?_⟩
    · rw [iterate_calls, hmore, List.append_assoc]
    · rw [iterate_calls, hmore', List.append_assoc, hab.inStep.state.book]
    · intro c hc
      rcases List.mem_append.mp hc with h1 | h1
      · exact hsteps c h1
      · exact List.mem_singleton.mp h1 ▸ rfl
  have hadvance := hab.inStep.advance .step started started' fun a b h1 h2 =>
    (take_not_aborted h1 (advance_not_aborted hg)).trans
      (take_not_aborted h2 (advance_not_aborted hh)).symm
  have hsaves := hab.saves.1.advance .step started
  have hsaves' := hab.saves.2.advance .step started'
  rw [iterate_eq, iterate_eq] at hcalls ⊢
  generalize g.advance .step started = x at hadvance hsaves hcalls ⊢
  generalize h.advance .step started' = y at hadvance hsaves' hcalls ⊢
  cases hadvance with
  | error hs => exact .error ⟨hs, ⟨hsaves, hsaves'⟩, hcalls⟩
  | @ok a b hs =>
    obtain ⟨a', ha, hstands, hkeeps, hgo⟩ := SavesGoOn.conclude hsaves
    obtain ⟨b', hb, hstands', hkeeps', hgo'⟩ := SavesGoOn.conclude hsaves'
    have hx : Except.bind (.ok a) (fun v => (v.save false).bind fun w => .ok w.dispatch) =
        (.ok a' : Attempt τ) := ha
    have hy : Except.bind (.ok b) (fun v => (v.save false).bind fun w => .ok w.dispatch) =
        (.ok b' : Attempt τ) := hb
    rw [hx, hy] at hcalls ⊢
    exact .ok ⟨hs.stands ⟨hstands, hkeeps⟩ ⟨hstands', hkeeps'⟩, ⟨hgo, hgo'⟩, hcalls⟩

end Engine

end Minimize
