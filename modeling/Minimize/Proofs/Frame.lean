-- What a run leaves alone. The journal only grows, a raised signal stays
-- raised, and the stores are used by nothing but a save. An engine keeps its
-- solver, its settings and its signal through every part of an iteration,
-- whether the part succeeds or not.
import Minimize.Executor.Run

namespace Minimize

variable {τ : Type}

/-! ## Worlds -/

/-- A later moment of a world: the journal has only grown, by events of a
kind, and no signal was lowered. -/
structure World.Grows (p : Event τ → Prop) (w w' : World τ) : Prop where
  journal : ∃ later, w'.journal = later ++ w.journal ∧ ∀ e ∈ later, p e
  raised : ∀ n, w.isRaised n = true → w'.isRaised n = true

/-- A later moment of a world in which no store was used meanwhile. -/
structure World.Follows (p : Event τ → Prop) (w w' : World τ) : Prop extends
    World.Grows p w w' where
  cabinets : w'.cabinets = w.cabinets

namespace World

variable {p q : Event τ → Prop} {w w' w'' : World τ}

theorem Grows.trans (h : w.Grows p w') (h' : w'.Grows p w'') : w.Grows p w'' := by
  obtain ⟨l, hl, hp⟩ := h.journal
  obtain ⟨l', hl', hp'⟩ := h'.journal
  refine ⟨⟨l' ++ l, by rw [hl', hl, List.append_assoc], ?_⟩, fun n hn => h'.raised n (h.raised n hn)⟩
  intro e he
  rcases List.mem_append.mp he with h1 | h1
  · exact hp' e h1
  · exact hp e h1

theorem Grows.mono (h : w.Grows p w') (hpq : ∀ e, p e → q e) : w.Grows q w' := by
  obtain ⟨l, hl, hp⟩ := h.journal
  exact ⟨⟨l, hl, fun e he => hpq e (hp e he)⟩, h.raised⟩

theorem Follows.refl (w : World τ) : w.Follows p w :=
  ⟨⟨⟨[], rfl, fun _ he => absurd he List.not_mem_nil⟩, fun _ hn => hn⟩, rfl⟩

theorem Follows.trans (h : w.Follows p w') (h' : w'.Follows p w'') : w.Follows p w'' :=
  ⟨h.toGrows.trans h'.toGrows, h'.cabinets.trans h.cabinets⟩

theorem Follows.mono (h : w.Follows p w') (hpq : ∀ e, p e → q e) : w.Follows q w' :=
  ⟨h.toGrows.mono hpq, h.cabinets⟩

theorem note_follows (w : World τ) {e : Event τ} (he : p e) : w.Follows p (w.note e) :=
  ⟨⟨⟨[e], rfl, fun _ h => List.mem_singleton.mp h ▸ he⟩, fun _ hn => hn⟩, rfl⟩

theorem get?_replace {α : Type} (c : Catalog α) (name : String) (a : α) {n : Nat}
    (hn : c.get? n = some a) : (c.replace name a).get? n = some a := by
  unfold Catalog.replace
  cases c.number? name with
  | none => exact hn
  | some i =>
    unfold Catalog.get? at hn
    have hlt : n < c.things.length := (List.getElem?_eq_some_iff.mp hn).1
    simp only [Catalog.set, Catalog.get?, List.getElem?_set]
    by_cases hin : i = n
    · simp [hin, hlt]
    · simpa [hin] using hn

theorem isRaised_raise (w : World τ) (name : String) (n : Nat) (hn : w.isRaised n = true) :
    (w.raise name).isRaised n = true :=
  decide_eq_true (get?_replace w.signals name true (of_decide_eq_true hn))

theorem raise_follows (w : World τ) (name : String) : w.Follows p (w.raise name) :=
  ⟨⟨⟨[], rfl, fun _ he => absurd he List.not_mem_nil⟩, w.isRaised_raise name⟩, rfl⟩

theorem wait_follows [Clock τ] (w : World τ) (d : τ) : w.Follows p (w.wait d) :=
  ⟨⟨⟨[], rfl, fun _ he => absurd he List.not_mem_nil⟩, fun _ hn => hn⟩, rfl⟩

theorem foldl_follows {α β : Type} (view : β → World τ) {f : β → α → β}
    (hf : ∀ b a, (view b).Follows p (view (f b a))) (as : List α) (b : β) :
    (view b).Follows p (view (as.foldl f b)) := by
  induction as generalizing b with
  | nil => exact Follows.refl (view b)
  | cons a as ih => exact (hf b a).trans (ih (f b a))

/-- What an observer does adds nothing to the journal but the files that it
opens. -/
theorem after_follows (hp : ∀ path, p (.opened path)) (w : World τ) (r : Reaction) :
    w.Follows p (w.after r) := by
  have hout : w.Follows p { w with outlets := r.outlets } :=
    ⟨⟨⟨[], rfl, fun _ he => absurd he List.not_mem_nil⟩, fun _ hn => hn⟩, rfl⟩
  exact (hout.trans (foldl_follows id raise_follows r.raised _)).trans
    (foldl_follows id (fun w path => w.note_follows (hp path)) r.opened _)

theorem cabinet_of_cabinets (h : w'.cabinets = w.cabinets) (name : String) :
    w'.cabinet name = w.cabinet name := by
  unfold cabinet
  rw [h]

end World

/-! ## Events -/

namespace Event

def call? : Event τ → Option (CallKind × Int)
  | .called kind i => some (kind, i)
  | _ => none

/-- Whether an event tells of no call of the solver. -/
def NoCall (e : Event τ) : Prop := e.call? = none

def evaluates (c : Capability) : Event τ → Bool
  | .evaluated d => d = c
  | _ => false

/-- Whether an event tells of an evaluation. -/
def IsEvaluation (e : Event τ) : Prop := ∃ c, e = .evaluated c

/-- Whether an event belongs to an iteration that was completed: its record,
a checkpoint, a word to an observer. -/
def completes : Event τ → Bool
  | .completed _ => true
  | .attempted _ _ => true
  | .saved _ _ => true
  | .saveFailed _ => true
  | .notified _ _ _ => true
  | .notifyFailed _ => true
  | _ => false

def ends : Event τ → Bool
  | .opened _ => true
  | .finishing _ => true
  | .finishFailed _ => true
  | .failed _ _ _ => true
  | .ended _ _ _ _ => true
  | _ => false

theorem IsEvaluation.noCall {e : Event τ} (h : e.IsEvaluation) : e.NoCall := by
  obtain ⟨c, rfl⟩ := h
  rfl

theorem noCall_of_ends {e : Event τ} (h : e.ends = true) : e.NoCall := by
  cases e <;> first | rfl | cases h

theorem completes_of_ends {e : Event τ} (h : e.ends = true) : e.completes = false := by
  cases e <;> first | rfl | cases h

theorem evaluates_of_ends {e : Event τ} (h : e.ends = true) (c : Capability) :
    e.evaluates c = false := by
  cases e <;> first | rfl | cases h

end Event

/-- The calls of solvers, in order. -/
def World.calls (w : World τ) : List (CallKind × Int) := w.history.filterMap Event.call?

theorem World.calls_note (w : World τ) (e : Event τ) :
    (w.note e).calls = w.calls ++ e.call?.toList := by
  unfold World.calls World.history World.note
  rw [List.reverse_cons, List.filterMap_append]
  cases h : e.call? <;> simp [h]

theorem World.Grows.calls {w w' : World τ} (h : w.Grows Event.NoCall w') : w'.calls = w.calls := by
  obtain ⟨later, hj, hp⟩ := h.journal
  unfold World.calls World.history
  rw [hj, List.reverse_append, List.filterMap_append]
  have hnone : later.reverse.filterMap Event.call? = [] :=
    List.filterMap_eq_nil_iff.mpr fun e he => hp e (List.mem_reverse.mp he)
  rw [hnone, List.append_nil]

/-! ## Calls of solvers and of observers -/

variable [Clock τ]

/-- A call of a solver adds nothing to the journal but its evaluations. -/
theorem Call.run_follows (c : Call τ) (p : Problem) (w : World τ) :
    w.Follows Event.IsEvaluation (c.run p w).world := by
  induction c generalizing p w with
  | done left answer => exact World.Follows.refl w
  | evaluate cap args next ih =>
    simp only [Call.run]
    refine World.Follows.trans ?_ (ih _ _ _ _)
    split
    · exact w.note_follows ⟨cap, rfl⟩
    · exact World.Follows.refl w
  | change ch next ih => exact ih (p.after ch) w
  | wait d next ih => exact (w.wait_follows d).trans (ih p _)
  | raise signal next ih => exact (w.raise_follows signal).trans (ih p _)

namespace Registry

omit [Clock τ] in
theorem tell_follows (record : Record) (i : Int) (name : String) (o : Observer τ)
    (acc : World τ × List Fault) :
    acc.1.Follows Event.NoCall (tell record i name o acc).1 := by
  have hcall := (acc.1.note_follows (p := Event.NoCall) (e := .notified name i record) rfl).trans
    (World.after_follows (p := Event.NoCall) (fun _ => rfl) _
      (o.notify record (acc.1.note (.notified name i record)).outlets))
  simp only [tell, World.call]
  split
  · rename_i heq
    exact (Prod.mk.inj heq).1 ▸ hcall
  · rename_i heq
    exact (Prod.mk.inj heq).1 ▸ hcall.trans (World.note_follows _ rfl)

omit [Clock τ] in
theorem dispatch_follows (r : Registry τ) (record : Record) (i : Int) (improved : Bool)
    (w : World τ) : w.Follows Event.NoCall (r.dispatch record i improved w).1 := by
  refine World.foldl_follows Prod.fst (fun acc e => ?_) r.entries (w, [])
  split
  · exact tell_follows record i e.1 e.2.observer acc
  · exact World.Follows.refl acc.1

omit [Clock τ] in
theorem tellEnd_follows (outcome : Outcome τ) (name : String) (o : Observer τ)
    (acc : World τ × List Fault) :
    acc.1.Follows (·.ends = true) (tellEnd outcome name o acc).1 := by
  unfold tellEnd
  cases o.finish with
  | none => exact World.Follows.refl acc.1
  | some hook =>
    have hcall := (acc.1.note_follows (p := (·.ends = true)) (e := .finishing name) rfl).trans
      (World.after_follows (p := (·.ends = true)) (fun _ => rfl) _
        (hook outcome (acc.1.note (.finishing name)).outlets))
    simp only [World.call]
    split
    · rename_i heq
      exact (Prod.mk.inj heq).1 ▸ hcall
    · rename_i heq
      exact (Prod.mk.inj heq).1 ▸ hcall.trans (World.note_follows _ rfl)

omit [Clock τ] in
theorem finish_follows (r : Registry τ) (outcome : Outcome τ) (w : World τ) :
    w.Follows (·.ends = true) (r.finish outcome w).1 := by
  unfold finish
  exact World.foldl_follows Prod.fst (fun acc e => tellEnd_follows outcome e.1 e.2.observer acc)
    r.entries (w, [])

end Registry

/-! ## Engines -/

/-- The engine that an attempt left, whether it succeeded or not. -/
def Attempt.left : Attempt τ → Engine τ
  | .ok g => g
  | .error f => f.engine

/-- A later moment of an engine, with no call of the solver in between. -/
structure Engine.Keeps (g h : Engine τ) : Prop where
  solver : h.executor.solver = g.executor.solver
  settings : h.executor.settings = g.executor.settings
  signal : h.executor.signal = g.executor.signal
  world : g.world.Grows Event.NoCall h.world

/-- A later moment of an engine that neither called the solver nor saved
anything in between. -/
structure Engine.Stays (g h : Engine τ) : Prop extends Engine.Keeps g h where
  policy : h.executor.policy = g.executor.policy
  cabinets : h.world.cabinets = g.world.cabinets

/-- What neither a save nor a word to the observers touches. -/
structure Engine.Stands (g h : Engine τ) : Prop where
  state : h.executor.state = g.executor.state
  problem : h.executor.problem = g.executor.problem
  improved : h.executor.improved = g.executor.improved

namespace Engine

variable {g g' g'' : Engine τ}

omit [Clock τ] in
theorem Keeps.trans (h : g.Keeps g') (h' : g'.Keeps g'') : g.Keeps g'' :=
  ⟨h'.solver.trans h.solver, h'.settings.trans h.settings, h'.signal.trans h.signal,
    h.world.trans h'.world⟩

omit [Clock τ] in
theorem Stays.refl (g : Engine τ) : g.Stays g :=
  ⟨⟨rfl, rfl, rfl, (World.Follows.refl g.world).toGrows⟩, rfl, rfl⟩

omit [Clock τ] in
theorem Stays.trans (h : g.Stays g') (h' : g'.Stays g'') : g.Stays g'' :=
  ⟨h.toKeeps.trans h'.toKeeps, h'.policy.trans h.policy, h'.cabinets.trans h.cabinets⟩

omit [Clock τ] in
theorem note_stays (g : Engine τ) (e : Event τ) (he : e.NoCall) : g.Stays (g.note e) :=
  ⟨⟨rfl, rfl, rfl, (World.note_follows g.world he).toGrows⟩, rfl, rfl⟩

omit [Clock τ] in
theorem not_aborted (h : g.executor.signal = none) : g.aborted = false := by
  unfold aborted
  rw [h]

omit [Clock τ] in
/-- A signal that is not raised was not raised before. -/
theorem Keeps.not_aborted (h : g.Keeps g') (hn : g'.aborted = false) : g.aborted = false := by
  unfold Engine.aborted at hn ⊢
  rw [h.signal] at hn
  cases hs : g.executor.signal with
  | none => rfl
  | some n =>
    rw [hs] at hn
    rw [← Bool.not_eq_true]
    intro hr
    exact absurd (h.world.raised n hr) (Bool.not_eq_true _ ▸ hn)

theorem asked_follows (kind : CallKind) (g : Engine τ) :
    (g.world.note (.called kind g.executor.state.book.iteration)).Follows Event.IsEvaluation
      (g.asked kind).world :=
  Call.run_follows _ _ _

/-- The call of the solver is the only one that the iteration makes. -/
theorem consult_stays (kind : CallKind) (g : Engine τ) :
    (g.note (.called kind g.executor.state.book.iteration)).Stays
      (Attempt.left ((g.consult kind).map (·.1))) := by
  have hw := (g.asked_follows kind).mono fun _ he => he.noCall
  unfold consult
  dsimp only
  split
  · exact ⟨⟨rfl, rfl, rfl, hw.toGrows⟩, rfl, hw.cabinets⟩
  · exact ⟨⟨rfl, rfl, rfl, hw.toGrows⟩, rfl, hw.cabinets⟩

theorem merge_stays (g : Engine τ) (r : Returned τ) (book : Bookkeeping τ) (i : Int)
    (started : τ) : g.Stays (Attempt.left (g.merge r book i started)) := by
  have hw := (World.Follows.refl (p := Event.NoCall) g.world).toGrows
  unfold merge
  dsimp only
  split
  · split
    · exact ⟨⟨rfl, rfl, rfl, hw⟩, rfl, rfl⟩
    · exact Stays.refl g
  · split
    · exact ⟨⟨rfl, rfl, rfl, hw⟩, rfl, rfl⟩
    · exact ⟨⟨rfl, rfl, rfl, hw⟩, rfl, rfl⟩

theorem judge_left (g : Engine τ) : ∃ s, Attempt.left g.judge = g.withState s := by
  unfold judge
  dsimp only
  split
  · exact ⟨g.executor.state, rfl⟩
  · split
    · exact ⟨g.questioned, rfl⟩
    · exact ⟨g.questioned, rfl⟩
    · split
      · exact ⟨g.questioned, rfl⟩
      · rename_i s _
        exact ⟨s, rfl⟩

omit [Clock τ] in
theorem withState_stays (g : Engine τ) (s : State τ) : g.Stays (g.withState s) :=
  ⟨⟨rfl, rfl, rfl, (World.Follows.refl g.world).toGrows⟩, rfl, rfl⟩

theorem judge_stays (g : Engine τ) : g.Stays (Attempt.left g.judge) := by
  obtain ⟨s, hs⟩ := judge_left g
  rw [hs]
  exact withState_stays g s

theorem complete_stays (g : Engine τ) (record : Option Record) :
    g.Stays (Attempt.left (g.complete record)) := by
  unfold complete
  dsimp only
  split
  · exact Stays.refl g
  · exact ⟨⟨rfl, rfl, rfl, (note_stays g (.completed _) rfl).world⟩, rfl, rfl⟩

omit [Clock τ] in
theorem dispatch_stays (g : Engine τ) : g.Stays g.dispatch := by
  have hw := g.executor.observers.dispatch_follows g.executor.state.record
    g.executor.state.book.iteration g.executor.improved g.world
  exact ⟨⟨rfl, rfl, rfl, hw.toGrows⟩, rfl, hw.cabinets⟩

omit [Clock τ] in
theorem afterSave_keeps (g : Engine τ) (p : Policy τ) (r : SaveResult) :
    g.Keeps (Attempt.left (g.afterSave p r)) := by
  cases r with
  | notDue => exact (Stays.refl g).toKeeps
  | saved => exact (note_stays g (.saved _ _) rfl).toKeeps
  | failed f =>
    unfold afterSave
    dsimp only
    split
    · exact (Stays.refl g).toKeeps
    · exact ⟨rfl, rfl, rfl, (note_stays g (.saveFailed f) rfl).world⟩

omit [Clock τ] in
theorem save_eq {g : Engine τ} {p : Policy τ} (hp : g.executor.policy = some p) (final : Bool) :
    g.save final =
      let s := g.executor.state
      let w := if p.isDue s.book.iteration final then
          g.world.note (.attempted p.key s.book.iteration) else g.world
      let m := p.maybeSave ⟨g.executor.solver, s⟩ final (w.cabinet p.cabinet)
      afterSave { executor := { g.executor with policy := some m.1 }
                  world := w.putCabinet p.cabinet m.2.1 } p m.2.2 := by
  unfold save
  rw [hp]

omit [Clock τ] in
theorem save_keeps (g : Engine τ) (final : Bool) : g.Keeps (Attempt.left (g.save final)) := by
  cases hp : g.executor.policy with
  | none =>
    unfold save
    rw [hp]
    exact (Stays.refl g).toKeeps
  | some p =>
    rw [save_eq hp]
    dsimp only
    refine Keeps.trans ?_ (afterSave_keeps _ p _)
    refine ⟨rfl, rfl, rfl, ?_⟩
    dsimp only
    split
    · have hn := World.note_follows g.world
        (e := .attempted p.key g.executor.state.book.iteration) (p := Event.NoCall) rfl
      exact ⟨hn.journal, hn.raised⟩
    · have hn := World.Follows.refl (p := Event.NoCall) g.world
      exact ⟨hn.journal, hn.raised⟩

omit [Clock τ] in
theorem save_stands (g : Engine τ) (final : Bool) : g.Stands (Attempt.left (g.save final)) := by
  cases hp : g.executor.policy with
  | none =>
    unfold save
    rw [hp]
    exact ⟨rfl, rfl, rfl⟩
  | some p =>
    rw [save_eq hp]
    dsimp only
    cases (p.maybeSave _ final _).2.2 with
    | notDue => exact ⟨rfl, rfl, rfl⟩
    | saved => exact ⟨rfl, rfl, rfl⟩
    | failed f =>
      unfold afterSave
      dsimp only
      split
      · exact ⟨rfl, rfl, rfl⟩
      · exact ⟨rfl, rfl, rfl⟩

theorem take_stays (kind : CallKind) (started : τ) (g : Engine τ) :
    (g.note (.called kind g.executor.state.book.iteration)).Stays
      (Attempt.left ((g.take kind started).map (·.1))) := by
  have hc := consult_stays kind g
  unfold take
  cases h : g.consult kind with
  | error f =>
    rw [h] at hc
    exact hc
  | ok r =>
    rw [h] at hc
    have hm := merge_stays r.1 (r.2.placed kind g.executor.state) (g.kept kind)
      (kind.target g.executor.state.book.iteration) started
    refine hc.trans ?_
    dsimp only [bind, Except.bind]
    cases hr : r.1.merge (r.2.placed kind g.executor.state) (g.kept kind)
        (kind.target g.executor.state.book.iteration) started with
    | error f =>
      rw [hr] at hm
      exact hm
    | ok g' =>
      rw [hr] at hm
      exact hm

omit [Clock τ] in
/-- What follows within an attempt keeps what the attempt kept. -/
theorem Keeps.bind {x : Attempt τ} {f : Engine τ → Attempt τ} (h : g.Keeps x.left)
    (hf : ∀ g' : Engine τ, g'.Keeps (f g').left) : g.Keeps (Attempt.left (Except.bind x f)) := by
  cases x with
  | error e => exact h
  | ok g' => exact h.trans (hf g')

omit [Clock τ] in
theorem Stays.bind {x : Attempt τ} {f : Engine τ → Attempt τ} (h : g.Stays x.left)
    (hf : ∀ g' : Engine τ, g'.Stays (f g').left) : g.Stays (Attempt.left (Except.bind x f)) := by
  cases x with
  | error e => exact h
  | ok g' => exact h.trans (hf g')

/-- An iteration calls the solver once, and uses no store until it is
completed. -/
theorem advance_stays (kind : CallKind) (started : τ) (g : Engine τ) :
    (g.note (.called kind g.executor.state.book.iteration)).Stays
      (Attempt.left (g.advance kind started)) := by
  have ht : (g.note (.called kind g.executor.state.book.iteration)).Stays
      (Attempt.left (((g.enter kind).take kind started).map (·.1))) := by
    have h := take_stays kind started (g.enter kind)
    cases kind <;> exact ⟨⟨h.solver, h.settings, h.signal, h.world⟩, h.policy, h.cabinets⟩
  unfold advance
  cases h : (g.enter kind).take kind started with
  | error e =>
    rw [h] at ht
    exact ht
  | ok r =>
    rw [h] at ht
    exact ht.trans ((judge_stays r.1).bind fun g' => complete_stays g' r.2)

theorem iterate_keeps (kind : CallKind) (started : τ) (g : Engine τ) :
    (g.note (.called kind g.executor.state.book.iteration)).Keeps
      (Attempt.left (g.iterate kind started)) :=
  (advance_stays kind started g).toKeeps.bind fun g' => (save_keeps g' false).bind fun h =>
    (dispatch_stays h).toKeeps

/-- An iteration makes one call of the solver. -/
theorem iterate_calls (kind : CallKind) (started : τ) (g : Engine τ) :
    (Attempt.left (g.iterate kind started)).world.calls =
      g.world.calls ++ [(kind, g.executor.state.book.iteration)] := by
  rw [(iterate_keeps kind started g).world.calls]
  exact World.calls_note g.world _

end Engine

end Minimize
