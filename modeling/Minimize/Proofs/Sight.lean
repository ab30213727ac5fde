-- What an executor sees of a world. Where all that it uses goes by a sight, it
-- does the same in worlds that look alike by that sight, and leaves them looking
-- alike. Where nothing that it does can be seen by a sight, a world that makes
-- sense by it looks the same before and after.
import Minimize.Proofs.Alongside
import Minimize.Proofs.Twins

namespace Minimize

variable {τ : Type}

/-! ## Sights -/

/-- Which things are taken for one another. What is not even taken for itself
makes no sense. -/
structure Semblance (α : Type) where
  r : α → α → Prop
  symm : ∀ {a b : α}, r a b → r b a
  trans : ∀ {a b c : α}, r a b → r b c → r a c

namespace Semblance

/-- Where every difference counts. -/
protected def eq (α : Type) : Semblance α := ⟨Eq, Eq.symm, Eq.trans⟩

/-- Where no difference counts. -/
def any (α : Type) : Semblance α := ⟨fun _ _ => True, fun _ => trivial, fun _ _ => trivial⟩

end Semblance

/-- What of a world makes a difference to an executor: the signals that it looks
at, what it makes of the outlets and of each cabinet, and the time, if it is
timed. The signals stand under fixed names. -/
structure Sight (τ : Type) where
  names : Table Nat
  signals : Nat → Prop
  outlets : Semblance Outlets
  cabinets : String → Semblance (Cabinet τ)
  timed : Prop

namespace Sight

variable {s : Sight τ} {w w' v v' : World τ}

/-- Worlds that look alike. -/
structure Alike (s : Sight τ) (w w' : World τ) : Prop where
  names : w.signals.names = s.names ∧ w'.signals.names = s.names
  signals : ∀ n, s.signals n → w'.signals.get? n = w.signals.get? n
  outlets : s.outlets.r w.outlets w'.outlets
  cabinets : ∀ name, (s.cabinets name).r (w.cabinet name) (w'.cabinet name)
  clock : s.timed → w'.clock = w.clock

theorem Alike.symm (h : s.Alike w w') : s.Alike w' w :=
  ⟨⟨h.names.2, h.names.1⟩, fun n hn => (h.signals n hn).symm, s.outlets.symm h.outlets,
    fun name => (s.cabinets name).symm (h.cabinets name), fun ht => (h.clock ht).symm⟩

theorem Alike.trans (h : s.Alike w w') (h' : s.Alike w' v) : s.Alike w v :=
  ⟨⟨h.names.1, h'.names.2⟩, fun n hn => (h'.signals n hn).trans (h.signals n hn),
    s.outlets.trans h.outlets h'.outlets,
    fun name => (s.cabinets name).trans (h.cabinets name) (h'.cabinets name),
    fun ht => (h'.clock ht).trans (h.clock ht)⟩

theorem Alike.right (h : s.Alike w w') : s.Alike w' w' := h.symm.trans h

theorem Alike.note (h : s.Alike w w') (e e' : Event τ) : s.Alike (w.note e) (w'.note e') :=
  ⟨h.names, h.signals, h.outlets, h.cabinets, h.clock⟩

theorem Alike.noted (h : s.Alike w w') (e : Event τ) : s.Alike w (w'.note e) :=
  ⟨h.names, h.signals, h.outlets, h.cabinets, h.clock⟩

theorem Alike.notes (h : s.Alike w w') {α : Type} (e : α → Event τ) (as : List α) :
    s.Alike w (as.foldl (fun w a => w.note (e a)) w') := by
  induction as generalizing w' with
  | nil => exact h
  | cons a as ih => exact ih (h.noted (e a))

theorem Alike.both_notes (h : s.Alike w w') {α β : Type} (e : α → Event τ) (e' : β → Event τ)
    (as : List α) (bs : List β) :
    s.Alike (as.foldl (fun w a => w.note (e a)) w) (bs.foldl (fun w b => w.note (e' b)) w') :=
  ((h.notes e' bs).symm.notes e as).symm

theorem Alike.wait [Clock τ] (h : s.Alike w w') (d : τ) : s.Alike (w.wait d) (w'.wait d) :=
  ⟨h.names, h.signals, h.outlets, h.cabinets, fun ht => congrArg (Clock.add · d) (h.clock ht)⟩

theorem names_raise (w : World τ) (name : String) :
    (w.raise name).signals.names = w.signals.names := by
  unfold World.raise Catalog.replace
  cases w.signals.number? name <;> rfl

theorem Alike.raise (h : s.Alike w w') (name : String) :
    s.Alike (w.raise name) (w'.raise name) := by
  refine ⟨?_, ?_, h.outlets, h.cabinets, h.clock⟩
  · rw [names_raise, names_raise]
    exact h.names
  · intro n hn
    have hnumber : w'.signals.number? name = w.signals.number? name := by
      unfold Catalog.number?
      rw [h.names.1, h.names.2]
    unfold World.raise Catalog.replace
    dsimp only
    rw [hnumber]
    cases w.signals.number? name with
    | none => exact h.signals n hn
    | some i =>
      dsimp only
      rw [World.get?_set, World.get?_set, h.signals n hn]

theorem Alike.raises (h : s.Alike w w') (raised : List String) :
    s.Alike (raised.foldl World.raise w) (raised.foldl World.raise w') := by
  induction raised generalizing w w' with
  | nil => exact h
  | cons name raised ih => exact ih (h.raise name)

theorem Alike.putCabinet (h : s.Alike w w') {name : String} {c c' : Cabinet τ}
    (hc : (s.cabinets name).r c c') : s.Alike (w.putCabinet name c) (w'.putCabinet name c') := by
  refine ⟨h.names, h.signals, h.outlets, ?_, h.clock⟩
  intro name'
  by_cases hn : name' = name
  · subst hn
    rw [Engine.cabinet_putCabinet, Engine.cabinet_putCabinet]
    exact hc
  · rw [World.cabinet_putCabinet_ne _ _ hn, World.cabinet_putCabinet_ne _ _ hn]
    exact h.cabinets name'

/-! ## What is overlooked -/

/-- A name of a signal that is not looked at, or of none. -/
def PassesOver (s : Sight τ) (name : String) : Prop :=
  ∀ n, s.names.get? name = some n → ¬ s.signals n

theorem PassesOver.raise {name : String} (h : s.PassesOver name) (hw : s.Alike w w) :
    s.Alike w (w.raise name) := by
  refine ⟨⟨hw.names.1, (names_raise w name).trans hw.names.1⟩, ?_, hw.outlets, hw.cabinets,
    hw.clock⟩
  intro n hn
  unfold World.raise Catalog.replace
  cases hi : w.signals.number? name with
  | none => rfl
  | some i =>
    have hapart : i ≠ n := by
      rintro rfl
      refine h i ?_ hn
      rw [← hw.names.1]
      exact hi
    dsimp only
    rw [World.get?_set, if_neg hapart]

theorem passesOver_raises {raised : List String} (h : ∀ name ∈ raised, s.PassesOver name)
    (hw : s.Alike w w) : s.Alike w (raised.foldl World.raise w) := by
  induction raised generalizing w with
  | nil => exact hw
  | cons name raised ih =>
    have hone := (h name List.mem_cons_self).raise hw
    exact hone.trans (ih (fun x hx => h x (List.mem_cons_of_mem _ hx)) hone.right)

theorem unseen_putCabinet {name : String} {c : Cabinet τ} (hw : s.Alike w w)
    (hc : (s.cabinets name).r (w.cabinet name) c) : s.Alike w (w.putCabinet name c) := by
  refine ⟨hw.names, hw.signals, hw.outlets, ?_, hw.clock⟩
  intro name'
  by_cases hn : name' = name
  · subst hn
    rw [Engine.cabinet_putCabinet]
    exact hc
  · rw [World.cabinet_putCabinet_ne _ _ hn]
    exact hw.cabinets name'

end Sight

/-! ## Observers -/

/-- Reactions that differ at most in outlets that are taken for one another, and
in the files that were opened. -/
structure Reaction.Like (r : Semblance Outlets) (a b : Reaction) : Prop where
  outlets : r.r a.outlets b.outlets
  raised : b.raised = a.raised
  failure : b.failure = a.failure

/-- A hook that goes by what is seen of the outlets. -/
def Heeds (r : Semblance Outlets) (hook : Outlets → Reaction) : Prop :=
  ∀ o o', r.r o o' → (hook o).Like r (hook o')

/-- A hook of which nothing is seen. -/
def Sight.Misses (s : Sight τ) (hook : Outlets → Reaction) : Prop :=
  ∀ o, s.outlets.r o o →
    s.outlets.r o (hook o).outlets ∧ ∀ name ∈ (hook o).raised, s.PassesOver name

/-- An observer that goes by what is seen of the outlets when it is told. -/
structure Observer.Heeds (r : Semblance Outlets) (o : Observer τ) : Prop where
  notify : ∀ record, Minimize.Heeds r (o.notify record)
  finish : ∀ hook, o.finish = some hook → ∀ outcome, Minimize.Heeds r (hook outcome)

/-- An observer of which nothing is seen when it is told. -/
structure Observer.Unseen (s : Sight τ) (o : Observer τ) : Prop where
  notify : ∀ record, s.Misses (o.notify record)
  finish : ∀ hook, o.finish = some hook → ∀ outcome, s.Misses (hook outcome)

namespace Sight

variable {s : Sight τ} {w w' : World τ}

theorem Alike.after (h : s.Alike w w') {a b : Reaction} (hr : a.Like s.outlets b) :
    s.Alike (w.after a) (w'.after b) := by
  have houtlets : s.Alike { w with outlets := a.outlets } { w' with outlets := b.outlets } :=
    ⟨h.names, h.signals, hr.outlets, h.cabinets, h.clock⟩
  have hraised := houtlets.raises a.raised
  unfold World.after
  dsimp only
  rw [hr.raised]
  exact hraised.both_notes .opened .opened a.opened b.opened

theorem Misses.after {hook : Outlets → Reaction} (h : s.Misses hook) (hw : s.Alike w w) :
    s.Alike w (w.after (hook w.outlets)) := by
  obtain ⟨houtlets, hraised⟩ := h w.outlets hw.outlets
  have hout : s.Alike w { w with outlets := (hook w.outlets).outlets } :=
    ⟨hw.names, hw.signals, houtlets, hw.cabinets, hw.clock⟩
  have hall := hout.trans (passesOver_raises hraised hout.right)
  unfold World.after
  exact hall.notes .opened _

end Sight

/-- A word goes round the observers of worlds that look alike in the same way. -/
theorem Word.say_alike {s : Sight τ} (m : Word τ) {entries : List (String × Registered τ)}
    (hm : ∀ e ∈ entries, ∀ hook, m.hook e = some hook → Heeds s.outlets hook) {w w' : World τ}
    (h : s.Alike w w') (fs : List Fault) :
    s.Alike (entries.foldl m.say (w, fs)).1 (entries.foldl m.say (w', fs)).1 ∧
      (entries.foldl m.say (w', fs)).2 = (entries.foldl m.say (w, fs)).2 := by
  induction entries generalizing w w' fs with
  | nil => exact ⟨h, rfl⟩
  | cons e entries ih =>
    have hrest := fun e' he' => hm e' (List.mem_cons_of_mem e he')
    rw [List.foldl_cons, List.foldl_cons]
    cases hook? : m.hook e with
    | none =>
      simp only [say, hook?]
      exact ih hrest h fs
    | some hook =>
      have htold := h.note (m.told e.1) (m.told e.1)
      have hlike := hm e List.mem_cons_self hook hook? _ _ htold.outlets
      have hcall := htold.after hlike
      simp only [say, hook?, World.call, hlike.failure]
      cases (hook (w.note (m.told e.1)).outlets).failure with
      | none => exact ih hrest hcall fs
      | some f => exact ih hrest (hcall.note _ _) _

theorem Word.say_unseen {s : Sight τ} (m : Word τ) {entries : List (String × Registered τ)}
    (hm : ∀ e ∈ entries, ∀ hook, m.hook e = some hook → s.Misses hook) {w : World τ}
    (hw : s.Alike w w) (fs : List Fault) : s.Alike w (entries.foldl m.say (w, fs)).1 := by
  induction entries generalizing w fs with
  | nil => exact hw
  | cons e entries ih =>
    have hrest := fun e' he' => hm e' (List.mem_cons_of_mem e he')
    rw [List.foldl_cons]
    cases hook? : m.hook e with
    | none =>
      simp only [say, hook?]
      exact ih hrest hw fs
    | some hook =>
      have htold := hw.noted (m.told e.1)
      have hcall := htold.trans ((hm e List.mem_cons_self hook hook?).after htold.right)
      simp only [say, hook?, World.call]
      cases (hook (w.note (m.told e.1)).outlets).failure with
      | none => exact hcall.trans (ih hrest hcall.right fs)
      | some f =>
        have hfailed := hcall.noted (m.failed (m.trouble e.1 f))
        exact hfailed.trans (ih hrest hfailed.right _)

/-! ## Stores -/

/-- A store that, under a key, goes by what is seen of its cabinet. -/
structure Store.Heeds (x : Store τ) (key : Value) (r : Semblance (Cabinet τ)) : Prop where
  holds : ∀ c c', r.r c c' → x.holds key c' = x.holds key c
  load : ∀ c c', r.r c c' → x.load key c' = x.load key c
  save : ∀ snapshot c c', r.r c c' →
    (x.save key snapshot c').2 = (x.save key snapshot c).2 ∧
      r.r (x.save key snapshot c).1 (x.save key snapshot c').1

/-- A store of which, under a key, nothing is seen. -/
def Store.Unseen (x : Store τ) (key : Value) (r : Semblance (Cabinet τ)) : Prop :=
  ∀ snapshot c, r.r c c → r.r c (x.save key snapshot c).1

namespace Policy

variable {p : Policy τ} {r : Semblance (Cabinet τ)} {c c' : Cabinet τ}

/-- An attempt to save changes of a policy only what it has tried. -/
theorem maybeSave_tried (p : Policy τ) (x : Snapshot τ) (final : Bool) (c : Cabinet τ) :
    ∃ i, (p.maybeSave x final c).1 = { p with lastAttempted := i } := by
  unfold maybeSave
  dsimp only
  split
  · split
    · exact ⟨_, rfl⟩
    · exact ⟨_, rfl⟩
  · exact ⟨p.lastAttempted, rfl⟩

theorem maybeSave_alike (hp : p.store.Heeds (.text p.key) r) (hc : r.r c c') (x : Snapshot τ)
    (final : Bool) :
    (p.maybeSave x final c').1 = (p.maybeSave x final c).1 ∧
      r.r (p.maybeSave x final c).2.1 (p.maybeSave x final c').2.1 ∧
      (p.maybeSave x final c').2.2 = (p.maybeSave x final c).2.2 := by
  obtain ⟨hresult, hcabinet⟩ := hp.save x c c' hc
  unfold maybeSave
  dsimp only
  generalize p.store.save (.text p.key) x c = a at hresult hcabinet ⊢
  generalize p.store.save (.text p.key) x c' = b at hresult hcabinet ⊢
  obtain ⟨d, result⟩ := a
  obtain ⟨d', result'⟩ := b
  cases hresult
  cases p.isDue x.state.book.iteration final with
  | false => exact ⟨rfl, hc, rfl⟩
  | true => cases result <;> exact ⟨rfl, hcabinet, rfl⟩

theorem maybeSave_unseen (hp : p.store.Unseen (.text p.key) r) (hc : r.r c c) (x : Snapshot τ)
    (final : Bool) : r.r c (p.maybeSave x final c).2.1 := by
  have hsave := hp x c hc
  unfold maybeSave
  dsimp only
  generalize p.store.save (.text p.key) x c = a at hsave ⊢
  obtain ⟨d, result⟩ := a
  cases p.isDue x.state.book.iteration final with
  | false => exact hc
  | true => cases result <;> exact hsave

end Policy

/-! ## Calls -/

/-- A call of which nothing is seen but what it answers: it raises no signal that
is looked at, and lets no time pass that is looked at. -/
def Call.Unseen (s : Sight τ) : Call τ → Prop
  | .done _ _ => True
  | .evaluate _ _ next => ∀ o r, (next o r).Unseen s
  | .change _ next => next.Unseen s
  | .wait _ next => ¬ s.timed ∧ next.Unseen s
  | .raise name next => s.PassesOver name ∧ next.Unseen s

theorem Call.run_alike [Clock τ] {s : Sight τ} (c : Call τ) (p : Problem) {w w' : World τ}
    (h : s.Alike w w') :
    ∃ v, c.run p w' = { c.run p w with world := v } ∧ s.Alike (c.run p w).world v := by
  induction c generalizing p w w' with
  | done left answer => exact ⟨w', rfl, h⟩
  | evaluate cap args next ih =>
    simp only [Call.run]
    cases p.supports cap with
    | true => exact ih _ _ _ (h.note _ _)
    | false => exact ih _ _ _ h
  | change ch next ih =>
    obtain ⟨v, hv, halike⟩ := ih (p.after ch) h
    refine ⟨v, ?_, halike⟩
    simp only [Call.run, hv]
  | wait d next ih => exact ih p (h.wait d)
  | raise name next ih => exact ih p (h.raise name)

/-- Nothing is seen of a call where neither signals nor the time are looked at. -/
theorem Call.unseen_of_blind {s : Sight τ} (hsignals : ∀ n, ¬ s.signals n) (htimed : ¬ s.timed)
    (c : Call τ) : c.Unseen s := by
  induction c with
  | done left answer => trivial
  | evaluate cap args next ih => exact fun o r => ih o r
  | change ch next ih => exact ih
  | wait d next ih => exact ⟨htimed, ih⟩
  | raise name next ih => exact ⟨fun n _ => hsignals n, ih⟩

theorem Call.run_unseen [Clock τ] {s : Sight τ} {c : Call τ} (hc : c.Unseen s) (p : Problem)
    {w : World τ} (hw : s.Alike w w) : s.Alike w (c.run p w).world := by
  induction c generalizing p w with
  | done left answer => exact hw
  | evaluate cap args next ih =>
    have hnote := hw.noted (.evaluated cap)
    simp only [Call.run]
    cases p.supports cap with
    | true => exact hnote.trans (ih _ _ (hc _ _) _ hnote.right)
    | false => exact ih _ _ (hc _ _) _ hw
  | change ch next ih => exact ih hc (p.after ch) hw
  | wait d next ih =>
    have hwait : s.Alike w (w.wait d) :=
      ⟨hw.names, hw.signals, hw.outlets, hw.cabinets, fun ht => absurd ht hc.1⟩
    exact hwait.trans (ih hc.2 p hwait.right)
  | raise name next ih =>
    have hraise := hc.1.raise hw
    exact hraise.trans (ih hc.2 p hraise.right)

end Minimize
