-- Twins: two engines that differ in what comes of their saves and of the words
-- to their observers, and in nothing else. If no save must succeed and no
-- observer touches the abort signal, their runs are twins as well, so no failure
-- that is got over tells on a run but by a warning.
import Minimize.Proofs.Account
import Minimize.Proofs.Replay

namespace Minimize

variable {τ : Type}

/-! ## What matters of a journal -/

namespace Event

/-- Whether an event only tells what came of a save or of a word to an
observer. -/
def incidental : Event τ → Bool
  | .saved _ _ => true
  | .saveFailed _ => true
  | .notifyFailed _ => true
  | .finishFailed _ => true
  | .opened _ => true
  | _ => false

/-- The event, unless it is incidental. -/
def essential? (e : Event τ) : Option (Event τ) := if e.incidental then none else some e

end Event

namespace World

def essentials (w : World τ) : List (Event τ) := w.history.filterMap Event.essential?

theorem essentials_note (w : World τ) (e : Event τ) :
    (w.note e).essentials = w.essentials ++ e.essential?.toList := by
  unfold essentials
  rw [history_note, List.filterMap_append]
  cases h : e.essential? <;> simp [h]

theorem essentials_of_history {w w' : World τ} {es : List (Event τ)}
    (h : w'.history = w.history ++ es) :
    w'.essentials = w.essentials ++ es.filterMap Event.essential? := by
  unfold essentials
  rw [h, List.filterMap_append]

/-- A later moment of a world at the same time, with the same names of signals
and with the given signal as it was. -/
structure Steady (signal : Option Nat) (w w' : World τ) : Prop where
  clock : w'.clock = w.clock
  names : w'.signals.names = w.signals.names
  signal : ∀ n, signal = some n → w'.signals.get? n = w.signals.get? n

/-- Worlds at the same time, with the same names of signals and the given
signal alike, in which the same happened. -/
structure Twins (signal : Option Nat) (names : Table Nat) (w w' : World τ) : Prop where
  clock : w'.clock = w.clock
  names : w.signals.names = names ∧ w'.signals.names = names
  signal : ∀ n, signal = some n → w'.signals.get? n = w.signals.get? n
  essentials : w'.essentials = w.essentials

variable {signal : Option Nat} {names : Table Nat} {w w' v v' : World τ}

theorem Steady.refl (w : World τ) : w.Steady signal w := ⟨rfl, rfl, fun _ _ => rfl⟩

theorem Steady.trans {w'' : World τ} (h : w.Steady signal w') (h' : w'.Steady signal w'') :
    w.Steady signal w'' :=
  ⟨h'.clock.trans h.clock, h'.names.trans h.names,
    fun n hn => (h'.signal n hn).trans (h.signal n hn)⟩

theorem note_steady (w : World τ) (e : Event τ) : w.Steady signal (w.note e) :=
  ⟨rfl, rfl, fun _ _ => rfl⟩

theorem Twins.moved (h : w.Twins signal names w') (hv : w.Steady signal v)
    (hv' : w'.Steady signal v') {es : List (Event τ)} (he : v.essentials = w.essentials ++ es)
    (he' : v'.essentials = w'.essentials ++ es) : v.Twins signal names v' where
  clock := by rw [hv'.clock, hv.clock, h.clock]
  names := ⟨hv.names.trans h.names.1, hv'.names.trans h.names.2⟩
  signal n hn := by rw [hv'.signal n hn, hv.signal n hn, h.signal n hn]
  essentials := by rw [he, he', h.essentials]

theorem Twins.note (h : w.Twins signal names w') (e : Event τ) :
    (w.note e).Twins signal names (w'.note e) :=
  h.moved (note_steady w e) (note_steady w' e) (essentials_note w e) (essentials_note w' e)

theorem Twins.notes (h : w.Twins signal names w') {α : Type} (e : α → Event τ) (as : List α) :
    (as.foldl (fun w a => w.note (e a)) w).Twins signal names
      (as.foldl (fun w a => w.note (e a)) w') := by
  induction as generalizing w w' with
  | nil => exact h
  | cons a as ih => exact ih (h.note (e a))

theorem get?_set {α : Type} (c : Catalog α) (i : Nat) (a : α) (n : Nat) :
    (c.set i a).get? n = if i = n then (c.get? n).map fun _ => a else c.get? n := by
  unfold Catalog.set Catalog.get?
  rw [List.getElem?_set]
  by_cases hin : i = n
  · subst hin
    by_cases hlt : i < c.things.length
    · simp [hlt]
    · simp [hlt]
  · simp [hin]

theorem Twins.raise (h : w.Twins signal names w') (name : String) :
    (w.raise name).Twins signal names (w'.raise name) := by
  have hnames : w'.signals.number? name = w.signals.number? name := by
    unfold Catalog.number?
    rw [h.names.1, h.names.2]
  unfold World.raise Catalog.replace
  rw [hnames]
  cases w.signals.number? name with
  | none => exact h
  | some i =>
    refine ⟨h.clock, h.names, ?_, h.essentials⟩
    intro n hn
    simp only [get?_set]
    rw [h.signal n hn]

theorem Twins.wait [Clock τ] (h : w.Twins signal names w') (d : τ) :
    (w.wait d).Twins signal names (w'.wait d) :=
  ⟨congrArg (Clock.add · d) h.clock, h.names, h.signal, h.essentials⟩

end World

/-- In worlds that are twins a call comes to the same. -/
theorem Call.run_twins [Clock τ] {signal : Option Nat} {names : Table Nat} (c : Call τ)
    (p : Problem) {w w' : World τ} (h : w.Twins signal names w') :
    ∃ v, c.run p w' = { c.run p w with world := v } ∧
      (c.run p w).world.Twins signal names v := by
  induction c generalizing p w w' with
  | done left answer => exact ⟨w', rfl, h⟩
  | evaluate cap args next ih =>
    simp only [Call.run]
    cases p.supports cap with
    | true => exact ih _ _ _ (h.note (.evaluated cap))
    | false => exact ih _ _ _ h
  | change ch next ih =>
    obtain ⟨v, hv, ht⟩ := ih (p.after ch) h
    refine ⟨v, ?_, ht⟩
    simp only [Call.run, hv]
  | wait d next ih => exact ih p (h.wait d)
  | raise name next ih => exact ih p (h.raise name)

/-! ## Words to observers -/

/-- A hook that leaves a signal alone, whatever the outlets are. -/
def Spares (signal : Option Nat) (names : Table Nat) (hook : Outlets → Reaction) : Prop :=
  ∀ o, ∀ name ∈ (hook o).raised, ∀ n, signal = some n → names.get? name ≠ some n

namespace World

variable {signal : Option Nat} {names : Table Nat} {w : World τ}

theorem raise_steady {name : String}
    (h : ∀ n, signal = some n → w.signals.names.get? name ≠ some n) :
    w.Steady signal (w.raise name) := by
  unfold raise Catalog.replace
  cases hi : w.signals.number? name with
  | none => exact .refl w
  | some i =>
    refine ⟨rfl, rfl, ?_⟩
    intro n hn
    have hne : i ≠ n := by
      rintro rfl
      exact h i hn hi
    simp only [get?_set, hne, if_false]

theorem raises_steady (raised : List String)
    (h : ∀ name ∈ raised, ∀ n, signal = some n → w.signals.names.get? name ≠ some n) :
    w.Steady signal (raised.foldl raise w) := by
  induction raised generalizing w with
  | nil => exact .refl w
  | cons name raised ih =>
    have hfirst := raise_steady (h name List.mem_cons_self)
    refine hfirst.trans (ih ?_)
    intro name' hm n hn
    rw [hfirst.names]
    exact h name' (List.mem_cons_of_mem _ hm) n hn

theorem notes_steady {α : Type} (e : α → Event τ) (as : List α) (w : World τ) :
    w.Steady signal (as.foldl (fun w a => w.note (e a)) w) := by
  induction as generalizing w with
  | nil => exact .refl w
  | cons a as ih => exact (note_steady w (e a)).trans (ih (w.note (e a)))

theorem after_steady {hook : Outlets → Reaction} (h : Spares signal w.signals.names hook) :
    w.Steady signal (w.after (hook w.outlets)) := by
  have houtlets : w.Steady signal { w with outlets := (hook w.outlets).outlets } :=
    ⟨rfl, rfl, fun _ _ => rfl⟩
  have hraises : ({ w with outlets := (hook w.outlets).outlets } : World τ).Steady signal _ :=
    raises_steady (hook w.outlets).raised (h w.outlets)
  exact (houtlets.trans hraises).trans (notes_steady .opened _ _)

end World

/-- Hooks that leave a signal alone leave it alone together. -/
theorem Word.say_steady {signal : Option Nat} {names : Table Nat} (m : Word τ)
    {entries : List (String × Registered τ)}
    (h : ∀ e ∈ entries, ∀ hook, m.hook e = some hook → Spares signal names hook)
    (acc : World τ × List Fault) (hn : acc.1.signals.names = names) :
    acc.1.Steady signal (entries.foldl m.say acc).1 := by
  induction entries generalizing acc with
  | nil => exact .refl acc.1
  | cons e rest ih =>
    have hrest : ∀ e' ∈ rest, ∀ hook, m.hook e' = some hook → Spares signal names hook :=
      fun e' he' => h e' (List.mem_cons_of_mem _ he')
    have hsay : acc.1.Steady signal (m.say acc e).1 := by
      cases hm : m.hook e with
      | none =>
        simp only [say, hm]
        exact .refl acc.1
      | some hook =>
        have hspares := h e List.mem_cons_self hook hm
        have hcall : acc.1.Steady signal
            ((acc.1.note (m.told e.1)).after (hook (acc.1.note (m.told e.1)).outlets)) :=
          (World.note_steady acc.1 _).trans
            (World.after_steady (by rw [← hn] at hspares; exact hspares))
        simp only [say, hm, World.call]
        cases (hook (acc.1.note (m.told e.1)).outlets).failure with
        | none => exact hcall
        | some f => exact hcall.trans (World.note_steady _ _)
    exact hsay.trans (ih hrest _ (hsay.names.trans hn))

/-- What an observer is like from outside: its name, its mode, and whether it
wants to hear of the end. -/
def Registry.sketch (r : Registry τ) : List (String × Mode × Bool) :=
  r.entries.map fun e => (e.1, e.2.mode, e.2.observer.finish.isSome)

/-- A word of an iteration reaches observers by their modes. -/
theorem Word.GoesRound.told_iteration {record : Record} {i : Int} {improved : Bool}
    {r : Registry τ} {o : Outlets} {es : List (Event τ)} {fs : List Fault}
    (h : (Word.iteration record i improved).GoesRound r.entries o es fs) :
    es.filterMap Event.essential? =
      (r.sketch.filter fun s => s.2.1.fires i improved).map fun s => .notified s.1 i record := by
  have hread := h.read Event.essential? (fun name => .notified name i record) (fun _ => rfl)
    (fun _ => rfl) fun _ => rfl
  rw [hread, Word.iteration_concerns]
  unfold Registry.sketch
  rw [List.filter_map, List.map_map]
  rfl

/-- The word of the end reaches the observers that want to hear it. -/
theorem Word.GoesRound.told_finish {outcome : Outcome τ} {r : Registry τ} {o : Outlets}
    {es : List (Event τ)} {fs : List Fault}
    (h : (Word.finish outcome).GoesRound r.entries o es fs) :
    es.filterMap Event.essential? =
      (r.sketch.filter fun s => s.2.2).map fun s => .finishing s.1 := by
  have hread := h.read Event.essential? .finishing (fun _ => rfl) (fun _ => rfl) fun _ => rfl
  rw [hread, Word.finish_concerns]
  unfold Registry.sketch
  rw [List.filter_map, List.map_map]
  rfl

/-! ## Engines -/

/-- Policies that agree in everything but where they save to, and by neither
of which a save must succeed. -/
inductive Policy.Twins : Option (Policy τ) → Option (Policy τ) → Prop
  | none : Twins none none
  | some {p q : Policy τ} (gentle : p.fatal = false ∧ q.fatal = false) (key : q.key = p.key)
      (frequency : q.frequency = p.frequency) (last : q.lastAttempted = p.lastAttempted) :
      Twins (some p) (some q)

namespace Engine

/-- The engine with other observers, another policy, other warnings and in
another world. -/
def elsewhere (g : Engine τ) (r : Registry τ) (p : Option (Policy τ)) (fs : List Fault)
    (w : World τ) : Engine τ :=
  ⟨{ g.executor with observers := r, policy := p, warnings := fs }, w⟩

/-- Observers that leave the signal of a run alone. -/
def LeaveAlone (r : Registry τ) (signal : Option Nat) (names : Table Nat) : Prop :=
  ∀ e ∈ r.entries, ∀ record, Spares signal names (e.2.observer.notify record)

/-- Twin engines: they differ in where they save to, in what their observers
do, as long as that leaves the signal alone, and in what they have warned of. -/
inductive Twins (names : Table Nat) (g : Engine τ) : Engine τ → Prop
  | twins {r : Registry τ} {p : Option (Policy τ)} {fs : List Fault} {w : World τ}
      (sketch : r.sketch = g.executor.observers.sketch)
      (alone : LeaveAlone g.executor.observers g.executor.signal names ∧
        LeaveAlone r g.executor.signal names)
      (policy : Policy.Twins g.executor.policy p)
      (world : g.world.Twins g.executor.signal names w) : Twins names g (g.elsewhere r p fs w)

variable [Clock τ] {names : Table Nat} {g g' h h' : Engine τ}

theorem Twins.asked {r : Registry τ} {p : Option (Policy τ)} {fs : List Fault} {w : World τ}
    (hw : g.world.Twins g.executor.signal names w) (kind : CallKind) :
    ∃ v, (g.elsewhere r p fs w).asked kind = { g.asked kind with world := v } ∧
      (g.asked kind).world.Twins g.executor.signal names v :=
  Call.run_twins _ _ (hw.note (.called kind g.executor.state.book.iteration))

theorem Twins.consult (ht : g.Twins names h) (kind : CallKind) :
    Attempt.Both (fun a b => a.1.Twins names b.1 ∧ b.2 = a.2) (Twins names) (g.consult kind)
      (h.consult kind) := by
  obtain ⟨hsketch, halone, hpolicy, hw⟩ := ht
  obtain ⟨v, hv, hvt⟩ := Twins.asked hw kind
  unfold Engine.consult
  rw [hv]
  dsimp only [elsewhere]
  cases (g.asked kind).answer.returned g.executor.solver kind (g.asked kind).left with
  | error f => exact .error (.twins hsketch halone hpolicy hvt)
  | ok r => exact .ok ⟨.twins hsketch halone hpolicy hvt, rfl⟩

theorem Twins.merge (ht : g.Twins names h) (r : Returned τ) (book : Bookkeeping τ) (i : Int)
    (started : τ) :
    Attempt.Both (Twins names) (Twins names) (g.merge r book i started)
      (h.merge r book i started) := by
  obtain ⟨hsketch, halone, hpolicy, hw⟩ := ht
  have hcarried : ∀ r' p fs w', g.world.Twins g.executor.signal names w' →
      (g.elsewhere r' p fs w').carried r.state book i started =
        g.carried r.state book i started := by
    intro r' p fs w' hw'
    unfold carried elapsed elsewhere
    dsimp only
    rw [hw'.clock]
  unfold Engine.merge
  dsimp only
  rw [hcarried _ _ _ _ hw]
  cases (g.carried r.state book i started).recordBest with
  | error e => cases r.inPlace <;> exact .error (.twins hsketch halone hpolicy hw)
  | ok s => cases r.inPlace <;> exact .ok (.twins hsketch halone hpolicy hw)

omit [Clock τ] in
theorem Twins.state (ht : g.Twins names h) : h.executor.state = g.executor.state := by
  cases ht
  rfl

omit [Clock τ] in
theorem Twins.solver (ht : g.Twins names h) : h.executor.solver = g.executor.solver := by
  cases ht
  rfl

omit [Clock τ] in
theorem Twins.settings (ht : g.Twins names h) : h.executor.settings = g.executor.settings := by
  cases ht
  rfl

omit [Clock τ] in
theorem Twins.withState (ht : g.Twins names h) (s : State τ) :
    (g.withState s).Twins names (h.withState s) := by
  obtain ⟨hsketch, halone, hpolicy, hw⟩ := ht
  exact .twins hsketch halone hpolicy hw

omit [Clock τ] in
theorem Twins.note (ht : g.Twins names h) (e : Event τ) : (g.note e).Twins names (h.note e) := by
  obtain ⟨hsketch, halone, hpolicy, hw⟩ := ht
  exact .twins hsketch halone hpolicy (hw.note e)

omit [Clock τ] in
theorem Twins.enter (ht : g.Twins names h) (kind : CallKind) :
    (g.enter kind).Twins names (h.enter kind) := by
  obtain ⟨hsketch, halone, hpolicy, hw⟩ := ht
  cases kind <;> exact .twins hsketch halone hpolicy hw

theorem Twins.kept (ht : g.Twins names h) (kind : CallKind) : h.kept kind = g.kept kind := by
  obtain ⟨_, _, _, hw⟩ := ht
  unfold Engine.kept
  obtain ⟨v, hv, _⟩ := Twins.asked hw kind
  rw [hv]
  rfl

theorem Twins.take (ht : g.Twins names h) (kind : CallKind) (started : τ) :
    Attempt.Both (fun a b => a.1.Twins names b.1 ∧ b.2 = a.2) (Twins names) (g.take kind started)
      (h.take kind started) := by
  unfold Engine.take
  refine (ht.consult kind).bind fun a b _ _ hab => ?_
  obtain ⟨u, r⟩ := a
  obtain ⟨v, r'⟩ := b
  obtain ⟨huv, rfl⟩ := hab
  dsimp only
  rw [ht.state, ht.kept]
  exact (huv.merge _ _ _ started).bind fun a' b' _ _ ht' => .ok ⟨ht', rfl⟩

omit [Clock τ] in
theorem Twins.aborted (ht : g.Twins names h) : h.aborted = g.aborted := by
  obtain ⟨_, _, _, hw⟩ := ht
  unfold Engine.aborted elsewhere World.isRaised
  cases hs : g.executor.signal with
  | none => rfl
  | some n =>
    dsimp only
    rw [hw.signal n hs]

theorem Twins.questioned (ht : g.Twins names h) : h.questioned = g.questioned := by
  unfold Engine.questioned
  dsimp only
  rw [ht.state, ht.solver, ht.settings, ht.aborted]

theorem Twins.judge (ht : g.Twins names h) :
    Attempt.Both (Twins names) (Twins names) g.judge h.judge := by
  unfold Engine.judge
  dsimp only
  rw [ht.questioned, ht.state, ht.solver, ht.settings, ht.aborted]
  split
  · exact .ok ht
  · split
    · exact .error (ht.withState _)
    · exact .ok (ht.withState _)
    · split
      · exact .error (ht.withState _)
      · exact .ok (ht.withState _)

theorem Twins.complete (ht : g.Twins names h) (record : Option Record) :
    Attempt.Both (Twins names) (Twins names) (g.complete record) (h.complete record) := by
  unfold Engine.complete
  dsimp only
  rw [ht.state]
  split
  · exact .error ht
  · exact .ok ((ht.withState _).note _)

theorem Twins.advance (ht : g.Twins names h) (kind : CallKind) (started : τ) :
    Attempt.Both (Twins names) (Twins names) (g.advance kind started)
      (h.advance kind started) := by
  unfold Engine.advance
  refine ((ht.enter kind).take kind started).bind fun a b _ _ hab => ?_
  obtain ⟨u, record⟩ := a
  obtain ⟨v, record'⟩ := b
  obtain ⟨huv, rfl⟩ := hab
  exact huv.judge.bind fun a' b' _ _ ht' => ht'.complete record'

/-! ## Saves and words -/

omit [Clock τ] in
theorem save_idle {p : Policy τ} (hp : g.executor.policy = some p) {final : Bool}
    (hd : p.isDue g.executor.state.book.iteration final = false) :
    ∃ w, g.save final = .ok (g.elsewhere g.executor.observers (some p) g.executor.warnings w) ∧
      g.world.Steady g.executor.signal w ∧ w.essentials = g.world.essentials := by
  rw [save_eq hp]
  unfold Policy.maybeSave
  simp only [hd, Bool.false_eq_true, if_false]
  exact ⟨_, rfl, ⟨rfl, rfl, fun _ _ => rfl⟩, rfl⟩

omit [Clock τ] in
/-- A save that is due and may fail changes the policy, and otherwise only
what does not matter. -/
theorem save_gently {p : Policy τ} (hp : g.executor.policy = some p) (hf : p.fatal = false)
    {final : Bool} (hd : p.isDue g.executor.state.book.iteration final = true) :
    ∃ fs w, g.save final = .ok (g.elsewhere g.executor.observers
        (some { p with lastAttempted := some g.executor.state.book.iteration }) fs w) ∧
      g.world.Steady g.executor.signal w ∧ w.essentials = g.world.essentials ++
        [.attempted p.key g.executor.state.book.iteration] := by
  have hc : (g.world.note (.attempted p.key g.executor.state.book.iteration)).cabinet p.cabinet =
      g.world.cabinet p.cabinet := rfl
  have hnote := World.essentials_note g.world (.attempted p.key g.executor.state.book.iteration)
  rw [save_eq hp]
  unfold Policy.maybeSave
  simp only [hd, if_true, hc]
  cases hr : p.store.save (.text p.key) ⟨g.executor.solver, g.executor.state⟩
      (g.world.cabinet p.cabinet) with
  | mk c r =>
    cases r with
    | ok _ =>
      refine ⟨_, _, rfl, ⟨rfl, rfl, fun _ _ => rfl⟩, ?_⟩
      exact (World.essentials_note _ (.saved _ _)).trans ((List.append_nil _).trans hnote)
    | error f =>
      unfold afterSave
      simp only [hf, Bool.false_eq_true, if_false]
      refine ⟨_, _, rfl, ⟨rfl, rfl, fun _ _ => rfl⟩, ?_⟩
      exact (World.essentials_note _ (.saveFailed _)).trans ((List.append_nil _).trans hnote)

omit [Clock τ] in
/-- Policies that agree call for a save at the same time. -/
theorem isDue_of_agree {p q : Policy τ} (hf : q.frequency = p.frequency)
    (hl : q.lastAttempted = p.lastAttempted) (i : Int) (final : Bool) :
    q.isDue i final = p.isDue i final := by
  unfold Policy.isDue
  rw [hf, hl]

omit [Clock τ] in
theorem Twins.save (ht : g.Twins names h) (final : Bool) :
    ∃ g' h', g.save final = .ok g' ∧ h.save final = .ok h' ∧ g'.Twins names h' := by
  obtain @⟨r, p', fs, w, hsketch, halone, hpolicy, hw⟩ := ht
  generalize hp : g.executor.policy = p at hpolicy
  cases hpolicy with
  | none =>
    refine ⟨g, g.elsewhere r none fs w, ?_, rfl, .twins hsketch halone (hp ▸ .none) hw⟩
    unfold Engine.save
    rw [hp]
  | @some p q gentle key frequency last =>
    have hdue := isDue_of_agree frequency last g.executor.state.book.iteration final
    have hq : (g.elsewhere r (some q) fs w).executor.policy = some q := rfl
    cases hd : p.isDue g.executor.state.book.iteration final with
    | false =>
      obtain ⟨v, hv, hsteady, hessentials⟩ := save_idle hp hd
      obtain ⟨v', hv', hsteady', hessentials'⟩ := save_idle hq (hdue.trans hd)
      refine ⟨_, _, hv, hv', .twins hsketch halone (.some gentle key frequency last) ?_⟩
      exact hw.moved hsteady hsteady' (hessentials.trans (List.append_nil _).symm)
        (hessentials'.trans (List.append_nil _).symm)
    | true =>
      obtain ⟨fs₁, v, hv, hsteady, hessentials⟩ := save_gently hp gentle.1 hd
      obtain ⟨fs₂, v', hv', hsteady', hessentials'⟩ := save_gently hq gentle.2 (hdue.trans hd)
      rw [key] at hessentials'
      exact ⟨_, _, hv, hv', .twins hsketch halone (.some gentle key frequency rfl)
        (hw.moved hsteady hsteady' hessentials hessentials')⟩

omit [Clock τ] in
/-- Words to observers that leave the signal alone change nothing that matters
but by which observers are told. -/
theorem dispatch_gently (halone : LeaveAlone g.executor.observers g.executor.signal names)
    (hn : g.world.signals.names = names) :
    ∃ fs w, g.dispatch = g.elsewhere g.executor.observers g.executor.policy fs w ∧
      g.world.Steady g.executor.signal w ∧
      w.essentials = g.world.essentials ++ (g.executor.observers.sketch.filter fun s =>
        s.2.1.fires g.executor.state.book.iteration g.executor.improved).map fun s =>
          .notified s.1 g.executor.state.book.iteration g.executor.state.record := by
  obtain ⟨es, fs, hr, hputs⟩ := dispatch_puts g
  refine ⟨_, g.dispatch.world, rfl, ?_, ?_⟩
  · have hspares : ∀ e ∈ g.executor.observers.entries, ∀ hook,
        (Word.iteration g.executor.state.record g.executor.state.book.iteration
          g.executor.improved).hook e = some hook → Spares g.executor.signal names hook := by
      intro e he hook hm
      unfold Word.iteration at hm
      dsimp only at hm
      split at hm
      · cases hm
        exact halone e he _
      · cases hm
    have hsteady := Word.say_steady _ hspares (g.world, []) hn
    rw [← Registry.dispatch_eq] at hsteady
    exact hsteady
  · rw [World.essentials_of_history hputs.history, hr.told_iteration]

omit [Clock τ] in
theorem Twins.dispatch (ht : g.Twins names h) : g.dispatch.Twins names h.dispatch := by
  obtain @⟨r, p, fs, w, hsketch, halone, hpolicy, hw⟩ := ht
  have halone' : LeaveAlone (g.elsewhere r p fs w).executor.observers
      (g.elsewhere r p fs w).executor.signal names := halone.2
  obtain ⟨fs₁, v, hv, hsteady, hessentials⟩ := dispatch_gently halone.1 hw.names.1
  obtain ⟨fs₂, v', hv', hsteady', hessentials'⟩ := dispatch_gently halone' hw.names.2
  have hr : (g.elsewhere r p fs w).executor.observers.sketch = g.executor.observers.sketch := hsketch
  rw [hr] at hessentials'
  rw [hv, hv']
  exact .twins hsketch halone hpolicy (hw.moved hsteady hsteady' hessentials hessentials')

theorem Twins.iterate (ht : g.Twins names h) (kind : CallKind) (started : τ) :
    Attempt.Both (Twins names) (Twins names) (g.iterate kind started)
      (h.iterate kind started) := by
  rw [iterate_eq, iterate_eq]
  refine (ht.advance kind started).bind fun a b _ _ hab => ?_
  obtain ⟨a', b', ha, hb, hab'⟩ := hab.save false
  rw [ha, hb]
  exact .ok hab'.dispatch

/-! ## Runs -/

omit [Clock τ] in
theorem Twins.settled (ht : g.Twins names h) : g.settled.Twins names h.settled := by
  unfold Engine.settled
  rw [ht.state]
  exact ht.withState _

omit [Clock τ] in
theorem Twins.noteLoaded (ht : g.Twins names h) (s : Snapshot τ) :
    (g.noteLoaded s).Twins names (h.noteLoaded s) := by
  obtain @⟨r, p', fs, w, hsketch, halone, hpolicy, hw⟩ := ht
  have htwin : Engine.Twins names g (g.elsewhere r p' fs w) := .twins hsketch halone hpolicy hw
  unfold Engine.noteLoaded
  generalize hp : g.executor.policy = p at hpolicy
  cases hpolicy with
  | none => exact htwin
  | @some p q gentle key frequency last =>
    dsimp only [elsewhere]
    rw [key]
    exact .twins hsketch halone (.some gentle key frequency rfl) (hw.note _)

omit [Clock τ] in
theorem Twins.resume (ht : g.Twins names h) (s : Snapshot τ) :
    (g.resume s).Twins names (h.resume s) := by
  obtain ⟨hsketch, halone, hpolicy, hw⟩ := ht
  have hnotes := hw.notes (fun n => .ignoredCounter n) (ignoredNames s.state.counts)
  unfold Engine.resume
  dsimp only
  split
  · exact .twins hsketch halone hpolicy (hnotes.note _)
  · exact .twins hsketch halone hpolicy hnotes

theorem Twins.start (ht : g.Twins names h) (hs : h.stored = g.stored) (started : τ) :
    Attempt.Both (Twins names) (Twins names) (g.start started) (h.start started) := by
  unfold Engine.start
  rw [hs]
  split
  · exact .error ht
  · exact .ok ((ht.settled.noteLoaded _).resume _)
  · exact ht.settled.iterate .opening started

omit [Clock τ] in
theorem Twins.terminated (ht : g.Twins names h) :
    h.executor.state.terminated = g.executor.state.terminated := by
  rw [ht.state]

theorem Twins.ended (ht : g.Twins names h) (hg : g.executor.state.terminated = true) (started : τ)
    (limit : Nat) :
    ∃ x y, g.onward started limit = some x ∧ h.onward started limit = some y ∧
      Attempt.Both (Twins names) (Twins names) x y := by
  obtain ⟨g', h', hg', hh', ht'⟩ := ht.save true
  refine ⟨_, _, onward_terminated _ _ hg, onward_terminated _ _ (ht.terminated.trans hg), ?_⟩
  rw [hg', hh']
  exact .ok ht'

/-- Twins go on alike: neither ends within a number of iterations, or both do,
and come to the same. -/
theorem Twins.onward (ht : g.Twins names h) (started : τ) (limit : Nat) :
    (g.onward started limit = none ∧ h.onward started limit = none) ∨
    ∃ x y, g.onward started limit = some x ∧ h.onward started limit = some y ∧
      Attempt.Both (Twins names) (Twins names) x y := by
  induction limit generalizing g h with
  | zero =>
    cases hg : g.executor.state.terminated with
    | true => exact .inr (ht.ended hg started 0)
    | false => exact .inl ⟨onward_zero _ hg, onward_zero _ (ht.terminated.trans hg)⟩
  | succ limit ih =>
    cases hg : g.executor.state.terminated with
    | true => exact .inr (ht.ended hg started (limit + 1))
    | false =>
      rw [onward_step _ _ hg, onward_step _ _ (ht.terminated.trans hg)]
      have hboth := ht.iterate .step started
      generalize g.iterate .step started = x at hboth ⊢
      generalize h.iterate .step started = y at hboth ⊢
      cases hboth with
      | ok ht' => exact ih ht'
      | error ht' => exact .inr ⟨_, _, rfl, rfl, .error ht'⟩

theorem Twins.attempt (ht : g.Twins names h) (hs : h.stored = g.stored) (limit : Nat) :
    (g.attempt limit = none ∧ h.attempt limit = none) ∨
    ∃ x y, g.attempt limit = some x ∧ h.attempt limit = some y ∧
      Attempt.Both (Twins names) (Twins names) x y := by
  have hclock : h.world.clock = g.world.clock := by
    obtain ⟨_, _, _, hw⟩ := ht
    exact hw.clock
  have hboth := ht.start hs g.world.clock
  unfold Engine.attempt
  dsimp only
  rw [hclock]
  generalize g.start g.world.clock = x at hboth ⊢
  generalize h.start g.world.clock = y at hboth ⊢
  cases hboth with
  | ok ht' => exact ht'.onward g.world.clock limit
  | error ht' => exact .inr ⟨_, _, rfl, rfl, .error ht'⟩

/-- Ends that are alike: the outcomes agree in everything but the warnings, and
the same happened but for what does not matter. -/
structure EndsAlike (a b : Engine τ × Outcome τ) : Prop where
  outcome : b.2 = { a.2 with warnings := b.2.warnings }
  essentials : b.1.world.essentials = a.1.world.essentials

omit [Clock τ] in
theorem Twins.close (ht : g.Twins names h) (name : String) (error : Option Fault) :
    EndsAlike (g.close name error) (h.close name error) := by
  obtain ⟨es, fs, hr, hh, _⟩ := close_puts g name error
  obtain ⟨es', fs', hr', hh', _⟩ := close_puts h name error
  obtain ⟨hsketch, halone, hpolicy, hw⟩ := ht
  refine ⟨rfl, ?_⟩
  have hwords : es'.filterMap Event.essential? = es.filterMap Event.essential? := by
    rw [hr.told_finish, hr'.told_finish]
    exact congrArg _ (congrArg _ hsketch)
  rw [List.append_assoc] at hh hh'
  rw [World.essentials_of_history hh, World.essentials_of_history hh', List.filterMap_append,
    List.filterMap_append, hwords]
  exact congrArg (· ++ _) hw.essentials

omit [Clock τ] in
theorem Twins.markFailed (ht : g.Twins names h) (name : String) (f : Fault) :
    (g.markFailed name f).Twins names (h.markFailed name f) := by
  unfold Engine.markFailed
  dsimp only
  rw [ht.state]
  split
  · exact ht.note _
  · exact (ht.note _).withState _

omit [Clock τ] in
theorem concluded_twins {x y : Attempt τ} (name : String)
    (hxy : Attempt.Both (Twins names) (Twins names) x y) :
    EndsAlike (concluded name x) (concluded name y) := by
  cases hxy with
  | ok ht => exact ht.close name none
  | error ht => exact (ht.markFailed name _).close name _

omit [Clock τ] in
theorem Twins.begun (ht : g.Twins names h) : g.begun.Twins names h.begun := by
  have hname : h.executor.runName = g.executor.runName := by
    unfold Executor.runName
    rw [ht.settings, ht.solver]
  unfold Engine.begun
  rw [hname]
  exact ht.note _

/-- Failures that are got over change nothing. Where no save must succeed, and
no observer touches the abort signal, a run and its twin, whose saves and
observers may fail or not as they like, both go on or both end. If they end,
their outcomes have the same state, error, problem and solver, and the same
happened in both: the same calls, evaluations and completed states, and the
same records told to the same observers. And each of them has warned of just
its own failures, once and in order: in an iteration of the save before the
observers, these as they were registered, then of the save of the end, and of
the observers that heard of the end. -/
theorem failures_got_over_change_nothing {g₀ h₀ : Engine τ}
    (hp : g₀.executor.phase = .created) (ht : g₀.Twins g₀.world.signals.names h₀)
    (hs : h₀.stored = g₀.stored) (limit : Nat) :
    (g₀.run limit = .ok none ∧ h₀.run limit = .ok none) ∨
    ∃ a b, g₀.run limit = .ok (some a) ∧ h₀.run limit = .ok (some b) ∧ EndsAlike a b ∧
      g₀.Accounted a.1 a.2 ∧ h₀.Accounted b.1 b.2 := by
  have hp' : h₀.executor.phase = .created := by
    obtain ⟨_, _, _, _⟩ := ht
    exact hp
  have hname : h₀.executor.runName = g₀.executor.runName := by
    unfold Executor.runName
    rw [ht.settings, ht.solver]
  have hg := run_created hp limit
  have hh := run_created hp' limit
  rcases ht.begun.attempt hs limit with ⟨hx, hy⟩ | ⟨x, y, hx, hy, hxy⟩
  · rw [hx] at hg
    rw [hy] at hh
    exact .inl ⟨hg, hh⟩
  · rw [hx] at hg
    rw [hy, hname] at hh
    exact .inr ⟨_, _, hg, hh, concluded_twins _ hxy, run_account hp hg, run_account hp' hh⟩

/-- A replay of one cost that is saved to a store and watched by an
observer. -/
def recital (s : Store Float) (o : Observer Float) : Engine Float :=
  (underLimit (Sample.replay [true]) 0 (some ⟨"memory", s, "run", .always, false, false, none⟩)
    (some 0) ((World.start 0).addSignal "stop")).watchedBy o

theorem recital_ends (s : Store Float) (o : Observer Float) :
    ∃ a, (recital s o).run 0 = .ok (some a) ∧ a.2.reason? = some .maxItersReached := by
  have hmoves : (recital s o).begun.settled.Moves .opening := ⟨true, rfl⟩
  have hlimited : (recital s o).begun.settled.Limited 0 :=
    ⟨rfl, rfl, fun _ => rfl, fun h => nomatch h⟩
  have hsaves : (recital s o).begun.settled.SavesGoOn (Sample.replay [true]) := by
    intro p hp
    cases hp
    exact .inl rfl
  obtain ⟨v, hv, hvs, hvl⟩ := hlimited.iterate hmoves hsaves rfl 0
  have hcourse : (recital s o).Course [] v := .start ((start_fresh rfl _).trans hv)
  obtain ⟨u, hu, _, hover⟩ := hvl.ended hvs (Int.le_refl 0) 0
  have hrun := run_of_course rfl hcourse 0
  rw [hu] at hrun
  exact ⟨_, hrun, congrArg Status.reason hover⟩

/-- The law for a replay of which every save fails, and whose observer fails
whenever it is called. -/
theorem a_recital_goes_on_among_failures :
    ∃ a b, (recital (Checkpoint.Memory.store.failing none .notImplemented)
        (onlooker (some .notImplemented))).run 0 = .ok (some a) ∧
      (recital Checkpoint.Memory.store (onlooker none)).run 0 = .ok (some b) ∧ EndsAlike a b ∧
      a.2.reason? = some .maxItersReached ∧
      (recital (Checkpoint.Memory.store.failing none .notImplemented)
        (onlooker (some .notImplemented))).Accounted a.1 a.2 := by
  have halone (f : Option Fault) : LeaveAlone (Table.empty.insert "log" ⟨onlooker f, .always⟩)
      (some 0) (Table.empty.insert "stop" 0) := by
    intro e he record outlets name hname
    obtain rfl := List.mem_singleton.mp he
    cases hname
  have htwins : (recital (Checkpoint.Memory.store.failing none .notImplemented)
      (onlooker (some .notImplemented))).Twins _
        (recital Checkpoint.Memory.store (onlooker none)) :=
    .twins rfl ⟨halone _, halone _⟩ (.some ⟨rfl, rfl⟩ rfl rfl rfl)
      ⟨rfl, ⟨rfl, rfl⟩, fun _ _ => rfl, rfl⟩
  obtain ⟨c, hc, hreason⟩ := recital_ends (Checkpoint.Memory.store.failing none .notImplemented)
    (onlooker (some .notImplemented))
  have hphase : (recital (Checkpoint.Memory.store.failing none .notImplemented)
      (onlooker (some .notImplemented))).executor.phase = .created := rfl
  rcases failures_got_over_change_nothing hphase htwins rfl 0 with
    ⟨hg, _⟩ | ⟨a, b, ha, hb, hab, hacc, _⟩
  · cases hg.symm.trans hc
  · cases ha.symm.trans hc
    exact ⟨_, b, hc, hb, hab, hreason, hacc⟩

end Engine

end Minimize
