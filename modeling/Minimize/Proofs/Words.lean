-- Words to the observers. A word goes round them in the order in which they
-- were registered. Each that it concerns is called once, whatever the others do;
-- what its hook tells is put down, and so is its failure, which is handed back.
import Minimize.Proofs.Frame

namespace Minimize

variable {τ : Type}

/-! ## The history of a world -/

namespace World

variable (w : World τ)

@[simp] theorem history_note (e : Event τ) : (w.note e).history = w.history ++ [e] :=
  List.reverse_cons

@[simp] theorem outlets_note (e : Event τ) : (w.note e).outlets = w.outlets := rfl

theorem raise_foldl (signals : List String) :
    (signals.foldl raise w).journal = w.journal ∧ (signals.foldl raise w).outlets = w.outlets := by
  induction signals generalizing w with
  | nil => exact ⟨rfl, rfl⟩
  | cons s signals ih => exact ih (w.raise s)

theorem note_foldl {α : Type} (e : α → Event τ) (as : List α) :
    (as.foldl (fun w a => w.note (e a)) w).history = w.history ++ as.map e ∧
      (as.foldl (fun w a => w.note (e a)) w).outlets = w.outlets := by
  induction as generalizing w with
  | nil => simp
  | cons a as ih =>
    obtain ⟨hh, ho⟩ := ih (w.note (e a))
    exact ⟨by simp [hh], ho⟩

@[simp] theorem history_after (r : Reaction) :
    (w.after r).history = w.history ++ r.opened.map .opened := by
  have hraise := (raise_foldl { w with outlets := r.outlets } r.raised).1
  unfold after
  rw [(note_foldl _ .opened r.opened).1]
  unfold history
  rw [hraise]

@[simp] theorem outlets_after (r : Reaction) : (w.after r).outlets = r.outlets := by
  unfold after
  rw [(note_foldl _ .opened r.opened).2, (raise_foldl _ r.raised).2]

theorem Grows.history {p : Event τ → Prop} {w w' : World τ} (h : w.Grows p w') :
    ∃ es, w'.history = w.history ++ es ∧ ∀ e ∈ es, p e := by
  obtain ⟨later, hj, hp⟩ := h.journal
  refine ⟨later.reverse, ?_, fun e he => hp e (List.mem_reverse.mp he)⟩
  unfold World.history
  rw [hj, List.reverse_append]

end World

/-! ## Words to observers -/

/-- A word to the observers: the hook of each that it concerns, how it is put
down, and what a failure of a hook is called and how that is put down. -/
structure Word (τ : Type) where
  hook : String × Registered τ → Option (Outlets → Reaction)
  told : String → Event τ
  trouble : String → Fault → Fault
  failed : Fault → Event τ

namespace Word

/-- The word of an iteration, to those whose modes fire. -/
def iteration (record : Record) (i : Int) (improved : Bool) : Word τ where
  hook e := if e.2.mode.fires i improved then some (e.2.observer.notify record) else none
  told name := .notified name i record
  trouble name := .observer name (.notify i)
  failed := .notifyFailed

/-- The word of the end, to those who want to hear of it. -/
def finish (outcome : Outcome τ) : Word τ where
  hook e := e.2.observer.finish.map (· outcome)
  told := .finishing
  trouble name := .observer name .finish
  failed := .finishFailed

theorem iteration_concerns (record : Record) (i : Int) (improved : Bool) :
    (fun e : String × Registered τ => ((iteration record i improved).hook e).isSome) =
      fun e => e.2.mode.fires i improved := by
  funext e
  unfold iteration
  cases h : e.2.mode.fires i improved <;> simp [h]

theorem finish_concerns (outcome : Outcome τ) :
    (fun e : String × Registered τ => ((finish outcome).hook e).isSome) =
      fun e => e.2.observer.finish.isSome := by
  funext e
  exact Option.isSome_map

/-- Says a word to an observer, if it concerns it. -/
def say (m : Word τ) (acc : World τ × List Fault) (e : String × Registered τ) :
    World τ × List Fault :=
  match m.hook e with
  | none => acc
  | some hook =>
    match (acc.1.note (m.told e.1)).call hook with
    | (w, none) => (w, acc.2)
    | (w, some f) => (w.note (m.failed (m.trouble e.1 f)), acc.2 ++ [m.trouble e.1 f])

/-- A word goes round the observers one by one, at the outlets as each finds
them: what is put down of it, and the failures of the hooks. -/
inductive GoesRound (m : Word τ) :
    List (String × Registered τ) → Outlets → List (Event τ) → List Fault → Prop
  | done {o : Outlets} : GoesRound m [] o [] []
  | passed {e : String × Registered τ} {rest : List (String × Registered τ)} {o : Outlets}
      {es : List (Event τ)} {fs : List Fault} (hm : m.hook e = none)
      (hr : GoesRound m rest o es fs) : GoesRound m (e :: rest) o es fs
  | heard {e : String × Registered τ} {rest : List (String × Registered τ)} {o : Outlets}
      {es : List (Event τ)} {fs : List Fault} {hook : Outlets → Reaction}
      (hm : m.hook e = some hook) (hf : (hook o).failure = none)
      (hr : GoesRound m rest (hook o).outlets es fs) :
      GoesRound m (e :: rest) o (m.told e.1 :: (hook o).opened.map .opened ++ es) fs
  | failed {e : String × Registered τ} {rest : List (String × Registered τ)} {o : Outlets}
      {es : List (Event τ)} {fs : List Fault} {hook : Outlets → Reaction} {f : Fault}
      (hm : m.hook e = some hook) (hf : (hook o).failure = some f)
      (hr : GoesRound m rest (hook o).outlets es fs) :
      GoesRound m (e :: rest) o
        (m.told e.1 :: (hook o).opened.map .opened ++ m.failed (m.trouble e.1 f) :: es)
        (m.trouble e.1 f :: fs)

theorem goesRound (m : Word τ) (entries : List (String × Registered τ))
    (acc : World τ × List Fault) :
    ∃ es fs, m.GoesRound entries acc.1.outlets es fs ∧
      (entries.foldl m.say acc).1.history = acc.1.history ++ es ∧
      (entries.foldl m.say acc).2 = acc.2 ++ fs := by
  induction entries generalizing acc with
  | nil => exact ⟨[], [], .done, by simp, by simp⟩
  | cons e rest ih =>
    cases hm : m.hook e with
    | none =>
      have hsay : m.say acc e = acc := by simp [say, hm]
      obtain ⟨es, fs, hr, hh, hw⟩ := ih acc
      refine ⟨es, fs, .passed hm hr, ?_, ?_⟩
      · rw [List.foldl_cons, hsay, hh]
      · rw [List.foldl_cons, hsay, hw]
    | some hook =>
      cases hf : (hook acc.1.outlets).failure with
      | none =>
        have hsay : m.say acc e =
            ((acc.1.note (m.told e.1)).after (hook acc.1.outlets), acc.2) := by
          simp [say, hm, World.call, hf]
        obtain ⟨es, fs, hr, hh, hw⟩ := ih (m.say acc e)
        rw [hsay] at hr hh hw
        rw [World.outlets_after] at hr
        refine ⟨_, fs, .heard hm hf hr, ?_, ?_⟩
        · rw [List.foldl_cons, hsay, hh]
          simp
        · rw [List.foldl_cons, hsay, hw]
      | some f =>
        have hsay : m.say acc e =
            (((acc.1.note (m.told e.1)).after (hook acc.1.outlets)).note
              (m.failed (m.trouble e.1 f)), acc.2 ++ [m.trouble e.1 f]) := by
          simp [say, hm, World.call, hf]
        obtain ⟨es, fs, hr, hh, hw⟩ := ih (m.say acc e)
        rw [hsay] at hr hh hw
        rw [World.outlets_note, World.outlets_after] at hr
        refine ⟨_, _, .failed hm hf hr, ?_, ?_⟩
        · rw [List.foldl_cons, hsay, hh]
          simp
        · rw [List.foldl_cons, hsay, hw]
          simp

end Word

namespace Registry

theorem dispatch_eq (r : Registry τ) (record : Record) (i : Int) (improved : Bool)
    (w : World τ) :
    r.dispatch record i improved w =
      r.entries.foldl (Word.iteration record i improved).say (w, []) := by
  unfold dispatch
  congr 1
  funext acc e
  unfold Word.say
  cases h : e.2.mode.fires i improved with
  | false => simp [Word.iteration, h]
  | true =>
    have hhook : (Word.iteration record i improved).hook e = some (e.2.observer.notify record) :=
      if_pos h
    rw [hhook]
    rfl

theorem finish_eq (r : Registry τ) (outcome : Outcome τ) (w : World τ) :
    r.finish outcome w = r.entries.foldl (Word.finish outcome).say (w, []) := by
  unfold finish
  congr 1
  funext acc e
  unfold Word.say tellEnd
  cases h : e.2.observer.finish with
  | none => simp [Word.finish, h]
  | some hook =>
    have hhook : (Word.finish outcome).hook e = some (hook outcome) := by
      simp [Word.finish, h]
    rw [hhook]
    rfl

end Registry

/-! ## What is put down -/

namespace Event

def trouble? : Event τ → Option Fault
  | .saveFailed f => some f
  | .notifyFailed f => some f
  | .finishFailed f => some f
  | _ => none

def finishing? : Event τ → Option String
  | .finishing name => some name
  | _ => none

end Event

/-- What is put down tells the failures that are warned of, in order. -/
def Tells (es : List (Event τ)) (fs : List Fault) : Prop := es.filterMap Event.trouble? = fs

theorem Tells.append {es es' : List (Event τ)} {fs fs' : List Fault} (h : Tells es fs)
    (h' : Tells es' fs') : Tells (es ++ es') (fs ++ fs') := by
  unfold Tells at h h' ⊢
  rw [List.filterMap_append, h, h']

theorem tells_nothing {es : List (Event τ)} (h : ∀ e ∈ es, e.trouble? = none) :
    Tells es [] := List.filterMap_eq_nil_iff.mpr h

namespace Word

variable {m : Word τ} {entries : List (String × Registered τ)} {o : Outlets}
  {es : List (Event τ)} {fs : List Fault}

/-- What holds of the events of a word holds of all that is put down of it. -/
theorem GoesRound.all {p : Event τ → Prop} (h : m.GoesRound entries o es fs)
    (ht : ∀ name, p (m.told name)) (ho : ∀ path, p (.opened path)) (hf : ∀ f, p (m.failed f)) :
    ∀ e ∈ es, p e := by
  induction h with
  | done => exact fun _ he => absurd he List.not_mem_nil
  | passed _ _ ih => exact ih
  | @heard e rest o es fs hook hm hfail hr ih =>
    intro a ha
    rcases List.mem_append.mp ha with h1 | h1
    · rcases List.mem_cons.mp h1 with rfl | h2
      · exact ht e.1
      · obtain ⟨path, _, rfl⟩ := List.mem_map.mp h2
        exact ho path
    · exact ih a h1
  | @failed e rest o es fs hook f hm hfail hr ih =>
    intro a ha
    rcases List.mem_append.mp ha with h1 | h1
    · rcases List.mem_cons.mp h1 with rfl | h2
      · exact ht e.1
      · obtain ⟨path, _, rfl⟩ := List.mem_map.mp h2
        exact ho path
    · rcases List.mem_cons.mp h1 with rfl | h2
      · exact hf _
      · exact ih a h2

/-- A reading of events sees a word once for each observer that it concerns, in
order, if it sees neither files nor failures. -/
theorem GoesRound.read {α : Type} (h : m.GoesRound entries o es fs)
    (view : Event τ → Option α) (tag : String → α)
    (ht : ∀ name, view (m.told name) = some (tag name))
    (ho : ∀ path, view (.opened path) = none) (hf : ∀ f, view (m.failed f) = none) :
    es.filterMap view = (entries.filter fun e => (m.hook e).isSome).map fun e => tag e.1 := by
  have hopened (paths : List String) : (paths.map Event.opened).filterMap view = [] := by
    refine List.filterMap_eq_nil_iff.mpr fun e he => ?_
    obtain ⟨path, _, rfl⟩ := List.mem_map.mp he
    exact ho path
  induction h with
  | done => rfl
  | passed hm _ ih => rw [ih, List.filter_cons_of_neg (by simp [hm])]
  | heard hm _ _ ih =>
    rw [List.filter_cons_of_pos (by simp [hm]), List.filterMap_append, List.filterMap_cons,
      hopened, ht, ih]
    rfl
  | failed hm _ _ ih =>
    rw [List.filter_cons_of_pos (by simp [hm]), List.filterMap_append, List.filterMap_cons,
      List.filterMap_cons, hopened, ht, hf, ih]
    rfl

/-- What is put down of a word tells the failures of the hooks. -/
theorem GoesRound.tells (h : m.GoesRound entries o es fs)
    (ht : ∀ name, (m.told name).trouble? = none) (hf : ∀ f, (m.failed f).trouble? = some f) :
    Tells es fs := by
  have hopened (paths : List String) : Tells (paths.map (Event.opened : String → Event τ)) [] := by
    refine tells_nothing fun e he => ?_
    obtain ⟨path, _, rfl⟩ := List.mem_map.mp he
    rfl
  have htold (name : String) (paths : List String) :
      Tells (m.told name :: paths.map .opened) [] := by
    unfold Tells
    rw [List.filterMap_cons, ht]
    exact hopened paths
  induction h with
  | done => rfl
  | passed _ _ ih => exact ih
  | heard _ _ _ ih => exact (htold _ _).append ih
  | failed _ _ _ ih =>
    refine (htold _ _).append ?_
    unfold Tells at ih ⊢
    rw [List.filterMap_cons, hf, ih]

end Word

end Minimize
