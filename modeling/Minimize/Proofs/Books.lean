-- The books of the saves. A run tries to save each iteration that is due once,
-- before any observer is told of it, and tries the last one at its end if that
-- was not due. Every attempt has its verdict, and between two saves that go well
-- the store keeps what the first of them left there.
import Mathlib.Data.List.Forall2
import Minimize.Proofs.Breaks
import Minimize.Proofs.Durability

namespace Minimize

variable {τ : Type}

/-! ## The iterations that are due -/

/-- The iterations from the first to the last at which a checkpoint is due, in
their order. -/
def Frequency.dueFrom (f : Frequency) (first last : Int) : List Int :=
  ((List.range (last + 1 - first).toNat).map fun n : Nat => first + n).filter f.due

namespace Frequency

variable {f : Frequency} {first last i : Int}

theorem dueFrom_before (h : last < first) : f.dueFrom first last = [] := by
  have hnone : (last + 1 - first).toNat = 0 := by omega
  unfold dueFrom
  rw [hnone]
  rfl

theorem dueFrom_next (h : first ≤ i) :
    f.dueFrom first i = f.dueFrom first (i - 1) ++ if f.due i then [i] else [] := by
  have hone : (i + 1 - first).toNat = (i - 1 + 1 - first).toNat + 1 := by omega
  have hlast : first + ((i - 1 + 1 - first).toNat : Int) = i := by omega
  unfold dueFrom
  rw [hone, List.range_succ, List.map_append, List.filter_append, List.map_singleton, hlast,
    List.filter_singleton, Bool.cond_eq_ite]

theorem mem_dueFrom : i ∈ f.dueFrom first last ↔ first ≤ i ∧ i ≤ last ∧ f.due i = true := by
  unfold dueFrom
  simp only [List.mem_filter, List.mem_map, List.mem_range]
  constructor
  · rintro ⟨⟨n, hn, rfl⟩, hd⟩
    exact ⟨by omega, by omega, hd⟩
  · rintro ⟨hfirst, hlast, hd⟩
    exact ⟨⟨(i - first).toNat, by omega, by omega⟩, hd⟩

end Frequency

/-! ## What the journal tells of saves -/

namespace Event

/-- The attempt to save that an event tells of. -/
def attempt? : Event τ → Option (String × Int)
  | .attempted key i => some (key, i)
  | _ => none

/-- The verdict on an attempt that an event tells of: the iteration that was
saved, or the failure. -/
def verdict? : Event τ → Option (Except Fault Int)
  | .saved _ i => some (.ok i)
  | .saveFailed f => some (.error f)
  | _ => none

theorem attempt?_of_not_completes {e : Event τ} (h : e.completes = false) : e.attempt? = none := by
  cases e <;> first | rfl | cases h

theorem verdict?_of_not_completes {e : Event τ} (h : e.completes = false) : e.verdict? = none := by
  cases e <;> first | rfl | cases h

end Event

def attemptsIn (es : List (Event τ)) : List (String × Int) := es.filterMap Event.attempt?

def verdictsIn (es : List (Event τ)) : List (Except Fault Int) := es.filterMap Event.verdict?

section

variable {es es' : List (Event τ)}

theorem attemptsIn_append : attemptsIn (es ++ es') = attemptsIn es ++ attemptsIn es' :=
  List.filterMap_append

theorem verdictsIn_append : verdictsIn (es ++ es') = verdictsIn es ++ verdictsIn es' :=
  List.filterMap_append

theorem attemptsIn_of_idle (h : ∀ e ∈ es, e.completes = false) : attemptsIn es = [] :=
  List.filterMap_eq_nil_iff.mpr fun e he => Event.attempt?_of_not_completes (h e he)

theorem verdictsIn_of_idle (h : ∀ e ∈ es, e.completes = false) : verdictsIn es = [] :=
  List.filterMap_eq_nil_iff.mpr fun e he => Event.verdict?_of_not_completes (h e he)

/-- The verdicts up to a save that went well, that one, and those after it. -/
theorem verdictsIn_split (before between after : List (Event τ)) (t : State τ) (key : String)
    (i : Int) :
    verdictsIn (before ++ .completed t :: (between ++ .saved key i :: after)) =
      verdictsIn before ++ verdictsIn between ++ .ok i :: verdictsIn after := by
  have hcompleted (es : List (Event τ)) : verdictsIn (.completed t :: es) = verdictsIn es := rfl
  have hsaved (es : List (Event τ)) : verdictsIn (.saved key i :: es) = .ok i :: verdictsIn es :=
    rfl
  rw [verdictsIn_append, hcompleted, verdictsIn_append, hsaved, List.append_assoc]

theorem mem_verdictsIn_error {f : Fault} (h : .error f ∈ verdictsIn es) : .saveFailed f ∈ es := by
  obtain ⟨e, he, hv⟩ := List.mem_filterMap.mp h
  cases e <;> cases hv
  exact he

end

/-- The words to the observers on an iteration: they tell of no save, and of no
other iteration. -/
def Event.speaksOf (i : Int) : Event τ → Prop
  | .notified _ j _ => j = i
  | .opened _ => True
  | .notifyFailed _ => True
  | _ => False

section

variable {i : Int} {words : List (Event τ)}

theorem attemptsIn_of_words (h : ∀ e ∈ words, e.speaksOf i) : attemptsIn words = [] := by
  refine List.filterMap_eq_nil_iff.mpr fun e he => ?_
  have hs := h e he
  cases e <;> first | rfl | cases hs

theorem verdictsIn_of_words (h : ∀ e ∈ words, e.speaksOf i) : verdictsIn words = [] := by
  refine List.filterMap_eq_nil_iff.mpr fun e he => ?_
  have hs := h e he
  cases e <;> first | rfl | cases hs

end

/-! ## Stores that keep what they have -/

/-- A store that tells the truth: what it says it has saved it has, and where a
save fails it is as it was. -/
structure Store.Faithful (s : Store τ) (key : String) (x : Solver τ) (good : Cabinet τ → Prop) :
    Prop where
  saved : ∀ (c c' : Cabinet τ) (t : State τ), good c →
    s.save (.text key) ⟨x, t⟩ c = (c', .ok ()) →
      good c' ∧ s.holds (.text key) c' = .ok true ∧ s.load (.text key) c' = .ok ⟨x, t⟩
  failed : ∀ (c c' : Cabinet τ) (t : State τ) (f : Fault), good c →
    s.save (.text key) ⟨x, t⟩ c = (c', .error f) → c' = c

theorem Store.Works.faithful {s : Store τ} {key : String} {x : Solver τ}
    {good : Cabinet τ → Prop} (h : s.Works key x good) : s.Faithful key x good where
  saved c c' t hc hs := by
    obtain ⟨c'', hsave, hgood, hholds, hload⟩ := h.saves c t hc
    cases hs.symm.trans hsave
    exact ⟨hgood, hholds, hload⟩
  failed c c' t f hc hs := by
    obtain ⟨c'', hsave, _⟩ := h.saves c t hc
    cases hs.symm.trans hsave

theorem Store.Faithful.failing {s : Store τ} {key : String} {x : Solver τ}
    {good : Cabinet τ → Prop} (h : s.Faithful key x good) (at? : Option (List Int)) (f : Fault) :
    (s.failing at? f).Faithful key x good where
  saved c c' t hc hs := by
    unfold Store.failing at hs
    dsimp only at hs
    split at hs
    · cases hs
    · exact h.saved c c' t hc hs
  failed c c' t f' hc hs := by
    unfold Store.failing at hs
    dsimp only at hs
    split at hs
    · cases hs
      rfl
    · exact h.failed c c' t f' hc hs

namespace Policy

/-- What a verdict can be on an attempt: the iteration was saved, or the store
has failed and its failure is told as one of the checkpoint. -/
def Verdict (p : Policy τ) (good : Cabinet τ → Prop) (x : Solver τ) (a : String × Int)
    (v : Except Fault Int) : Prop :=
  v = .ok a.2 ∨ ∃ c t c' f, good c ∧ p.store.save (.text p.key) ⟨x, t⟩ c = (c', .error f) ∧
    v = .error (p.saveFault a.2 f)

/-- No observer was told of an iteration that is due before it was tried to
save it. -/
def TriedFirst (p : Policy τ) (es : List (Event τ)) : Prop :=
  ∀ before name i record after, es = before ++ .notified name i record :: after →
    p.frequency.due i = true → .attempted p.key i ∈ before

/-- What the store has after the events of a run, if it had `c₀` before: that
same, if nothing was saved; or else the completed state that was saved last. -/
inductive Kept (p : Policy τ) (x : Solver τ) (c₀ : Cabinet τ) (es : List (Event τ))
    (c : Cabinet τ) : Prop
  | untouched (hes : ∀ i, .ok i ∉ verdictsIn es) (hc : c = c₀)
  | last {before between after : List (Event τ)} {t : State τ}
      (hes : es = before ++ .completed t :: (between ++ .saved p.key t.book.iteration :: after))
      (hbetween : ∀ u, .completed u ∉ between) (hafter : ∀ i, .ok i ∉ verdictsIn after)
      (hc : p.Holds x t c)

variable {p : Policy τ} {x : Solver τ} {c₀ c : Cabinet τ} {es es' : List (Event τ)}

theorem Kept.append (h : p.Kept x c₀ es c) (hes : ∀ i, .ok i ∉ verdictsIn es') :
    p.Kept x c₀ (es ++ es') c := by
  cases h with
  | untouched hno hc =>
    refine .untouched (fun i hi => ?_) hc
    rw [verdictsIn_append, List.mem_append] at hi
    exact hi.elim (hno i) (hes i)
  | @last before between after t heq hbetween hafter hc =>
    have hlast : es ++ es' = before ++ .completed t ::
        (between ++ .saved p.key t.book.iteration :: (after ++ es')) := by
      rw [heq]
      simp
    refine .last hlast hbetween (fun i hi => ?_) hc
    rw [verdictsIn_append, List.mem_append] at hi
    exact hi.elim (hafter i) (hes i)

theorem TriedFirst.append (h : p.TriedFirst es)
    (h' : ∀ before name i record after, es' = before ++ .notified name i record :: after →
      p.frequency.due i = true → .attempted p.key i ∈ es ++ before) : p.TriedFirst (es ++ es') := by
  intro before name i record after heq hd
  rcases List.append_eq_append_iff.mp heq with ⟨mid, rfl, hmid⟩ | ⟨mid, rfl, hmid⟩
  · exact h' mid name i record after hmid hd
  · cases mid with
    | nil =>
      have hin := h' [] name i record after hmid.symm hd
      rw [List.append_nil, List.append_nil] at hin
      exact hin
    | cons e mid =>
      cases hmid
      exact h before name i record mid rfl hd

/-- What tells of no iteration breaks no order. -/
theorem TriedFirst.idle (h : p.TriedFirst es) (hes : ∀ e ∈ es', e.completes = false) :
    p.TriedFirst (es ++ es') := by
  refine h.append fun before name i record after heq _ => ?_
  have hin : Event.notified name i record ∈ es' := by
    rw [heq]
    simp
  cases hes _ hin

end Policy

namespace Engine

variable [Clock τ] {p : Policy τ} {good : Cabinet τ → Prop} {x : Solver τ} {c₀ : Cabinet τ}
  {g g' g₀ : Engine τ} {l l' : Option Int} {kind : CallKind} {started : τ} {final : Bool} {s i : Int}
  {es es' : List (Event τ)} {fs : List Fault}

/-! ## One save -/

/-- What a save comes to: it is not called for; or it is tried, and then the
state is stored; or it is tried and the store is as it was. -/
inductive Tried (p : Policy τ) (good : Cabinet τ → Prop) (x : Solver τ) (l : Option Int)
    (final : Bool) (g g' : Engine τ) : List (Event τ) → Option Int → Prop
  | skipped
      (hd : ({ p with lastAttempted := l } : Policy τ).isDue g.executor.state.book.iteration
        final = false)
      (hg : g'.Guarded p good x l)
      (hc : g'.world.cabinet p.cabinet = g.world.cabinet p.cabinet) :
      Tried p good x l final g g' [] l
  | made
      (hd : ({ p with lastAttempted := l } : Policy τ).isDue g.executor.state.book.iteration
        final = true)
      (hg : g'.Guarded p good x (some g.executor.state.book.iteration))
      (hc : p.Holds x g.executor.state (g'.world.cabinet p.cabinet)) :
      Tried p good x l final g g' [.attempted p.key g.executor.state.book.iteration,
        .saved p.key g.executor.state.book.iteration] (some g.executor.state.book.iteration)
  | missed {f : Fault}
      (hd : ({ p with lastAttempted := l } : Policy τ).isDue g.executor.state.book.iteration
        final = true)
      (hg : g'.Guarded p good x (some g.executor.state.book.iteration))
      (hc : g'.world.cabinet p.cabinet = g.world.cabinet p.cabinet)
      (hf : p.Verdict good x (p.key, g.executor.state.book.iteration) (.error f)) :
      Tried p good x l final g g' [.attempted p.key g.executor.state.book.iteration,
        .saveFailed f] (some g.executor.state.book.iteration)

omit [Clock τ] in
/-- A save that does not end the run was not called for, and then all is as it
was; or the cabinet is as the store has left it, and the journal tells how it
went. -/
theorem SaveNoted.leaves (hp : g.executor.policy = some p) (hs : g.save final = .ok g')
    (hn : g.SaveNoted final es fs) :
    (p.isDue g.executor.state.book.iteration final = false ∧ es = [] ∧
      g'.executor = g.executor ∧ g'.world.cabinet p.cabinet = g.world.cabinet p.cabinet) ∨
    ∃ r, p.isDue g.executor.state.book.iteration final = true ∧
      p.store.save (.text p.key) ⟨g.executor.solver, g.executor.state⟩
        (g.world.cabinet p.cabinet) = (g'.world.cabinet p.cabinet, r) ∧
      g'.executor.policy = some { p with lastAttempted := some g.executor.state.book.iteration } ∧
      es = [.attempted p.key g.executor.state.book.iteration, match r with
        | .ok () => .saved p.key g.executor.state.book.iteration
        | .error f => .saveFailed (p.saveFault g.executor.state.book.iteration f)] := by
  cases hn with
  | nowhere hq => cases hp.symm.trans hq
  | notDue hq hd =>
    cases hp.symm.trans hq
    obtain ⟨v, hv, hexecutor, hcabinet⟩ := save_not_due hq hd
    cases hs.symm.trans hv
    exact .inl ⟨hd, rfl, hexecutor, hcabinet⟩
  | made hq hd hsave =>
    cases hp.symm.trans hq
    obtain ⟨v, hv, hpolicy, hcabinet⟩ := save_due hq hd hsave (.inl rfl)
    cases hs.symm.trans hv
    refine .inr ⟨.ok (), hd, ?_, hpolicy, rfl⟩
    rw [hcabinet]
    exact hsave
  | missed hq hd hsave =>
    cases hp.symm.trans hq
    have hgentle : p.fatal = false := by
      cases hf : p.fatal with
      | false => rfl
      | true =>
        obtain ⟨u, hu, _⟩ := (SaveBreaks.broken hq hf hd hsave).save
        cases hs.symm.trans hu
    obtain ⟨v, hv, hpolicy, hcabinet⟩ := save_due hq hd hsave (.inr hgentle)
    cases hs.symm.trans hv
    refine .inr ⟨.error _, hd, ?_, hpolicy, rfl⟩
    rw [hcabinet]
    exact hsave

omit [Clock τ] in
theorem SaveNoted.tried (hw : p.store.Faithful p.key x good) (hg : g.Guarded p good x l)
    (hs : g.save final = .ok g') (hn : g.SaveNoted final es fs) :
    ∃ l', Tried p good x l final g g' es l' := by
  have hkeeps := save_keeps g final
  rw [hs] at hkeeps
  have hsolver : g'.executor.solver = x := hkeeps.solver.trans hg.solver
  rcases hn.leaves hg.policy hs with ⟨hd, rfl, hexecutor, hc⟩ | ⟨r, hd, hsave, hpolicy, rfl⟩
  · have hsame : g'.world.cabinet p.cabinet = g.world.cabinet p.cabinet := hc
    exact ⟨_, .skipped hd ⟨hsolver, hexecutor ▸ hg.policy, hsame ▸ hg.good⟩ hsame⟩
  · rw [hg.solver] at hsave
    cases r with
    | ok _ =>
      obtain ⟨hgood, hholds, hload⟩ := hw.saved _ _ _ hg.good hsave
      exact ⟨_, .made hd ⟨hsolver, hpolicy, hgood⟩ ⟨hholds, hload⟩⟩
    | error f =>
      have hsame : g'.world.cabinet p.cabinet = g.world.cabinet p.cabinet :=
        hw.failed _ _ _ _ hg.good hsave
      exact ⟨_, .missed hd ⟨hsolver, hpolicy, hsame ▸ hg.good⟩ hsame
        (.inr ⟨_, _, _, f, hg.good, hsave, rfl⟩)⟩

/-! ## The books of a run -/

/-- The books of a run from the iteration `s`, where `i` is the next iteration
and `es` is what was put down since the run began: tried were the iterations
that are due, each has its verdict, no observer heard of one before it was
tried, and the store has what was saved last. -/
structure Books (p : Policy τ) (good : Cabinet τ → Prop) (x : Solver τ) (s : Int) (c₀ : Cabinet τ)
    (l : Option Int) (i : Int) (es : List (Event τ)) (g : Engine τ) : Prop where
  guarded : g.Guarded p good x l
  begun : s ≤ i
  tried : ∀ j, l = some j → j < i
  attempts : attemptsIn es = (p.frequency.dueFrom s (i - 1)).map (p.key, ·)
  verdicts : List.Forall₂ (p.Verdict good x) (attemptsIn es) (verdictsIn es)
  first : p.TriedFirst es
  kept : p.Kept x c₀ es (g.world.cabinet p.cabinet)

/-- What became of the iteration that was completed last: it was not due; or it
was tried, and is stored; or it was tried, and has failed. -/
inductive Latest (p : Policy τ) (x : Solver τ) (l : Option Int) (es : List (Event τ))
    (g : Engine τ) : Prop
  | idle (hd : p.frequency.due g.executor.state.book.iteration = false)
      (hl : l ≠ some g.executor.state.book.iteration)
  | saved (hd : p.frequency.due g.executor.state.book.iteration = true)
      (hl : l = some g.executor.state.book.iteration)
      (hv : (verdictsIn es).getLast? = some (.ok g.executor.state.book.iteration))
      (hc : p.Holds x g.executor.state (g.world.cabinet p.cabinet))
  | missed {f : Fault} (hd : p.frequency.due g.executor.state.book.iteration = true)
      (hl : l = some g.executor.state.book.iteration)
      (hv : (verdictsIn es).getLast? = some (.error f))

omit [Clock τ] in
/-- The books are kept of where a run stands, and not of what else it does. -/
theorem Books.of_guarded (hb : g.Books p good x s c₀ l i es) (hg : g'.Guarded p good x l)
    (hc : g'.world.cabinet p.cabinet = g.world.cabinet p.cabinet) :
    g'.Books p good x s c₀ l i es :=
  ⟨hg, hb.begun, hb.tried, hb.attempts, hb.verdicts, hb.first, hc ▸ hb.kept⟩

omit [Clock τ] in
theorem Books.quiet (hb : g.Books p good x s c₀ l i es) (ha : attemptsIn es' = [])
    (hv : verdictsIn es' = []) (hf : p.TriedFirst (es ++ es')) :
    g.Books p good x s c₀ l i (es ++ es') := by
  refine ⟨hb.guarded, hb.begun, hb.tried, ?_, ?_, hf, hb.kept.append ?_⟩
  · rw [attemptsIn_append, ha, List.append_nil]
    exact hb.attempts
  · rw [attemptsIn_append, verdictsIn_append, ha, hv, List.append_nil, List.append_nil]
    exact hb.verdicts
  · rw [hv]
    exact fun _ => List.not_mem_nil

omit [Clock τ] in
theorem Books.idle (hb : g.Books p good x s c₀ l i es) (hes : ∀ e ∈ es', e.completes = false) :
    g.Books p good x s c₀ l i (es ++ es') :=
  hb.quiet (attemptsIn_of_idle hes) (verdictsIn_of_idle hes) (hb.first.idle hes)

omit [Clock τ] in
theorem Books.completed (hb : g.Books p good x s c₀ l i es) (t : State τ) :
    g.Books p good x s c₀ l i (es ++ [.completed t]) := by
  refine hb.quiet rfl rfl (hb.first.append fun before name j record after heq _ => ?_)
  have hin : Event.notified name j record ∈ [Event.completed t] := by
    rw [heq]
    simp
  simp at hin

omit [Clock τ] in
theorem Books.mem (hb : g.Books p good x s c₀ l (i + 1) es) (hi : s ≤ i)
    (hd : p.frequency.due i = true) : .attempted p.key i ∈ es := by
  have hin : (p.key, i) ∈ attemptsIn es := by
    rw [hb.attempts, List.mem_map]
    exact ⟨i, Frequency.mem_dueFrom.mpr ⟨hi, by omega, hd⟩, rfl⟩
  obtain ⟨e, he, ha⟩ := List.mem_filterMap.mp hin
  cases e <;> cases ha
  exact he

omit [Clock τ] in
/-- The words on an iteration come after it was tried. -/
theorem Books.words (hb : g.Books p good x s c₀ l (i + 1) es) (hi : s ≤ i)
    (hes : ∀ e ∈ es', e.speaksOf i) : g.Books p good x s c₀ l (i + 1) (es ++ es') := by
  refine hb.quiet (attemptsIn_of_words hes) (verdictsIn_of_words hes)
    (hb.first.append fun before name j record after heq hd => ?_)
  have hin : Event.notified name j record ∈ es' := by
    rw [heq]
    simp
  obtain rfl : j = i := hes _ hin
  exact List.mem_append_left _ (hb.mem hi hd)

omit [Clock τ] in
/-- A save that was tried is entered in the books, with its verdict. -/
theorem Books.entered (hb : g.Books p good x s c₀ l i es) (hd : p.frequency.due i = true)
    {v : Except Fault Int} (hv : p.Verdict good x (p.key, i) v) (es' : List (Event τ))
    (ha : attemptsIn es' = [(p.key, i)]) (hes : verdictsIn es' = [v]) :
    attemptsIn (es ++ es') = (p.frequency.dueFrom s (i + 1 - 1)).map (p.key, ·) ∧
      List.Forall₂ (p.Verdict good x) (attemptsIn (es ++ es')) (verdictsIn (es ++ es')) ∧
      (verdictsIn (es ++ es')).getLast? = some v := by
  have hlast : i + 1 - 1 = i := by omega
  rw [attemptsIn_append, verdictsIn_append, ha, hes, hlast, Frequency.dueFrom_next hb.begun,
    if_pos hd, List.map_append, ← hb.attempts]
  exact ⟨rfl, List.rel_append hb.verdicts (.cons hv .nil), List.getLast?_concat⟩

omit [Clock τ] in
/-- An attempt and its verdict put no word to an observer before them. -/
theorem Books.first_saves (hb : g.Books p good x s c₀ l i es)
    (hes : ∀ name j record, .notified name j record ∉ es') : p.TriedFirst (es ++ es') := by
  refine hb.first.append fun before name j record after heq _ => ?_
  refine absurd ?_ (hes name j record)
  rw [heq]
  simp

omit [Clock τ] in
/-- The save of a completed iteration closes its entry. -/
theorem Books.save {es₀ : List (Event τ)} (hb : g.Books p good x s c₀ l i es)
    (hes₀ : es = es₀ ++ [.completed g.executor.state])
    (hi : g.executor.state.book.iteration = i)
    (hstate : g'.executor.state = g.executor.state) {saves : List (Event τ)}
    (ht : Tried p good x l false g g' saves l') :
    g'.Books p good x s c₀ l' (i + 1) (es ++ saves) ∧ g'.Latest p x l' (es ++ saves) := by
  have hbegun : s ≤ i + 1 := by
    have h := hb.begun
    omega
  have hdue (j : Int) : ({ p with lastAttempted := l } : Policy τ).isDue j false =
      p.frequency.due j := rfl
  have hlater : ∀ j, some i = some j → j < i + 1 := by
    intro j hj
    cases hj
    exact Int.lt_succ i
  cases ht with
  | skipped hd hg hc =>
    rw [hdue, hi] at hd
    have hlast : i + 1 - 1 = i := by omega
    rw [List.append_nil]
    refine ⟨⟨hg, hbegun, fun j hj => Int.lt_trans (hb.tried j hj) (Int.lt_succ i), ?_, hb.verdicts,
      hb.first, hc ▸ hb.kept⟩, .idle ?_ fun hl => ?_⟩
    · rw [hlast, Frequency.dueFrom_next hb.begun, hd, hb.attempts]
      simp
    · rw [hstate, hi]
      exact hd
    · rw [hstate, hi] at hl
      exact absurd (hb.tried i hl) (Int.lt_irrefl i)
  | made hd hg hc =>
    rw [hdue, hi] at hd
    rw [hi] at hg ⊢
    obtain ⟨hattempts, hverdicts, hlatest⟩ := hb.entered hd (.inl rfl)
      [.attempted p.key i, .saved p.key i] rfl rfl
    refine ⟨⟨hg, hbegun, hlater, hattempts, hverdicts, hb.first_saves (by simp), ?_⟩,
      .saved ?_ ?_ ?_ ?_⟩
    · have hsplit : es ++ [.attempted p.key i, .saved p.key i] =
          es₀ ++ .completed g.executor.state :: ([.attempted p.key i] ++
            .saved p.key g.executor.state.book.iteration :: []) := by
        rw [hes₀, hi]
        simp
      exact .last hsplit (by simp) (by simp [verdictsIn]) hc
    all_goals rw [hstate]
    · rw [hi]
      exact hd
    · rw [hi]
    · rw [hi]
      exact hlatest
    · exact hc
  | @missed f hd hg hc hf =>
    rw [hdue, hi] at hd
    rw [hi] at hg hf ⊢
    obtain ⟨hattempts, hverdicts, hlatest⟩ := hb.entered hd hf
      [.attempted p.key i, .saveFailed f] rfl rfl
    refine ⟨⟨hg, hbegun, hlater, hattempts, hverdicts, hb.first_saves (by simp), ?_⟩,
      .missed ?_ ?_ hlatest⟩
    · rw [hc]
      exact hb.kept.append (by simp [verdictsIn, Event.verdict?])
    · rw [hstate, hi]
      exact hd
    · rw [hstate, hi]

omit [Clock τ] in
theorem Latest.words (hl : g.Latest p x l es) (hs : g.Stays g')
    (hstate : g'.executor.state = g.executor.state) (hes : verdictsIn es' = []) :
    g'.Latest p x l (es ++ es') := by
  have hverdicts : verdictsIn (es ++ es') = verdictsIn es := by
    rw [verdictsIn_append, hes, List.append_nil]
  cases hl with
  | idle hd hl => exact .idle (hstate ▸ hd) (hstate ▸ hl)
  | saved hd hl hv hc =>
    refine .saved (hstate ▸ hd) (hstate ▸ hl) ?_ ?_
    · rw [hverdicts, hstate]
      exact hv
    · rw [hstate, World.cabinet_of_cabinets hs.cabinets]
      exact hc
  | missed hd hl hv => exact .missed (hstate ▸ hd) (hstate ▸ hl) (hverdicts ▸ hv)

/-- A completed iteration is entered in the books. -/
theorem Books.round (hj : x.OnlyJudges) (hw : p.store.Faithful p.key x good)
    (hb : g.Books p good x s c₀ l i es)
    (hi : kind.target g.executor.state.book.iteration = i)
    (hr : g.Round kind started g' es' fs) :
    ∃ l', g'.Books p good x s c₀ l' (i + 1) (es ++ es') ∧ g'.Latest p x l' (es ++ es') ∧
      g'.executor.state.book.iteration = i := by
  cases hr with
  | @round u v evals saves words missed deaf he ha hs hn hwords =>
    have hstays := advance_stays kind started g
    rw [ha] at hstays
    have hcabinet : u.world.cabinet p.cabinet = g.world.cabinet p.cabinet :=
      World.cabinet_of_cabinets hstays.cabinets p.cabinet
    have hu : u.Guarded p good x l :=
      ⟨hstays.solver.trans hb.guarded.solver, hstays.policy.trans hb.guarded.policy,
        hcabinet ▸ hb.guarded.good⟩
    have hui : u.executor.state.book.iteration = i :=
      (advance_iteration (hb.guarded.solver ▸ hj.leavesIteration) ha).trans hi
    have hstands := save_stands u false
    rw [hs] at hstands
    have hstate : v.executor.state = u.executor.state := hstands.state
    have hcall : ∀ e ∈ Event.called kind g.executor.state.book.iteration :: evals,
        e.completes = false := by
      intro e hm
      rcases List.mem_cons.mp hm with rfl | h1
      · rfl
      · obtain ⟨c, rfl⟩ := he e h1
        rfl
    have hspeak : ∀ e ∈ words, e.speaksOf i := by
      rw [hstate, hui] at hwords
      exact hwords.all (fun _ => rfl) (fun _ => trivial) fun _ => trivial
    have hadvanced := ((hb.of_guarded hu hcabinet).idle hcall).completed u.executor.state
    obtain ⟨l', ht⟩ := hn.tried hw hu hs
    obtain ⟨hbooks, hlatest⟩ := hadvanced.save rfl hui hstate ht
    have hdispatch := dispatch_stays v
    have htold := (hbooks.of_guarded (hbooks.guarded.stays hdispatch)
      (World.cabinet_of_cabinets hdispatch.cabinets p.cabinet)).words hb.begun hspeak
    have hlast := hlatest.words hdispatch rfl (verdictsIn_of_words hspeak)
    simp only [List.append_assoc] at htold hlast ⊢
    refine ⟨l', htold, hlast, ?_⟩
    rw [← hui, ← hstate]
    rfl

/-- Where a run of a solver starts to count its iterations: one that opens at
the iteration of its state, and one that goes on from a snapshot after the
iteration of that. -/
inductive StartsAt (x : Solver τ) (g₀ : Engine τ) : Int → Prop
  | opening (hn : g₀.stored = .ok none) (hx : g₀.executor.solver = x) :
      StartsAt x g₀ g₀.executor.state.book.iteration
  | resumed {t : State τ} (hn : g₀.stored = .ok (some ⟨x, t⟩)) (ht : t.Resumable) :
      StartsAt x g₀ (t.book.iteration + 1)

omit [Clock τ] in
theorem Books.start (hg : g.Guarded p good x l) (hc : g.world.cabinet p.cabinet = c₀)
    (hl : ∀ j, l = some j → j < s) (hes : ∀ e ∈ es, e.completes = false) :
    g.Books p good x s c₀ l s es := by
  refine ⟨hg, Int.le_refl s, hl, ?_, ?_, ?_, .untouched ?_ hc⟩
  · rw [attemptsIn_of_idle hes, Frequency.dueFrom_before (by omega)]
    rfl
  · rw [attemptsIn_of_idle hes, verdictsIn_of_idle hes]
    exact .nil
  · have hnone : p.TriedFirst ([] : List (Event τ)) := by
      intro before name i record after heq
      simp at heq
    exact hnone.idle hes
  · rw [verdictsIn_of_idle hes]
    exact fun _ => List.not_mem_nil

omit [Clock τ] in
theorem resumption_idle (g : Engine τ) (t : Snapshot τ) :
    ∀ e ∈ g.resumption t, e.completes = false :=
  resumption_all (fun _ _ => rfl) (fun _ => rfl) (fun _ => rfl) g t

/-- The books of a run that has come to an engine. Only where it went on from a
snapshot and has made no iteration, it is not at one of its own yet; then it is
not terminated. -/
theorem Course.books {past : List (State τ)} (hj : x.OnlyJudges) (hc : g₀.Course past g)
    (hs : g₀.Saves p good)
    (hw : p.store.Faithful p.key x good) (hx : g₀.StartsAt x s) :
    ∃ l es, g.world.history = g₀.world.history ++ es ∧
      g.Books p good x s (g₀.world.cabinet p.cabinet) l (g.executor.state.book.iteration + 1) es ∧
      ((s ≤ g.executor.state.book.iteration ∧ g.Latest p x l es) ∨
        (s = g.executor.state.book.iteration + 1 ∧ g.executor.state.terminated = false)) := by
  induction hc with
  | @step past v w hc hr hi ih =>
    obtain ⟨l, es, hh, hb, _⟩ := ih
    obtain ⟨es', fs, hround, hputs⟩ := iterate_puts hi
    obtain ⟨l', hb', hlatest, hiteration⟩ := hb.round hj hw rfl hround
    refine ⟨l', es ++ es', ?_, ?_, .inl ⟨?_, hlatest⟩⟩
    · rw [hputs.history, hh, List.append_assoc]
    · rw [hiteration]
      exact hb'
    · rw [hiteration]
      exact hb.begun
  | @start g hstart =>
    cases hx with
    | opening hn hx =>
      have hg : g₀.begun.settled.Guarded p good x none := by
        refine ⟨hx, ?_, hs.good⟩
        rw [← hs.untried]
        exact hs.policy
      have hb : g₀.begun.settled.Books p good x g₀.executor.state.book.iteration
          (g₀.world.cabinet p.cabinet) none g₀.executor.state.book.iteration
          [.started g₀.executor.runName] :=
        .start hg rfl (fun _ h => nomatch h) (by simp [Event.completes])
      rw [start_fresh hn] at hstart
      obtain ⟨es', fs, hround, hputs⟩ := iterate_puts hstart
      obtain ⟨l', hb', hlatest, hiteration⟩ := hb.round hj hw rfl hround
      refine ⟨l', _, ?_, ?_, .inl ⟨?_, hlatest⟩⟩
      · rw [(((begun_puts g₀).trans (settled_puts _)).trans hputs).history]
        rfl
      · rw [hiteration]
        exact hb'
      · exact Int.le_of_eq hiteration.symm
    | @resumed t hn ht =>
      obtain ⟨v, hv, hresumes⟩ := start_resumes hn
      obtain rfl := Except.ok.inj (hv.begins.symm.trans hstart)
      obtain ⟨base, hstate⟩ := hresumes.state ht
      have hg := (hresumes.covered hs ht).toGuarded
      have hcabinet := World.cabinet_of_cabinets hresumes.world.cabinets p.cabinet
      have hiteration : v.executor.state.book.iteration = t.book.iteration := by
        rw [hstate]
        rfl
      rw [start_resumed hn] at hstart
      have hv' := Except.ok.inj hstart
      have hhistory := ((begun_puts g₀).trans (resumed_puts g₀.begun ⟨x, t⟩)).history
      rw [hv'] at hhistory
      rw [hiteration]
      refine ⟨_, _, hhistory, .start hg hcabinet ?_ ?_, .inr ⟨rfl, ?_⟩⟩
      · intro j hl
        cases hl
        exact Int.lt_succ _
      · intro e he
        rcases List.mem_append.mp he with h1 | h1
        · rw [List.mem_singleton.mp h1]
          rfl
        · exact resumption_idle _ _ e h1
      · rw [hstate]
        rfl

end Engine

end Minimize
