-- Merging two runs. Where a comparison goes by the keys of the items, and the
-- keys stand in a line, merging two ascending runs gives an ascending run in
-- which items of one key stay in their order. Looking for blocks, and from which
-- end the runs are merged, makes no difference to that.
import Mathlib.Order.Lattice
import Minimize.Arrange.Merge

namespace Minimize.Arrange

variable {α ε κ : Type} [LinearOrder κ] {key : α → κ}

/-! ## Arranged items -/

def Ascending (key : α → κ) (items : List α) : Prop := items.Pairwise fun a b => key a ≤ key b

namespace Ascending

variable {items as bs : List α} {a : α}

theorem left (h : Ascending key (as ++ bs)) : Ascending key as :=
  h.sublist (List.sublist_append_left as bs)

theorem right (h : Ascending key (as ++ bs)) : Ascending key bs :=
  h.sublist (List.sublist_append_right as bs)

theorem le_last (h : Ascending key items) (ha : items.getLast? = some a) :
    ∀ b ∈ items, key b ≤ key a := by
  obtain ⟨front, rfl⟩ := List.getLast?_eq_some_iff.mp ha
  intro b hb
  rcases List.mem_append.mp hb with hfront | hlast
  · exact (List.pairwise_append.mp h).2.2 b hfront a (List.mem_singleton_self a)
  · rw [List.mem_singleton.mp hlast]

end Ascending

/-- Of every key the same items in the same order. -/
def SameOrder (key : α → κ) (items others : List α) : Prop :=
  ∀ k, items.filter (key · = k) = others.filter (key · = k)

namespace SameOrder

variable {as bs cs ds : List α}

theorem refl (as : List α) : SameOrder key as as := fun _ => rfl

theorem symm (h : SameOrder key as bs) : SameOrder key bs as := fun k => (h k).symm

theorem trans (h : SameOrder key as bs) (h' : SameOrder key bs cs) : SameOrder key as cs :=
  fun k => (h k).trans (h' k)

theorem append (h : SameOrder key as bs) (h' : SameOrder key cs ds) :
    SameOrder key (as ++ cs) (bs ++ ds) := by
  intro k
  rw [List.filter_append, List.filter_append, h k, h' k]

theorem reverse (h : SameOrder key as bs) : SameOrder key as.reverse bs.reverse := by
  intro k
  rw [List.filter_reverse, List.filter_reverse, h k]

theorem mem_iff (h : SameOrder key as bs) {a : α} : a ∈ as ↔ a ∈ bs := by
  have hfilter : ∀ l : List α, a ∈ l ↔ a ∈ l.filter (key · = key a) := by simp
  rw [hfilter as, hfilter bs, h]

theorem swap (h : ∀ a ∈ as, ∀ b ∈ bs, key a ≠ key b) : SameOrder key (as ++ bs) (bs ++ as) := by
  intro k
  rw [List.filter_append, List.filter_append]
  by_cases hk : ∃ a ∈ as, key a = k
  · obtain ⟨a, ha, rfl⟩ := hk
    have hnone : bs.filter (key · = key a) = [] := by
      rw [List.filter_eq_nil_iff]
      intro b hb
      simpa using fun hab => h a ha b hb hab.symm
    rw [hnone, List.append_nil, List.nil_append]
  · have hnone : as.filter (key · = k) = [] := by
      rw [List.filter_eq_nil_iff]
      intro a ha
      simpa using fun hka => hk ⟨a, ha, hka⟩
    rw [hnone, List.append_nil, List.nil_append]

end SameOrder

/-- A list put in order: by ascending keys, and items of one key as they were. -/
structure Arranged (key : α → κ) (items result : List α) : Prop where
  ascending : Ascending key result
  sameOrder : SameOrder key result items

/-- A comparison that puts the items of a kind by their keys. -/
def Ranks (less : α → α → Except ε Bool) (key : α → κ) (kind : α → Prop) : Prop :=
  ∀ a b, kind a → kind b → less a b = .ok (decide (key a < key b))

/-! ## Where a key belongs -/

/-- Bisection finds the place up to which something holds. -/
theorem bisect_eq {before : Nat → Except ε Bool} {t : Nat}
    (h : ∀ i, before i = .ok (decide (i < t))) (low high : Nat) (hlow : low ≤ t)
    (hhigh : t ≤ high) : bisect before low high = .ok t := by
  rw [bisect]
  split
  · simp only [h, bind, Except.bind, decide_eq_true_eq]
    by_cases hm : (low + high) / 2 < t
    · rw [if_pos hm]
      exact bisect_eq h _ _ (by omega) hhigh
    · rw [if_neg hm]
      exact bisect_eq h _ _ hlow (by omega)
  · have : low = t := by omega
    rw [this]
  termination_by high - low

/-- Strides end round the place up to which something goes. -/
theorem stride_eq {goes : Nat → Except ε Bool} {limit u : Nat}
    (h : ∀ i < limit, goes i = .ok (decide (i < u))) (hu : u ≤ limit) (last next : Nat)
    (hlast : last < u) :
    ∃ a b, stride goes limit last next = .ok (a, b) ∧ a < u ∧ u ≤ b := by
  rw [stride]
  split
  · rename_i hnext
    simp only [h next hnext, bind, Except.bind, decide_eq_true_eq]
    by_cases hgoes : next < u
    · rw [if_pos hgoes]
      exact stride_eq h hu next (2 * next + 1) hgoes
    · rw [if_neg hgoes]
      exact ⟨last, next, rfl, hlast, by omega⟩
  · exact ⟨last, limit, rfl, hlast, hu⟩
  termination_by limit - next

/-- What is said of the item at a place; behind the end it is no. -/
def saidAt (before : α → Except ε Bool) (items : List α) (i : Nat) : Except ε Bool :=
  match items[i]? with
  | some a => before a
  | none => .ok false

theorem boundary_said (before : α → Except ε Bool) (items : List α) (start : Nat) :
    boundary before items start = (do
      if ← saidAt before items start then
        let (last, next) ←
          stride (fun k => saidAt before items (start + k)) (items.length - start) 0 1
        bisect (saidAt before items) (start + last + 1) (start + next)
      else
        let (last, next) ←
          stride (fun k => return !(← saidAt before items (start - k))) (start + 1) 0 1
        bisect (saidAt before items) (start + 1 - next) (start - last)) := rfl

/-- Where a list is divided in two, the boundary is found from any place. -/
theorem boundary_eq {before : α → Except ε Bool} {front back : List α}
    (hfront : ∀ a ∈ front, before a = .ok true) (hback : ∀ a ∈ back, before a = .ok false)
    (start : Nat) : boundary before (front ++ back) start = .ok front.length := by
  have hsaid : ∀ i, saidAt before (front ++ back) i = .ok (decide (i < front.length)) := by
    intro i
    unfold saidAt
    by_cases hi : i < front.length
    · rw [List.getElem?_append_left hi, List.getElem?_eq_getElem hi]
      simp [hi, hfront _ (List.getElem_mem hi)]
    · rw [List.getElem?_append_right (by omega)]
      cases hb : back[i - front.length]? with
      | none => simp [hi]
      | some b => simp [hi, hback b (List.mem_of_getElem? hb)]
  rw [boundary_said]
  simp only [hsaid, bind, Except.bind, decide_eq_true_eq]
  by_cases hstart : start < front.length
  · rw [if_pos hstart]
    have hgoes : ∀ i < (front ++ back).length - start,
        (.ok (decide (start + i < front.length)) : Except ε Bool) =
          .ok (decide (i < front.length - start)) := by
      intro i _
      simp only [Except.ok.injEq, decide_eq_decide]
      omega
    obtain ⟨a, b, hab, ha, hb⟩ := stride_eq hgoes (by simp; omega) 0 1 (by omega)
    rw [hab]
    exact bisect_eq hsaid _ _ (by omega) (by omega)
  · rw [if_neg hstart]
    have hgoes : ∀ i < start + 1,
        (pure (!decide (start - i < front.length)) : Except ε Bool) =
          .ok (decide (i < start + 1 - front.length)) := by
      intro i hi
      rw [← decide_not]
      show Except.ok _ = Except.ok _
      simp only [Except.ok.injEq, decide_eq_decide]
      omega
    obtain ⟨a, b, hab, ha, hb⟩ := stride_eq hgoes (by omega) 0 1 (by omega)
    rw [hab]
    exact bisect_eq hsaid _ _ (by omega) (by omega)

/-! ## The two sides of a merge -/

namespace Side

variable {s : Side} {a a' b b' : α} {as bs : List α}

/-- Whether one item may stand before another, seen from a side. -/
def Leads (s : Side) (key : α → κ) (a b : α) : Prop :=
  match s with
  | .front => key a ≤ key b
  | .back => key b ≤ key a

/-- Whether an item of the second run goes before one of the first. -/
def Second (s : Side) (key : α → κ) (b a : α) : Prop :=
  match s with
  | .front => key b < key a
  | .back => key a ≤ key b

instance : Decidable (s.Second key b a) := by
  cases s <;> unfold Second <;> infer_instance

theorem Second.leads (h : s.Second key b a) : s.Leads key b a := by
  cases s
  · exact le_of_lt h
  · exact h

theorem leads_of_not_second (h : ¬ s.Second key b a) : s.Leads key a b := by
  cases s
  · exact not_lt.mp h
  · exact le_of_lt (not_le.mp h)

/-- What goes before an item goes before all behind it. -/
theorem Second.mono (h : s.Second key b a) (h' : s.Leads key a a') : s.Second key b a' := by
  cases s
  · exact lt_of_lt_of_le h h'
  · exact le_trans h' h

theorem not_second_mono (h : ¬ s.Second key b a) (h' : s.Leads key b b') :
    ¬ s.Second key b' a := by
  cases s
  · exact not_lt.mpr (le_trans (not_lt.mp h) h')
  · exact not_le.mpr (lt_of_le_of_lt h' (not_le.mp h))

/-- What goes before the head of the first run goes before all of it. -/
theorem second_all (h : (a :: as).Pairwise (s.Leads key)) (hb : s.Second key b a) :
    ∀ a' ∈ a :: as, s.Second key b a' := by
  intro a' ha'
  rcases List.mem_cons.mp ha' with rfl | hmem
  · exact hb
  · exact hb.mono (List.rel_of_pairwise_cons h hmem)

/-- Where the head of the second run does not go before an item, none does. -/
theorem none_second (h : (b :: bs).Pairwise (s.Leads key)) (ha : ¬ s.Second key b a) :
    ∀ b' ∈ b :: bs, ¬ s.Second key b' a := by
  intro b' hb'
  rcases List.mem_cons.mp hb' with rfl | hmem
  · exact ha
  · exact not_second_mono ha (List.rel_of_pairwise_cons h hmem)

variable {less : α → α → Except ε Bool} {kind : α → Prop}

theorem secondGoes_eq (h : Ranks less key kind) (hb : kind b) (ha : kind a) :
    s.secondGoes less b a = .ok (decide (s.Second key b a)) := by
  cases s with
  | front => exact h b a hb ha
  | back =>
    unfold secondGoes
    rw [h b a hb ha]
    show Except.ok _ = Except.ok _
    simp [Second, ← decide_not]

/-- A run that is divided in two has the first part at its head. -/
theorem leading_eq {goes : α → Except ε Bool} {front back : List α}
    (hfront : ∀ a ∈ front, goes a = .ok true) (hback : ∀ a ∈ back, goes a = .ok false) :
    s.leading goes (front ++ back) = .ok front.length := by
  cases s with
  | front => exact boundary_eq hfront hback 0
  | back =>
    have hboundary : boundary (fun a => return !(← goes a)) (front ++ back).reverse
        ((front ++ back).length - 1) = .ok back.length := by
      rw [List.reverse_append, ← @List.length_reverse _ back]
      apply boundary_eq
      · intro a ha
        rw [hback a (List.mem_reverse.mp ha)]
        rfl
      · intro a ha
        rw [hfront a (List.mem_reverse.mp ha)]
        rfl
    unfold leading
    dsimp only
    rw [hboundary]
    show Except.ok _ = Except.ok _
    simp

/-- An ordered run is divided in two by what ends somewhere in it. -/
theorem exists_divide {p : α → Prop} [DecidablePred p] (h : as.Pairwise (s.Leads key))
    (hmono : ∀ a a', s.Leads key a a' → ¬ p a → ¬ p a') :
    ∃ front back, as = front ++ back ∧ (∀ a ∈ front, p a) ∧ ∀ a ∈ back, ¬ p a := by
  induction as with
  | nil => exact ⟨[], [], by simp⟩
  | cons a as ih =>
    rw [List.pairwise_cons] at h
    by_cases ha : p a
    · obtain ⟨front, back, rfl, hfront, hback⟩ := ih h.2
      exact ⟨a :: front, back, rfl, by simpa [ha] using hfront, hback⟩
    · refine ⟨[], a :: as, rfl, by simp, ?_⟩
      intro a' ha'
      rcases List.mem_cons.mp ha' with rfl | hmem
      · exact ha
      · exact hmono a a' (h.1 a' hmem) ha

/-! ## What a merge gives -/

/-- Two runs put together, seen from a side. -/
structure Merges (s : Side) (key : α → κ) (as bs ms : List α) : Prop where
  ordered : ms.Pairwise (s.Leads key)
  sameOrder : SameOrder key ms (s.standing as bs)

namespace Merges

variable {xs ms : List α}

theorem mem_iff (h : s.Merges key as bs ms) {m : α} : m ∈ ms ↔ m ∈ as ∨ m ∈ bs := by
  rw [h.sameOrder.mem_iff]
  cases s <;> simp [standing, or_comm]

theorem only_first (h : as.Pairwise (s.Leads key)) : s.Merges key as [] as :=
  ⟨h, by cases s <;> simp [standing, SameOrder.refl]⟩

theorem only_second (h : bs.Pairwise (s.Leads key)) : s.Merges key [] bs bs :=
  ⟨h, by cases s <;> simp [standing, SameOrder.refl]⟩

theorem first (h : s.Merges key as bs ms) (has : ∀ a' ∈ as, s.Leads key a a')
    (hbs : ∀ b ∈ bs, ¬ s.Second key b a) : s.Merges key (a :: as) bs (a :: ms) := by
  constructor
  · rw [List.pairwise_cons]
    refine ⟨?_, h.ordered⟩
    intro m hm
    rcases h.mem_iff.mp hm with ha | hb
    · exact has m ha
    · exact leads_of_not_second (hbs m hb)
  · have hcons : SameOrder key ([a] ++ ms) ([a] ++ s.standing as bs) :=
      (SameOrder.refl [a]).append h.sameOrder
    cases s with
    | front => exact hcons
    | back =>
      have hswap : SameOrder key ([a] ++ bs) (bs ++ [a]) := by
        apply SameOrder.swap
        intro a' ha' b hb hab
        rw [List.mem_singleton] at ha'
        subst ha'
        exact hbs b hb (le_of_eq hab)
      have hboth := hcons.trans (List.append_assoc [a] bs as ▸ hswap.append (SameOrder.refl as))
      rw [List.append_assoc] at hboth
      exact hboth

theorem second (h : s.Merges key as bs ms) (has : ∀ a ∈ as, s.Second key b a)
    (hbs : ∀ b' ∈ bs, s.Leads key b b') : s.Merges key as (b :: bs) (b :: ms) := by
  constructor
  · rw [List.pairwise_cons]
    refine ⟨?_, h.ordered⟩
    intro m hm
    rcases h.mem_iff.mp hm with ha | hb
    · exact (has m ha).leads
    · exact hbs m hb
  · have hcons : SameOrder key ([b] ++ ms) ([b] ++ s.standing as bs) :=
      (SameOrder.refl [b]).append h.sameOrder
    cases s with
    | front =>
      have hswap : SameOrder key ([b] ++ as) (as ++ [b]) := by
        apply SameOrder.swap
        intro b' hb' a ha hab
        rw [List.mem_singleton] at hb'
        subst hb'
        exact ne_of_lt (has a ha) hab
      have hboth := hcons.trans (List.append_assoc [b] as bs ▸ hswap.append (SameOrder.refl bs))
      rw [List.append_assoc] at hboth
      exact hboth
    | back => exact hcons

theorem firsts (h : s.Merges key as bs ms) (hxs : (xs ++ as).Pairwise (s.Leads key))
    (hbs : ∀ x ∈ xs, ∀ b ∈ bs, ¬ s.Second key b x) :
    s.Merges key (xs ++ as) bs (xs ++ ms) := by
  induction xs with
  | nil => exact h
  | cons x xs ih =>
    rw [List.cons_append, List.pairwise_cons] at hxs
    apply (ih hxs.2 fun y hy => hbs y (List.mem_cons_of_mem x hy)).first hxs.1
    exact hbs x List.mem_cons_self

theorem seconds (h : s.Merges key as bs ms) (hxs : (xs ++ bs).Pairwise (s.Leads key))
    (has : ∀ x ∈ xs, ∀ a ∈ as, s.Second key x a) :
    s.Merges key as (xs ++ bs) (xs ++ ms) := by
  induction xs with
  | nil => exact h
  | cons x xs ih =>
    rw [List.cons_append, List.pairwise_cons] at hxs
    apply (ih hxs.2 fun y hy => has y (List.mem_cons_of_mem x hy)).second _ hxs.1
    exact has x List.mem_cons_self

end Merges

/-- Two ordered runs that can be merged from a side: the item that is last from
there is known to be last. -/
structure Mergeable (s : Side) (key : α → κ) (kind : α → Prop) (as bs : List α) : Prop where
  first : as.Pairwise (s.Leads key)
  second : bs.Pairwise (s.Leads key)
  firstKind : ∀ a ∈ as, kind a
  secondKind : ∀ b ∈ bs, kind b
  last : match s with
    | .front => ∀ a ∈ as.getLast?, ∀ b ∈ bs, s.Second key b a
    | .back => ∀ b ∈ bs.getLast?, ∀ a ∈ as, ¬ s.Second key b a

/-- What is left of two runs can be merged as they could. -/
theorem Mergeable.suffix {as' bs' : List α} (h : s.Mergeable key kind as bs) (ha : as' <:+ as)
    (hb : bs' <:+ bs) : s.Mergeable key kind as' bs' := by
  have hlast : ∀ {l l' : List α}, l' <:+ l → ∀ x ∈ l'.getLast?, x ∈ l.getLast? := by
    rintro l l' ⟨front, rfl⟩ x hx
    rw [List.getLast?_append]
    rw [Option.mem_def] at hx ⊢
    rw [hx]
    rfl
  refine ⟨h.first.sublist ha.sublist, h.second.sublist hb.sublist,
    fun a hmem => h.firstKind a (ha.subset hmem), fun b hmem => h.secondKind b (hb.subset hmem), ?_⟩
  have hends := h.last
  cases s with
  | front => exact fun a hmem b hb' => hends a (hlast ha a hmem) b (hb.subset hb')
  | back => exact fun b hmem a ha' => hends b (hlast hb b hmem) a (ha.subset ha')

/-- When a merge is over, the rest stands as it has to. -/
theorem Mergeable.rest (h : s.Mergeable key kind as bs) (hover : s.isOver as bs = true) :
    s.Merges key as bs (s.rest as bs) := by
  have hends := h.last
  cases s with
  | front =>
    have hall : ∀ b ∈ bs, ∀ a ∈ as, Side.front.Second key b a := by
      intro b hb a ha
      simp only [isOver, Bool.or_eq_true, decide_eq_true_eq, List.isEmpty_iff] at hover
      rcases hover with hone | rfl
      · obtain ⟨c, rfl⟩ : ∃ c, as = [c] := List.length_eq_one_iff.mp (by
          have := List.length_pos_of_mem ha
          omega)
        rw [List.mem_singleton] at ha
        subst ha
        exact hends a rfl b hb
      · cases hb
    have hrest : Side.front.Merges key as (bs ++ []) (bs ++ as) :=
      (Merges.only_first h.first).seconds (by simpa using h.second) fun b hb => hall b hb
    rw [List.append_nil] at hrest
    exact hrest
  | back =>
    have hall : ∀ a ∈ as, ∀ b ∈ bs, ¬ Side.back.Second key b a := by
      intro a ha b hb
      simp only [isOver, Bool.or_eq_true, decide_eq_true_eq, List.isEmpty_iff] at hover
      rcases hover with hone | rfl
      · obtain ⟨c, rfl⟩ : ∃ c, bs = [c] := List.length_eq_one_iff.mp (by
          have := List.length_pos_of_mem hb
          omega)
        rw [List.mem_singleton] at hb
        subst hb
        exact hends b rfl a ha
      · cases ha
    have hrest : Side.back.Merges key (as ++ []) bs (as ++ bs) :=
      (Merges.only_second h.second).firsts (by simpa using h.first) fun a ha => hall a ha
    rw [List.append_nil] at hrest
    exact hrest

end Side

/-! ## Merging from a side -/

/-- What a merge comes to in which some items have gone already: they stay in
front, and the rest is put together. -/
def Continues (s : Side) (key : α → κ) (done as bs : List α) (r : Merged α ε) : Prop :=
  r.trouble? = none ∧ ∃ ms, r.items = done.reverse ++ ms ∧ s.Merges key as bs ms

section

open Side

variable {less : α → α → Except ε Bool} {kind : α → Prop} {s : Side} {a b : α}
  {done as bs front : List α} {r : Merged α ε}

theorem Continues.of_rest (h : s.Mergeable key kind as bs) (hover : s.isOver as bs = true)
    (patience : Nat) :
    Continues s key done as bs (⟨done.reverse ++ s.rest as bs, patience, none⟩ : Merged α ε) :=
  ⟨rfl, _, rfl, h.rest hover⟩

theorem Continues.firsts (h : s.Mergeable key kind (front ++ as) bs)
    (hfront : ∀ a ∈ front, ∀ b ∈ bs, ¬ s.Second key b a)
    (hr : Continues s key (front.reverse ++ done) as bs r) :
    Continues s key done (front ++ as) bs r := by
  obtain ⟨hok, ms, hitems, hms⟩ := hr
  refine ⟨hok, front ++ ms, ?_, hms.firsts h.first hfront⟩
  rw [hitems]
  simp

theorem Continues.seconds (h : s.Mergeable key kind as (front ++ bs))
    (hfront : ∀ b ∈ front, ∀ a ∈ as, s.Second key b a)
    (hr : Continues s key (front.reverse ++ done) as bs r) :
    Continues s key done as (front ++ bs) r := by
  obtain ⟨hok, ms, hitems, hms⟩ := hr
  refine ⟨hok, front ++ ms, ?_, hms.seconds h.second hfront⟩
  rw [hitems]
  simp

theorem Continues.first (h : s.Mergeable key kind (a :: as) bs)
    (hfirst : ∀ b ∈ bs, ¬ s.Second key b a) (hr : Continues s key (a :: done) as bs r) :
    Continues s key done (a :: as) bs r := by
  obtain ⟨hok, ms, hitems, hms⟩ := hr
  refine ⟨hok, a :: ms, ?_, hms.first (fun _ => List.rel_of_pairwise_cons h.first) hfirst⟩
  rw [hitems]
  simp

theorem Continues.second (h : s.Mergeable key kind as (b :: bs))
    (hsecond : ∀ a ∈ as, s.Second key b a) (hr : Continues s key (b :: done) as bs r) :
    Continues s key done as (b :: bs) r := by
  obtain ⟨hok, ms, hitems, hms⟩ := hr
  refine ⟨hok, b :: ms, ?_, hms.second hsecond fun _ => List.rel_of_pairwise_cons h.second⟩
  rw [hitems]
  simp

/-- Both ways of merging put the rest of two runs together. -/
def GoesOn (less : α → α → Except ε Bool) (s : Side) (key : α → κ) (as bs : List α) : Prop :=
  ∀ patience done,
    (∀ wonA wonB, Continues s key done as bs (mergeSingly less s patience wonA wonB done as bs)) ∧
      Continues s key done as bs (mergeBlocks less s patience done as bs)

theorem singly_goes (hless : Ranks less key kind) (h : s.Mergeable key kind as bs)
    (hsmaller : ∀ as' bs', as'.length + bs'.length < as.length + bs.length →
      s.Mergeable key kind as' bs' → GoesOn less s key as' bs')
    (patience wonA wonB : Nat) (done : List α) :
    Continues s key done as bs (mergeSingly less s patience wonA wonB done as bs) := by
  cases as with
  | nil =>
    rw [mergeSingly]
    · exact .of_rest h (by cases s <;> simp [isOver]) patience
    · simp
  | cons a as =>
    cases bs with
    | nil =>
      rw [mergeSingly]
      · exact .of_rest h (by cases s <;> simp [isOver]) patience
      · simp
    | cons b bs =>
      rw [mergeSingly]
      split
      · rename_i hover
        exact .of_rest h hover patience
      · rw [secondGoes_eq hless (h.secondKind b (by simp)) (h.firstKind a (by simp))]
        by_cases hsecond : s.Second key b a
        · have hrest : GoesOn less s key (a :: as) bs :=
            hsmaller _ _ (by simp) (h.suffix (List.suffix_refl _) (List.suffix_cons b bs))
          simp only [hsecond, decide_true]
          split
          · exact .second h (second_all h.first hsecond) (hrest _ _).2
          · exact .second h (second_all h.first hsecond) ((hrest _ _).1 _ _)
        · have hrest : GoesOn less s key as (b :: bs) :=
            hsmaller _ _ (by simp) (h.suffix (List.suffix_cons a as) (List.suffix_refl _))
          simp only [hsecond, decide_false]
          split
          · exact .first h (none_second h.second hsecond) (hrest _ _).2
          · exact .first h (none_second h.second hsecond) ((hrest _ _).1 _ _)

/-- The items of the first run that go before the head of the second. -/
theorem leading_firsts (hless : Ranks less key kind) (has : as.Pairwise (s.Leads key))
    (hkind : ∀ a ∈ as, kind a) (hb : kind b) : ∃ front back, as = front ++ back ∧
      s.leading (fun a => return !(← s.secondGoes less b a)) as = .ok front.length ∧
      (∀ a ∈ front, ¬ s.Second key b a) ∧ ∀ a ∈ back, s.Second key b a := by
  have hmono : ∀ a a', s.Leads key a a' → ¬ ¬ s.Second key b a → ¬ ¬ s.Second key b a' := by
    intro a a' haa' hsecond
    rw [Decidable.not_not] at hsecond ⊢
    exact hsecond.mono haa'
  obtain ⟨front, back, rfl, hfront, hback⟩ := exists_divide has hmono
  have hdecides : ∀ a ∈ front ++ back,
      (do return !(← s.secondGoes less b a)) = .ok (!decide (s.Second key b a)) := by
    intro a ha
    rw [secondGoes_eq hless hb (hkind a ha)]
    rfl
  refine ⟨front, back, rfl, leading_eq ?_ ?_, hfront, fun a ha => ?_⟩
  · intro a ha
    rw [hdecides a (List.mem_append_left back ha)]
    simp [hfront a ha]
  · intro a ha
    rw [hdecides a (List.mem_append_right front ha)]
    simp [Decidable.not_not.mp (hback a ha)]
  · exact Decidable.not_not.mp (hback a ha)

/-- The items of the second run that go before an item of the first. -/
theorem divide_seconds (hless : Ranks less key kind) (hbs : bs.Pairwise (s.Leads key))
    (hkind : ∀ b ∈ bs, kind b) (ha : kind a) : ∃ front back, bs = front ++ back ∧
      (∀ b ∈ front, s.secondGoes less b a = .ok true ∧ s.Second key b a) ∧
      ∀ b ∈ back, s.secondGoes less b a = .ok false ∧ ¬ s.Second key b a := by
  obtain ⟨front, back, rfl, hfront, hback⟩ := exists_divide (p := fun b => s.Second key b a)
    hbs fun b b' hbb' hfirst => not_second_mono hfirst hbb'
  have hdecides : ∀ b ∈ front ++ back, s.secondGoes less b a = .ok (decide (s.Second key b a)) :=
    fun b hb => secondGoes_eq hless (hkind b hb) ha
  refine ⟨front, back, rfl, fun b hb => ?_, fun b hb => ?_⟩
  · rw [hdecides b (List.mem_append_left back hb), decide_eq_true (hfront b hb)]
    exact ⟨rfl, hfront b hb⟩
  · rw [hdecides b (List.mem_append_right front hb), decide_eq_false (hback b hb)]
    exact ⟨rfl, hback b hb⟩

theorem blocks_go (hless : Ranks less key kind) (h : s.Mergeable key kind as bs)
    (hsmaller : ∀ as' bs', as'.length + bs'.length < as.length + bs.length →
      s.Mergeable key kind as' bs' → GoesOn less s key as' bs')
    (patience : Nat) (done : List α) :
    Continues s key done as bs (mergeBlocks less s patience done as bs) := by
  rw [mergeBlocks.eq_def]
  split
  · rename_i hover
    exact .of_rest h hover patience
  cases bs with
  | nil => exact ⟨rfl, as, rfl, .only_first h.first⟩
  | cons b bs =>
    -- a block of the first run goes before the head of the second
    obtain ⟨front, back, rfl, hleading, hfront, hback⟩ :=
      leading_firsts hless h.first h.firstKind (h.secondKind b (by simp))
    have hsuffix := List.suffix_append front back
    simp only [hleading, List.take_left, List.drop_left]
    have h₁ : s.Mergeable key kind back (b :: bs) := h.suffix hsuffix (List.suffix_refl _)
    apply Continues.firsts h fun a ha => none_second h.second (hfront a ha)
    split
    · rename_i hover
      exact .of_rest h₁ hover patience
    have h₂ : s.Mergeable key kind back bs := h₁.suffix (List.suffix_refl _) (List.suffix_cons b bs)
    apply Continues.second h₁ hback
    split
    · rename_i hover
      exact .of_rest h₂ hover patience
    split
    · rename_i hdrop
      rw [List.drop_left] at hdrop
      subst hdrop
      exact ⟨rfl, bs, rfl, .only_second h₂.second⟩
    · rename_i a as' hdrop
      rw [List.drop_left] at hdrop
      subst hdrop
      -- a block of the second run goes before what is then the head of the first
      obtain ⟨front', back', rfl, hfront', hback'⟩ :=
        divide_seconds hless h₂.second h₂.secondKind (h₂.firstKind a (by simp))
      have hsuffix' := List.suffix_append front' back'
      have hleading' : s.leading (fun b => s.secondGoes less b a) (front' ++ back') =
          .ok front'.length :=
        leading_eq (fun b hb => (hfront' b hb).1) fun b hb => (hback' b hb).1
      simp only [hleading', List.take_left, List.drop_left]
      have h₃ : s.Mergeable key kind (a :: as') back' := h₂.suffix (List.suffix_refl _) hsuffix'
      apply Continues.seconds h₂ fun b hb => second_all h₂.first (hfront' b hb).2
      split
      · rename_i hover
        exact .of_rest h₃ hover patience
      have h₄ : s.Mergeable key kind as' back' :=
        h₃.suffix (List.suffix_cons a as') (List.suffix_refl _)
      have hgoes : GoesOn less s key as' back' := hsmaller _ _ (by simp; omega) h₄
      apply Continues.first h₃ fun b hb => (hback' b hb).2
      split
      · exact (hgoes _ _).2
      · exact (hgoes _ _).1 _ _

/-- Both ways of merging put two runs together. -/
theorem goesOn (hless : Ranks less key kind) (as bs : List α) (h : s.Mergeable key kind as bs) :
    GoesOn less s key as bs := by
  have hsmaller : ∀ as' bs', as'.length + bs'.length < as.length + bs.length →
      s.Mergeable key kind as' bs' → GoesOn less s key as' bs' :=
    fun as' bs' _ h' => goesOn hless as' bs' h'
  exact fun patience done => ⟨fun wonA wonB => singly_goes hless h hsmaller patience wonA wonB done,
    blocks_go hless h hsmaller patience done⟩
  termination_by as.length + bs.length

/-! ## Merging two runs -/

namespace Side.Merges

variable {ms : List α}

theorem arranged_front (h : Side.front.Merges key as bs ms) : Arranged key (as ++ bs) ms :=
  ⟨h.ordered, h.sameOrder⟩

theorem arranged_back (h : Side.back.Merges key as.reverse bs.reverse ms) :
    Arranged key (as ++ bs) ms.reverse := by
  refine ⟨List.pairwise_reverse.mpr h.ordered, ?_⟩
  have hstanding : (Side.back.standing as.reverse bs.reverse).reverse = as ++ bs := by
    simp [standing]
  rw [← hstanding]
  exact h.sameOrder.reverse

end Side.Merges

/-- Nothing has stopped a merge, and it has put the items in order. -/
structure Merged.Arranges (r : Merged α ε) (key : α → κ) (items : List α) : Prop where
  untroubled : r.trouble? = none
  arranged : Arranged key items r.items

variable {patience : Nat}

theorem mergeFrom_arranges (hless : Ranks less key kind) (has : Ascending key as)
    (hbs : Ascending key bs) (hfirst : ∀ a ∈ as, kind a) (hsecond : ∀ b ∈ bs, kind b)
    (hhead : ∀ b ∈ bs.head?, ∀ a ∈ as, key b < key a)
    (hlast : ∀ a ∈ as.getLast?, ∀ b ∈ bs, key b < key a) :
    (mergeFrom less patience as bs).Arranges key (as ++ bs) := by
  unfold mergeFrom
  split
  · cases bs with
    | nil => exact ⟨rfl, by simpa using ⟨has, SameOrder.refl as⟩⟩
    | cons b bs =>
      have h : Side.front.Mergeable key kind as (b :: bs) := ⟨has, hbs, hfirst, hsecond, hlast⟩
      have hsuffix : Side.front.Mergeable key kind as bs :=
        h.suffix (List.suffix_refl as) (List.suffix_cons b bs)
      obtain ⟨hok, ms, hitems, hms⟩ := Continues.second h (hhead b rfl)
        (((goesOn hless as bs hsuffix) patience [b]).1 0 0)
      refine ⟨hok, ?_⟩
      dsimp only
      rw [hitems]
      exact hms.arranged_front
  · split
    · rename_i hnil
      rw [List.reverse_eq_nil_iff] at hnil
      subst hnil
      exact ⟨rfl, hbs, SameOrder.refl bs⟩
    · rename_i a as' hcons
      have h : Side.back.Mergeable key kind as.reverse bs.reverse := by
        refine ⟨List.pairwise_reverse.mpr has, List.pairwise_reverse.mpr hbs, by simpa using hfirst,
          by simpa using hsecond, ?_⟩
        intro b hb a ha
        rw [List.getLast?_reverse] at hb
        exact not_le.mpr (hhead b hb a (List.mem_reverse.mp ha))
      have ha : a ∈ as.getLast? := by
        rw [List.getLast?_eq_head?_reverse, hcons]
        rfl
      rw [hcons] at h
      have hsuffix : Side.back.Mergeable key kind as' bs.reverse :=
        h.suffix (List.suffix_cons a as') (List.suffix_refl _)
      have hgoes : ∀ b ∈ bs.reverse, ¬ Side.back.Second key b a :=
        fun b hb => not_le.mpr (hlast a ha b (List.mem_reverse.mp hb))
      obtain ⟨hok, ms, hitems, hms⟩ := Continues.first h hgoes
        (((goesOn hless as' bs.reverse hsuffix) patience [a]).1 0 0)
      refine ⟨hok, ?_⟩
      dsimp only
      rw [hitems]
      rw [← hcons] at hms
      exact hms.arranged_back

/-- What is in place already at the far ends of two runs stays there. -/
theorem Arranged.between {front back front' back' ms : List α}
    (h : Arranged key (back ++ front') ms) (hfirst : Ascending key (front ++ back))
    (hsecond : Ascending key (front' ++ back'))
    (hlow : ∀ a ∈ front, ∀ b ∈ front' ++ back', key a ≤ key b)
    (hhigh : ∀ a ∈ back, ∀ b ∈ back', key a ≤ key b) :
    Arranged key ((front ++ back) ++ (front' ++ back')) (front ++ ms ++ back') := by
  unfold Ascending at hfirst hsecond
  rw [List.pairwise_append] at hfirst hsecond
  have hmem : ∀ m ∈ ms, m ∈ back ∨ m ∈ front' := by
    intro m hm
    rw [h.sameOrder.mem_iff] at hm
    exact List.mem_append.mp hm
  constructor
  · unfold Ascending
    rw [List.append_assoc, List.pairwise_append, List.pairwise_append]
    refine ⟨hfirst.1, ⟨h.ascending, hsecond.2.1, ?_⟩, ?_⟩
    · intro m hm b hb
      rcases hmem m hm with hback | hfront
      · exact hhigh m hback b hb
      · exact hsecond.2.2 m hfront b hb
    · intro a ha c hc
      rcases List.mem_append.mp hc with hm | hb
      · rcases hmem c hm with hback | hfront
        · exact hfirst.2.2 a ha c hback
        · exact hlow a ha c (List.mem_append_left back' hfront)
      · exact hlow a ha c (List.mem_append_right front' hb)
  · have hsame := ((SameOrder.refl front).append h.sameOrder).append (SameOrder.refl back')
    simpa using hsame

/-- What is left in the middle, between what is in place already, is merged from the
shorter side. -/
theorem middle_arranges {front' back' : List α} (hless : Ranks less key kind)
    (has : Ascending key as) (hbs : Ascending key (front' ++ back')) (hfirst : ∀ a ∈ as, kind a)
    (hsecond : ∀ b ∈ front' ++ back', kind b) (hhead : (front' ++ back').head? = some b)
    (hlast : as.getLast? = some a) (habove : ∀ a ∈ as, key b < key a)
    (hbelow : ∀ b ∈ front', key b < key a) :
    (mergeFrom less patience as front').Arranges key (as ++ front') := by
  apply mergeFrom_arranges hless has hbs.left hfirst
  · exact fun b hb => hsecond b (List.mem_append_left back' hb)
  · intro b' hb' a' ha'
    rw [List.head?_append, hb'] at hhead
    cases hhead
    exact habove a' ha'
  · intro a' ha' b' hb'
    rw [hlast] at ha'
    cases ha'
    exact hbelow b' hb'

/-- Two ascending runs are merged. -/
theorem merge_arranges (hless : Ranks less key kind) (has : Ascending key as)
    (hbs : Ascending key bs) (hfirst : ∀ a ∈ as, kind a) (hsecond : ∀ b ∈ bs, kind b) :
    (merge less patience as bs).Arranges key (as ++ bs) := by
  unfold merge
  cases hhead : bs.head? with
  | none =>
    rw [List.head?_eq_none_iff] at hhead
    subst hhead
    exact ⟨rfl, by simpa using ⟨has, SameOrder.refl as⟩⟩
  | some b =>
    have hb : kind b := hsecond b (List.mem_of_head? hhead)
    obtain ⟨front, back, rfl, hboundary, hfront, hback⟩ :=
      leading_firsts (s := .front) hless has hfirst hb
    have hboundary : boundary (fun a => return !(← less b a)) (front ++ back) 0 =
        .ok front.length := hboundary
    have hlow : ∀ a ∈ front, ∀ b' ∈ bs, key a ≤ key b' := by
      intro a ha b' hb'
      obtain ⟨bs, rfl⟩ := List.head?_eq_some_iff.mp hhead
      exact not_lt.mp (Side.none_second (s := .front) hbs (hfront a ha) b' hb')
    simp only [hboundary, List.drop_left, List.take_left]
    cases hlast : back.getLast? with
    | none =>
      rw [List.getLast?_eq_none_iff] at hlast
      subst hlast
      have hnil : Arranged key ([] ++ []) ([] : List α) := ⟨.nil, .refl []⟩
      have harranged := hnil.between has hbs hlow (by simp)
      exact ⟨rfl, by simpa using harranged⟩
    | some a =>
      have ha : a ∈ back := List.mem_of_getLast? hlast
      have hend : ∀ a' ∈ back, key a' ≤ key a := has.right.le_last hlast
      obtain ⟨front', back', rfl, hfront', hback'⟩ :=
        divide_seconds (s := .front) hless hbs hsecond (hfirst a (List.mem_append_right front ha))
      have hboundary' : ∀ start, boundary (fun b => less b a) (front' ++ back') start =
          .ok front'.length :=
        boundary_eq (fun b hb => (hfront' b hb).1) fun b hb => (hback' b hb).1
      have hhigh : ∀ a' ∈ back, ∀ b' ∈ back', key a' ≤ key b' :=
        fun a' ha' b' hb' => le_trans (hend a' ha') (not_lt.mp (hback' b' hb').2)
      simp only [hboundary']
      split
      · rename_i hstopped
        cases hstopped
      · rename_i hnone
        obtain rfl := List.eq_nil_of_length_eq_zero (Except.ok.inj hnone)
        have hrest : Arranged key (back ++ []) back :=
          ⟨has.right, by simp [SameOrder.refl]⟩
        have harranged := hrest.between has hbs hlow hhigh
        exact ⟨rfl, by simpa using harranged⟩
      · rename_i m _ hsome
        obtain rfl := Except.ok.inj hsome
        simp only [List.take_left, List.drop_left]
        have hmid : (mergeFrom less patience back front').Arranges key (back ++ front') :=
          middle_arranges hless has.right hbs
            (fun a ha => hfirst a (List.mem_append_right front ha)) hsecond hhead hlast hback
            fun b hb => (hfront' b hb).2
        exact ⟨hmid.untroubled, hmid.arranged.between has hbs hlow hhigh⟩

end

end Minimize.Arrange
