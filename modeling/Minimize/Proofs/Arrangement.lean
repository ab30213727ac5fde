-- Arranging a list whose items stand in a line by their keys. Run by run or at
-- once, it comes to the one list in which keys ascend and items of one key are as
-- they were, and at its head stands the first item of the least key.
import Mathlib.Data.List.Pairwise
import Minimize.Arrange.Runs
import Minimize.Proofs.Merging

namespace Minimize.Arrange

variable {α ε κ : Type} [LinearOrder κ] {key : α → κ}

/-! ## The one arrangement -/

namespace Arranged

variable {items others as result result' : List α}

theorem of_ascending (h : Ascending key items) : Arranged key items items := ⟨h, .refl items⟩

theorem congr (h : Arranged key items result) (hsame : SameOrder key items others) :
    Arranged key others result := ⟨h.ascending, h.sameOrder.trans hsame⟩

theorem mem_iff (h : Arranged key items result) {a : α} : a ∈ result ↔ a ∈ items :=
  h.sameOrder.mem_iff

/-- Before more items come, those that are there can be arranged. -/
theorem before (h : Arranged key items others) (h' : Arranged key (others ++ as) result) :
    Arranged key (items ++ as) result := h'.congr (h.sameOrder.append (.refl as))

/-- A list is arranged in one way. -/
theorem unique (h : Arranged key items result) (h' : Arranged key items result') :
    result = result' := by
  have hsame : SameOrder key result result' := h.sameOrder.trans h'.sameOrder.symm
  have has := h.ascending
  have hbs := h'.ascending
  clear h h'
  induction result generalizing result' with
  | nil =>
    cases result' with
    | nil => rfl
    | cons b bs => exact absurd (hsame.mem_iff.mpr List.mem_cons_self) List.not_mem_nil
  | cons a as ih =>
    cases result' with
    | nil => exact absurd (hsame.mem_iff.mp List.mem_cons_self) List.not_mem_nil
    | cons b bs =>
      have hkey : key a = key b := by
        have ha : a ∈ b :: bs := hsame.mem_iff.mp List.mem_cons_self
        have hb : b ∈ a :: as := hsame.mem_iff.mpr List.mem_cons_self
        apply le_antisymm
        · rcases List.mem_cons.mp hb with rfl | hmem
          · exact le_refl _
          · exact List.rel_of_pairwise_cons has hmem
        · rcases List.mem_cons.mp ha with rfl | hmem
          · exact le_refl _
          · exact List.rel_of_pairwise_cons hbs hmem
      obtain ⟨rfl, _⟩ : a = b ∧ _ := by
        have hhead := hsame (key a)
        simp only [List.filter_cons, hkey, decide_true, if_true, List.cons.injEq] at hhead
        exact hhead
      have hrest : SameOrder key as bs := by
        intro k
        have hk := hsame k
        by_cases hak : key a = k
        · simp only [List.filter_cons, hak, decide_true, if_true, List.cons.injEq, true_and] at hk
          exact hk
        · simp only [List.filter_cons, hak, decide_false, Bool.false_eq_true, if_false] at hk
          exact hk
      rw [ih hrest has.of_cons hbs.of_cons]

end Arranged

/-- The ranking of the keys, for a sort that asks whether an item can stay before
another. -/
def byKey (key : α → κ) (a b : α) : Bool := decide (key a ≤ key b)

/-- A stable sort arranges. -/
theorem mergeSort_arranged (items : List α) :
    Arranged key items (items.mergeSort (byKey key)) := by
  have htrans : ∀ a b c, byKey key a b → byKey key b c → byKey key a c := by
    intro a b c hab hbc
    unfold byKey at hab hbc ⊢
    rw [decide_eq_true_eq] at hab hbc ⊢
    exact le_trans hab hbc
  have htotal : ∀ a b, (byKey key a b || byKey key b a) = true := by
    intro a b
    unfold byKey
    simpa using le_total (key a) (key b)
  constructor
  · have hsorted := List.pairwise_mergeSort htrans htotal items
    exact hsorted.imp fun h => of_decide_eq_true h
  · intro k
    have hpairwise : (items.filter (key · = k)).Pairwise (byKey key · ·) := by
      apply List.pairwise_of_forall_mem_list
      intro a ha b hb
      have hka : key a = k := of_decide_eq_true (List.mem_filter.mp ha).2
      have hkb : key b = k := of_decide_eq_true (List.mem_filter.mp hb).2
      exact decide_eq_true (le_of_eq (hka.trans hkb.symm))
    have hsub : ((items.filter (key · = k)).filter (key · = k)).Sublist
        ((items.mergeSort (byKey key)).filter (key · = k)) :=
      (List.sublist_mergeSort htrans htotal hpairwise List.filter_sublist).filter _
    simp only [List.filter_filter, Bool.and_self] at hsub
    symm
    apply hsub.eq_of_length
    exact ((List.mergeSort_perm items (byKey key)).filter _).length_eq.symm

/-! ## The run at the head of a list -/

variable {less : α → α → Except ε Bool} {kind : α → Prop} {a : α} {as bs items rest : List α}

theorem Ascending.push (h : Ascending key (a :: as)) {b : α} (hab : key b ≤ key a) :
    Ascending key (b :: a :: as) := by
  have : IsTrans α (key · ≤ key ·) := ⟨fun _ _ _ => le_trans⟩
  exact List.Pairwise.cons_cons_of_trans hab h

/-- A run that falls all the way. -/
def Falling (key : α → κ) (items : List α) : Prop := items.Pairwise fun a b => key b < key a

theorem Falling.push (h : Falling key (a :: as)) {b : α} (hab : key a < key b) :
    Falling key (b :: a :: as) := by
  have : IsTrans α (key · > key ·) := ⟨fun _ _ _ => gt_trans⟩
  exact List.Pairwise.cons_cons_of_trans hab h

/-- A run that falls all the way has no two items of one key, and can be turned
round. -/
theorem Falling.reverse_arranged (h : Falling key as) : Arranged key as as.reverse := by
  constructor
  · unfold Ascending
    rw [List.pairwise_reverse]
    exact h.imp le_of_lt
  · induction as with
    | nil => exact .refl []
    | cons a as ih =>
      unfold Falling at h
      rw [List.pairwise_cons] at h
      rw [List.reverse_cons]
      apply ((ih h.2).append (.refl [a])).trans
      apply SameOrder.swap
      intro b hb a' ha'
      rw [List.mem_singleton.mp ha']
      exact ne_of_lt (h.1 b hb)

theorem rising_eq (hless : Ranks less key kind) (ha : kind a) (has : ∀ b ∈ as, kind b) :
    ∃ n, rising less a as = .ok n ∧ Ascending key (a :: as.take n) := by
  induction as generalizing a with
  | nil => exact ⟨0, rfl, List.pairwise_singleton _ a⟩
  | cons b as ih =>
    obtain ⟨n, hn, hasc⟩ := ih (has b (by simp)) fun c hc => has c (by simp [hc])
    unfold rising
    rw [hless b a (has b (by simp)) ha]
    by_cases hlt : key b < key a
    · refine ⟨0, ?_, List.pairwise_singleton _ a⟩
      simp only [hlt, decide_true]
      rfl
    · refine ⟨n + 1, ?_, ?_⟩
      · simp only [hlt, decide_false]
        rw [hn]
        rfl
      · rw [List.take_succ_cons]
        exact hasc.push (not_lt.mp hlt)

theorem falling_eq (hless : Ranks less key kind) (ha : kind a) (has : ∀ b ∈ as, kind b) :
    ∃ n, falling less a as = .ok n ∧ Falling key (a :: as.take n) := by
  induction as generalizing a with
  | nil => exact ⟨0, rfl, List.pairwise_singleton _ a⟩
  | cons b as ih =>
    obtain ⟨n, hn, hdesc⟩ := ih (has b (by simp)) fun c hc => has c (by simp [hc])
    unfold falling
    rw [hless b a (has b (by simp)) ha]
    by_cases hlt : key b < key a
    · refine ⟨n + 1, ?_, ?_⟩
      · simp only [hlt, decide_true]
        rw [hn]
        rfl
      · rw [List.take_succ_cons]
        exact hdesc.push hlt
    · refine ⟨0, ?_, List.pairwise_singleton _ a⟩
      simp only [hlt, decide_false]
      rfl

/-- The head of a list is put in order, and is not empty unless the list is. -/
theorem headRun_eq (hless : Ranks less key kind) (hkind : ∀ a ∈ items, kind a) :
    ∃ front back run, headRun less items = .ok (run, back) ∧ items = front ++ back ∧
      Arranged key front run ∧ (items ≠ [] → front ≠ []) := by
  match items, hkind with
  | [], _ => exact ⟨[], [], [], rfl, rfl, .of_ascending .nil, fun h => h⟩
  | [a], _ =>
    exact ⟨[a], [], [a], rfl, rfl, .of_ascending (List.pairwise_singleton _ a), fun h => h⟩
  | a :: b :: rest, hkind =>
    have ha : kind a := hkind a (by simp)
    have hb : kind b := hkind b (by simp)
    have hrest : ∀ c ∈ rest, kind c := fun c hc => hkind c (by simp [hc])
    have hsplit : ∀ n, a :: b :: rest = (a :: b :: rest.take n) ++ rest.drop n := by simp
    rw [headRun, hless b a hb ha]
    by_cases hlt : key b < key a
    · obtain ⟨n, hn, hdesc⟩ := falling_eq hless hb hrest
      refine ⟨a :: b :: rest.take n, rest.drop n, (a :: b :: rest.take n).reverse, ?_, hsplit n,
        ?_, by simp⟩
      · simp only [hlt, decide_true]
        rw [hn]
        rfl
      · exact (hdesc.push hlt).reverse_arranged
    · obtain ⟨n, hn, hasc⟩ := rising_eq hless hb hrest
      refine ⟨a :: b :: rest.take n, rest.drop n, a :: b :: rest.take n, ?_, hsplit n, ?_,
        by simp⟩
      · simp only [hlt, decide_false]
        rw [hn]
        rfl
      · exact .of_ascending (hasc.push (not_lt.mp hlt))

/-! ## Placing items one after the other -/

/-- An item that comes before the middle one belongs among those in front of it. -/
theorem Arranged.put_before {front back result : List α} {m : α}
    (h : Arranged key (front ++ [a]) result) (hasc : Ascending key (front ++ m :: back))
    (hlt : key a < key m) : Arranged key (front ++ m :: back ++ [a]) (result ++ m :: back) := by
  have hbefore : ∀ b ∈ m :: back, key a < key b := Side.second_all (s := .front) hasc.right hlt
  have hback : Ascending key ([a] ++ m :: back) := hasc.right.push (le_of_lt hlt)
  have hbetween : Arranged key (([] ++ front) ++ ([a] ++ m :: back)) ([] ++ result ++ m :: back) :=
    h.between hasc.left hback (by simp) (List.pairwise_append.mp hasc).2.2
  have hswap : SameOrder key (front ++ ([a] ++ m :: back)) (front ++ (m :: back ++ [a])) := by
    apply (SameOrder.refl front).append
    apply SameOrder.swap
    intro a' ha' b hb
    rw [List.mem_singleton.mp ha']
    exact ne_of_lt (hbefore b hb)
  rw [List.append_assoc]
  exact hbetween.congr hswap

/-- An item that does not come before the middle one belongs behind it. -/
theorem Arranged.put_behind {front back result : List α} {m : α}
    (h : Arranged key (back ++ [a]) result) (hasc : Ascending key (front ++ m :: back))
    (hle : key m ≤ key a) : Arranged key (front ++ m :: back ++ [a]) (front ++ m :: result) := by
  have hitems : front ++ m :: back = (front ++ [m]) ++ back := by simp
  have hlow : ∀ b ∈ front ++ [m], key b ≤ key a := by
    intro b hb
    have hfront : Ascending key (front ++ [m]) := by
      rw [hitems] at hasc
      exact hasc.left
    exact le_trans (hfront.le_last List.getLast?_concat b hb) hle
  have hbetween : Arranged key (((front ++ [m]) ++ back) ++ ([a] ++ []))
      ((front ++ [m]) ++ result ++ []) :=
    h.between (hitems ▸ hasc) (List.pairwise_singleton _ a) (by simpa using hlow) (by simp)
  simpa using hbetween

/-- An item is put behind the last one that it does not come before. -/
theorem place_eq (hless : Ranks less key kind) (ha : kind a) (items : List α)
    (hkind : ∀ b ∈ items, kind b) (hasc : Ascending key items) :
    ∃ result, place less a items = .ok result ∧ Arranged key (items ++ [a]) result := by
  have hsmaller : ∀ l : List α, l.length < items.length → (∀ b ∈ l, kind b) → Ascending key l →
      ∃ result, place less a l = .ok result ∧ Arranged key (l ++ [a]) result :=
    fun l _ => place_eq hless ha l
  rw [place]
  have hitems := List.take_append_drop (items.length / 2) items
  generalize items.take (items.length / 2) = front at hitems
  split
  · rename_i hdrop
    have hnil : items = [] := by
      rw [List.drop_eq_nil_iff] at hdrop
      apply List.eq_nil_of_length_eq_zero
      omega
    subst hnil
    exact ⟨[a], rfl, .of_ascending (List.pairwise_singleton _ a)⟩
  · rename_i m back hdrop
    rw [hdrop] at hitems
    clear hdrop
    subst hitems
    rw [hless a m ha (hkind m (by simp))]
    by_cases hlt : key a < key m
    · obtain ⟨result, hresult, harranged⟩ :=
        hsmaller front (by simp) (fun b hb => hkind b (by simp [hb])) hasc.left
      refine ⟨result ++ m :: back, ?_, harranged.put_before hasc hlt⟩
      simp only [hlt, decide_true, bind, Except.bind, if_true, hresult]
      rfl
    · obtain ⟨result, hresult, harranged⟩ :=
        hsmaller back (by simp; omega) (fun b hb => hkind b (by simp [hb])) hasc.right.of_cons
      refine ⟨front ++ m :: result, ?_, harranged.put_behind hasc (not_lt.mp hlt)⟩
      simp only [hlt, decide_false, bind, Except.bind, Bool.false_eq_true, if_false, hresult]
      rfl
  termination_by items.length

/-- One item after the other is put where it belongs. -/
theorem placeAll_eq (hless : Ranks less key kind) (has : ∀ a ∈ as, kind a)
    (hkind : ∀ b ∈ items, kind b) (hasc : Ascending key items) :
    ∃ result, placeAll less items as = (result, none) ∧ Arranged key (items ++ as) result := by
  induction as generalizing items with
  | nil => exact ⟨items, rfl, by simpa using Arranged.of_ascending hasc⟩
  | cons a as ih =>
    have ha : kind a := has a (by simp)
    obtain ⟨items', hitems', harranged⟩ := place_eq hless ha items hkind hasc
    have hkind' : ∀ b ∈ items', kind b := by
      intro b hb
      rcases List.mem_append.mp (harranged.mem_iff.mp hb) with hmem | hone
      · exact hkind b hmem
      · exact List.mem_singleton.mp hone ▸ ha
    obtain ⟨result, hresult, hall⟩ :=
      ih (fun b hb => has b (by simp [hb])) hkind' harranged.ascending
    refine ⟨result, ?_, ?_⟩
    · unfold placeAll
      rw [hitems']
      exact hresult
    · simpa using harranged.before hall

/-- A run of the least length, or what is left. -/
theorem nextRun_eq (hless : Ranks less key kind) (hkind : ∀ a ∈ items, kind a) (least : Nat) :
    ∃ front back run, nextRun less least items = (run, back, none) ∧ items = front ++ back ∧
      Arranged key front run ∧ (items ≠ [] → front ≠ []) := by
  obtain ⟨front, back, run, hrun, rfl, harranged, hnonempty⟩ := headRun_eq hless hkind
  have hfront : ∀ a ∈ run, kind a :=
    fun a ha => hkind a (List.mem_append_left back (harranged.mem_iff.mp ha))
  have hback : ∀ a ∈ back.take (least - run.length), kind a :=
    fun a ha => hkind a (List.mem_append_right front (List.mem_of_mem_take ha))
  obtain ⟨run', hrun', harranged'⟩ := placeAll_eq hless hback hfront harranged.ascending
  refine ⟨front ++ back.take (least - run.length), back.drop (least - run.length), run', ?_, ?_,
    harranged.before harranged', ?_⟩
  · unfold nextRun
    rw [hrun]
    dsimp only
    rw [hrun']
  · simp
  · intro hitems hnil
    exact hnonempty hitems (List.append_eq_nil_iff.mp hnil).1

/-! ## Runs on a pile -/

/-- A pile of ascending runs with the items of a list. -/
structure Pile.Holds (p : Pile α) (key : α → κ) (items : List α) : Prop where
  below : ∀ r ∈ p.below, Ascending key r.2
  top : Ascending key p.top
  sameOrder : SameOrder key p.items items

structure Piled.Holds (r : Piled α ε) (key : α → κ) (items : List α) : Prop where
  untroubled : r.trouble? = none
  pile : r.pile.Holds key items

variable {below : List (Nat × List α)} {top run run' : List α} {p q : Nat}

theorem merge_neighbours (hless : Ranks less key kind) (hkind : ∀ a ∈ as ++ bs, kind a)
    (has : Ascending key as) (hbs : Ascending key bs) (patience : Nat) :
    ∃ run patience', merge less patience as bs = ⟨run, patience', none⟩ ∧
      Arranged key (as ++ bs) run := by
  have hmerge : (merge less patience as bs).Arranges key (as ++ bs) :=
    merge_arranges hless has hbs (fun a ha => hkind a (List.mem_append_left bs ha))
      fun b hb => hkind b (List.mem_append_right as hb)
  obtain ⟨hok, harranged⟩ := hmerge
  cases hr : merge less patience as bs with
  | mk run patience' trouble =>
    rw [hr] at hok harranged
    cases hok
    exact ⟨run, patience', rfl, harranged⟩

theorem Pile.Holds.merge_top (h : (Pile.mk ((p, run) :: below) top).Holds key items)
    (hless : Ranks less key kind) (hkind : ∀ a ∈ items, kind a) (patience : Nat) :
    ∃ run' patience', merge less patience run top = ⟨run', patience', none⟩ ∧
      (Pile.mk below run').Holds key items := by
  have hkinds : ∀ a ∈ run ++ top, kind a := by
    intro a ha
    apply hkind a
    rw [← h.sameOrder.mem_iff]
    simpa [Pile.items, or_assoc] using .inr (List.mem_append.mp ha)
  obtain ⟨run', patience', hmerge, hrun'⟩ :=
    merge_neighbours hless hkinds (h.below _ List.mem_cons_self) h.top patience
  refine ⟨run', patience', hmerge, fun r hr => h.below r (by simp [hr]), hrun'.ascending, ?_⟩
  apply SameOrder.trans _ h.sameOrder
  have hsame : SameOrder key (below.reverse.flatMap (·.2) ++ run')
      (below.reverse.flatMap (·.2) ++ (run ++ top)) := (SameOrder.refl _).append hrun'.sameOrder
  simpa [Pile.items] using hsame

theorem Pile.Holds.merge_below {second third : List α}
    (h : (Pile.mk ((p, second) :: (q, third) :: below) top).Holds key items)
    (hless : Ranks less key kind) (hkind : ∀ a ∈ items, kind a) (patience : Nat) :
    ∃ run' patience', merge less patience third second = ⟨run', patience', none⟩ ∧
      (Pile.mk ((q, run') :: below) top).Holds key items := by
  have hkinds : ∀ a ∈ third ++ second, kind a := by
    intro a ha
    apply hkind a
    rw [← h.sameOrder.mem_iff]
    rcases List.mem_append.mp ha with hthird | hsecond
    · simp [Pile.items, hthird]
    · simp [Pile.items, hsecond]
  have hsecond : Ascending key second := h.below _ List.mem_cons_self
  have hthird : Ascending key third := h.below _ (List.mem_cons_of_mem _ List.mem_cons_self)
  obtain ⟨run', patience', hmerge, hrun'⟩ :=
    merge_neighbours hless hkinds hthird hsecond patience
  refine ⟨run', patience', hmerge, fun r hr => ?_, h.top, ?_⟩
  · rcases List.mem_cons.mp hr with rfl | hmem
    · exact hrun'.ascending
    · exact h.below r (by simp [hmem])
  · apply SameOrder.trans _ h.sameOrder
    have hsame : SameOrder key (below.reverse.flatMap (·.2) ++ run' ++ top)
        (below.reverse.flatMap (·.2) ++ (third ++ second) ++ top) :=
      ((SameOrder.refl _).append hrun'.sameOrder).append (.refl top)
    simpa [Pile.items] using hsame

theorem mergeDeeper_holds (hless : Ranks less key kind) (hkind : ∀ a ∈ items, kind a)
    (limit patience : Nat) (h : (Pile.mk below top).Holds key items) :
    (mergeDeeper less limit patience top below).Holds key items := by
  induction below generalizing top patience with
  | nil => exact ⟨rfl, h⟩
  | cons r below ih =>
    obtain ⟨p, run⟩ := r
    unfold mergeDeeper
    split
    · obtain ⟨run', patience', hmerge, h'⟩ := h.merge_top hless hkind patience
      rw [hmerge]
      exact ih patience' h'
    · exact ⟨rfl, h⟩

/-- At the end one run is left. -/
theorem mergeAll_holds (hless : Ranks less key kind) (hkind : ∀ a ∈ items, kind a)
    (patience : Nat) (top : List α) (below : List (Nat × List α))
    (h : (Pile.mk below top).Holds key items) :
    (mergeAll less patience top below).Holds key items ∧
      (mergeAll less patience top below).pile.below = [] := by
  match below, h with
  | [], h =>
    rw [mergeAll]
    exact ⟨⟨rfl, h⟩, rfl⟩
  | [(p, run)], h =>
    obtain ⟨run', patience', hmerge, h'⟩ := h.merge_top hless hkind patience
    rw [mergeAll, hmerge]
    exact ⟨⟨rfl, h'⟩, rfl⟩
  | (p, second) :: (q, third) :: below, h =>
    rw [mergeAll]
    split
    · obtain ⟨run', patience', hmerge, h'⟩ := h.merge_below hless hkind patience
      rw [hmerge]
      exact mergeAll_holds hless hkind patience' top _ h'
    · obtain ⟨run', patience', hmerge, h'⟩ := h.merge_top hless hkind patience
      rw [hmerge]
      exact mergeAll_holds hless hkind patience' run' _ h'
  termination_by below.length

/-- One more run is put on the pile. -/
theorem addRun_holds {pile : Pile α} (hless : Ranks less key kind) (hkind : ∀ a ∈ items, kind a)
    (length patience : Nat) (h : pile.Holds key items) (hrun : Arranged key as run) :
    (addRun less length patience pile run).Holds key (items ++ as) := by
  unfold addRun
  dsimp only
  generalize power length _ _ _ = limit
  obtain ⟨hok, hpile⟩ := mergeDeeper_holds hless hkind limit patience h
  cases hr : mergeDeeper less limit patience pile.top pile.below with
  | mk merged patience' trouble =>
    rw [hr] at hok hpile
    cases hok
    refine ⟨rfl, fun r hr => ?_, hrun.ascending, ?_⟩
    · rcases List.mem_cons.mp hr with rfl | hmem
      · exact hpile.top
      · exact hpile.below r hmem
    · have hsame := hpile.sameOrder.append hrun.sameOrder
      simpa [Pile.items] using hsame

/-- All runs of a list are put on the pile, and merged. -/
theorem pileRuns_eq {pile : Pile α} (hless : Ranks less key kind) (length least fuel patience : Nat)
    (hkind : ∀ a ∈ items ++ rest, kind a) (h : pile.Holds key items) (hfuel : rest.length < fuel) :
    ∃ result, pileRuns less length least fuel patience pile rest = (result, none) ∧
      Arranged key (items ++ rest) result := by
  induction fuel generalizing patience pile items rest with
  | zero => omega
  | succ fuel ih =>
    unfold pileRuns
    split
    · rename_i hrest
      rw [List.isEmpty_iff] at hrest
      subst hrest
      rw [List.append_nil] at hkind ⊢
      obtain ⟨⟨hok, hpile⟩, hbelow⟩ := mergeAll_holds hless hkind patience pile.top pile.below h
      dsimp only
      rw [hok]
      refine ⟨_, rfl, ?_⟩
      have hitems : (mergeAll less patience pile.top pile.below).pile.items =
          (mergeAll less patience pile.top pile.below).pile.top := by simp [Pile.items, hbelow]
      rw [hitems]
      exact ⟨hpile.top, hitems ▸ hpile.sameOrder⟩
    · rename_i hrest
      rw [List.isEmpty_iff] at hrest
      have hrestKind : ∀ a ∈ rest, kind a := fun a ha => hkind a (List.mem_append_right items ha)
      obtain ⟨front, back, run, hrun, rfl, harranged, hnonempty⟩ := nextRun_eq hless hrestKind least
      have hitems : ∀ a ∈ items, kind a := fun a ha => hkind a (List.mem_append_left _ ha)
      obtain ⟨hok, hpile⟩ := addRun_holds hless hitems length patience h harranged
      rw [hrun]
      dsimp only
      cases hr : addRun less length patience pile run with
      | mk added patience' trouble =>
        rw [hr] at hok hpile
        cases hok
        have hlength := List.length_pos_iff.mpr (hnonempty hrest)
        rw [← List.append_assoc] at hkind ⊢
        apply ih patience' hkind hpile
        rw [List.length_append] at hfuel
        omega

/-! ## The whole list -/

/-- Run by run, a list is arranged. -/
theorem byRuns_eq (hless : Ranks less key kind) (hkind : ∀ a ∈ items, kind a) :
    ∃ result, byRuns less items = (result, none) ∧ Arranged key items result := by
  by_cases hitems : items = []
  · subst hitems
    refine ⟨[], ?_, .of_ascending .nil⟩
    simp [byRuns, nextRun, headRun, placeAll, pileRuns, Pile.items]
  · obtain ⟨front, back, run, hrun, rfl, harranged, hnonempty⟩ :=
      nextRun_eq hless hkind (leastRun items.length 0)
    have hpile : (Pile.mk [] run).Holds key front :=
      ⟨by simp, harranged.ascending, by simpa [Pile.items] using harranged.sameOrder⟩
    have hlength := List.length_pos_iff.mpr (hnonempty hitems)
    unfold byRuns
    dsimp only
    rw [hrun]
    apply pileRuns_eq hless _ _ _ _ hkind hpile
    rw [List.length_append]
    omega

/-- A list of items that the comparison ranks is arranged, and nothing stops it. -/
theorem arranged_eq (hless : Ranks less key kind) (hkind : ∀ a ∈ items, kind a)
    (isRanked : α → Bool) :
    ∃ result, arranged less isRanked items = (result, none) ∧ Arranged key items result := by
  unfold arranged
  split
  · refine ⟨_, rfl, ?_⟩
    have hranking : ∀ a ∈ items, ∀ b ∈ items,
        (!comesBefore less b a) = byKey key (id a) (id b) := by
      intro a ha b hb
      unfold comesBefore byKey
      rw [hless b a (hkind b hb) (hkind a ha), id, id]
      simp [← decide_not]
    have hsort := List.map_mergeSort hranking
    rw [List.map_id, List.map_id] at hsort
    rw [hsort]
    exact mergeSort_arranged items
  · exact byRuns_eq hless hkind

/-! ## The first of the least items -/

/-- The first item of a list with the least key. -/
def FirstLeast (key : α → κ) (items : List α) (m : α) : Prop :=
  ∃ front back, items = front ++ m :: back ∧ (∀ a ∈ front, key m < key a) ∧
    ∀ a ∈ back, key m ≤ key a

namespace FirstLeast

variable {m : α} {result : List α}

theorem mem (h : FirstLeast key items m) : m ∈ items := by
  obtain ⟨front, back, rfl, -, -⟩ := h
  simp

theorem le (h : FirstLeast key items m) : ∀ a ∈ items, key m ≤ key a := by
  obtain ⟨front, back, rfl, hfront, hback⟩ := h
  intro a ha
  rcases List.mem_append.mp ha with hmem | hmem
  · exact le_of_lt (hfront a hmem)
  · rcases List.mem_cons.mp hmem with rfl | hmem
    · exact le_refl _
    · exact hback a hmem

theorem head (h : FirstLeast key items m) (hresult : Arranged key items result) :
    result.head? = some m := by
  cases result with
  | nil => exact absurd (hresult.mem_iff.mpr h.mem) List.not_mem_nil
  | cons b bs =>
    have hkey : key b = key m := by
      apply le_antisymm
      · rcases List.mem_cons.mp (hresult.mem_iff.mpr h.mem) with rfl | hmem
        · exact le_refl _
        · exact List.rel_of_pairwise_cons hresult.ascending hmem
      · exact h.le b (hresult.mem_iff.mp List.mem_cons_self)
    obtain ⟨front, back, rfl, hfront, hback⟩ := h
    have hnone : front.filter (key · = key m) = [] := by
      rw [List.filter_eq_nil_iff]
      intro a ha
      simpa using (ne_of_lt (hfront a ha)).symm
    have hsame := hresult.sameOrder (key m)
    rw [List.filter_append, hnone, List.filter_cons_of_pos (by simpa using hkey),
      List.nil_append, List.filter_cons_of_pos (by simp), List.cons.injEq] at hsame
    rw [List.head?_cons, hsame.1]

end FirstLeast

theorem firstLeast_eq (hless : Ranks less key kind) (ha : kind a) (has : ∀ b ∈ as, kind b) :
    ∃ m, firstLeast less a as = .ok m ∧ FirstLeast key (a :: as) m := by
  induction as generalizing a with
  | nil => exact ⟨a, rfl, [], [], rfl, by simp, by simp⟩
  | cons b as ih =>
    have hb : kind b := has b (by simp)
    have hrest : ∀ c ∈ as, kind c := fun c hc => has c (by simp [hc])
    unfold firstLeast
    rw [hless b a hb ha]
    by_cases hlt : key b < key a
    · obtain ⟨m, hm, hleast⟩ := ih hb hrest
      refine ⟨m, ?_, ?_⟩
      · simp only [hlt, decide_true]
        exact hm
      · have hmb : key m ≤ key b := hleast.le b List.mem_cons_self
        obtain ⟨front, back, hitems, hfront, hback⟩ := hleast
        refine ⟨a :: front, back, by rw [hitems, List.cons_append], ?_, hback⟩
        intro c hc
        rcases List.mem_cons.mp hc with rfl | hmem
        · exact lt_of_le_of_lt hmb hlt
        · exact hfront c hmem
    · obtain ⟨m, hm, front, back, hitems, hfront, hback⟩ := ih ha hrest
      refine ⟨m, ?_, ?_⟩
      · simp only [hlt, decide_false]
        exact hm
      · have hab := not_lt.mp hlt
        cases front with
        | nil =>
          obtain ⟨rfl, rfl⟩ := List.cons.inj hitems
          refine ⟨[], b :: as, rfl, by simp, ?_⟩
          intro c hc
          rcases List.mem_cons.mp hc with rfl | hmem
          · exact hab
          · exact hback c hmem
        | cons a' front =>
          obtain ⟨rfl, rfl⟩ := List.cons.inj hitems
          refine ⟨a :: b :: front, back, by simp, ?_, hback⟩
          intro c hc
          have hma := hfront a List.mem_cons_self
          rcases List.mem_cons.mp hc with rfl | hmem
          · exact hma
          · rcases List.mem_cons.mp hmem with rfl | hmem
            · exact lt_of_lt_of_le hma hab
            · exact hfront c (List.mem_cons_of_mem a hmem)

theorem firstLeast_stays (h : ∀ b ∈ as, less b a = .ok false) : firstLeast less a as = .ok a := by
  induction as with
  | nil => rfl
  | cons b as ih =>
    rw [firstLeast, h b List.mem_cons_self]
    exact ih fun c hc => h c (List.mem_cons_of_mem b hc)

/-- Items that come before no item are passed over. -/
theorem firstLeast_filter {p : α → Bool}
    (h : ∀ b ∈ as, p b = false → ∀ c ∈ a :: as, less b c = .ok false) :
    firstLeast less a as = firstLeast less a (as.filter p) := by
  induction as generalizing a with
  | nil => rfl
  | cons b as ih =>
    have hkept : firstLeast less a as = firstLeast less a (as.filter p) := by
      apply ih
      intro b' hb' hp c hc
      apply h b' (List.mem_cons_of_mem b hb') hp
      rcases List.mem_cons.mp hc with rfl | hmem
      · exact List.mem_cons_self
      · exact List.mem_cons_of_mem a (List.mem_cons_of_mem b hmem)
    cases hb : p b with
    | false =>
      rw [List.filter_cons_of_neg (by simp [hb]), ← hkept, firstLeast,
        h b List.mem_cons_self hb a List.mem_cons_self]
      rfl
    | true =>
      have hnext : firstLeast less b as = firstLeast less b (as.filter p) := by
        apply ih
        intro b' hb' hp c hc
        exact h b' (List.mem_cons_of_mem b hb') hp c (List.mem_cons_of_mem a hc)
      rw [List.filter_cons_of_pos hb, firstLeast, firstLeast, hnext, hkept]

end Minimize.Arrange
