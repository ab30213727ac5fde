-- Whatever a comparison answers, and even if it fails, arranging a list neither
-- loses an item nor makes one up.
import Mathlib.Data.List.Perm.Basic
import Minimize.Proofs.Iteration

namespace Minimize.Arrange

variable {α ε : Type} {less : α → α → Except ε Bool} {s : Side} {a b : α}
  {as bs done rest items run result : List α}

/-! ## Merging -/

theorem Side.standing_perm (s : Side) (as bs : List α) : (s.standing as bs).Perm (as ++ bs) := by
  cases s
  · exact .refl _
  · exact List.perm_append_comm

theorem Side.rest_perm (s : Side) (as bs : List α) : (s.rest as bs).Perm (as ++ bs) := by
  cases s
  · exact List.perm_append_comm
  · exact .refl _

theorem stopped_perm (h : rest.Perm (as ++ bs)) :
    (done.reverse ++ rest).Perm (done ++ (as ++ bs)) :=
  (List.reverse_perm done).append h

/-- The head of the first run goes to what has gone. -/
theorem first_perm (h : items.Perm (a :: done ++ (as ++ bs))) :
    items.Perm (done ++ (a :: as ++ bs)) := h.trans List.perm_middle.symm

theorem second_perm (h : items.Perm (b :: done ++ (as ++ bs))) :
    items.Perm (done ++ (as ++ b :: bs)) := by
  apply h.trans
  rw [← List.append_assoc, ← List.append_assoc done]
  exact List.perm_middle.symm

/-- So many items from the head of the first run go to what has gone. -/
theorem firsts_perm (n : Nat)
    (h : items.Perm ((as.take n).reverse ++ done ++ (as.drop n ++ bs))) :
    items.Perm (done ++ (as ++ bs)) := by
  apply h.trans
  have hhead : ((as.take n).reverse ++ done).Perm (done ++ as.take n) :=
    ((List.reverse_perm _).append_right done).trans List.perm_append_comm
  have hall := hhead.append_right (as.drop n ++ bs)
  rwa [List.append_assoc done, ← List.append_assoc (as.take n), List.take_append_drop] at hall

theorem seconds_perm (m : Nat)
    (h : items.Perm ((bs.take m).reverse ++ done ++ (as ++ bs.drop m))) :
    items.Perm (done ++ (as ++ bs)) := by
  have hswap : (done ++ (bs ++ as)).Perm (done ++ (as ++ bs)) :=
    List.perm_append_comm.append_left done
  apply (firsts_perm m _).trans hswap
  exact h.trans (List.perm_append_comm.append_left _)

/-- Both ways of merging keep the items of two runs. -/
def Keeps (less : α → α → Except ε Bool) (s : Side) (as bs : List α) : Prop :=
  ∀ patience done,
    (∀ wonA wonB, (mergeSingly less s patience wonA wonB done as bs).items.Perm
      (done ++ (as ++ bs))) ∧
    (mergeBlocks less s patience done as bs).items.Perm (done ++ (as ++ bs))

theorem singly_keeps
    (hsmaller : ∀ as' bs', as'.length + bs'.length < as.length + bs.length → Keeps less s as' bs')
    (patience wonA wonB : Nat) (done : List α) :
    (mergeSingly less s patience wonA wonB done as bs).items.Perm (done ++ (as ++ bs)) := by
  rw [mergeSingly.eq_def]
  split
  · rename_i a as b bs
    split
    · exact stopped_perm (s.rest_perm _ _)
    · split
      · exact stopped_perm (s.standing_perm _ _)
      · have hrest : Keeps less s (a :: as) bs := hsmaller _ _ (by simp)
        apply second_perm
        split
        · exact (hrest patience (b :: done)).2
        · exact (hrest patience (b :: done)).1 0 (wonB + 1)
      · have hrest : Keeps less s as (b :: bs) := hsmaller _ _ (by simp)
        apply first_perm
        split
        · exact (hrest patience (a :: done)).2
        · exact (hrest patience (a :: done)).1 (wonA + 1) 0
  · exact stopped_perm (s.rest_perm _ _)

theorem blocks_keep
    (hsmaller : ∀ as' bs', as'.length + bs'.length < as.length + bs.length → Keeps less s as' bs')
    (patience : Nat) (done : List α) :
    (mergeBlocks less s patience done as bs).items.Perm (done ++ (as ++ bs)) := by
  rw [mergeBlocks.eq_def]
  split
  · exact stopped_perm (s.rest_perm _ _)
  cases bs with
  | nil =>
    apply stopped_perm
    rw [List.append_nil]
  | cons b bs =>
    dsimp only
    split
    · exact stopped_perm (s.standing_perm _ _)
    · rename_i n _
      apply firsts_perm n
      split
      · exact stopped_perm (s.rest_perm _ _)
      apply second_perm
      split
      · exact stopped_perm (s.rest_perm _ _)
      split
      · rename_i hdrop
        rw [hdrop]
        exact stopped_perm (.refl _)
      · rename_i a as' hdrop
        rw [hdrop]
        split
        · exact stopped_perm (s.standing_perm _ _)
        · rename_i m _
          apply seconds_perm m
          split
          · exact stopped_perm (s.rest_perm _ _)
          · have hrest : Keeps less s as' (bs.drop m) := by
              have hlength := congrArg List.length hdrop
              rw [List.length_drop, List.length_cons] at hlength
              apply hsmaller
              rw [List.length_drop, List.length_cons]
              omega
            apply first_perm
            split
            · exact (hrest _ _).2
            · exact (hrest _ _).1 0 0

theorem keeps (less : α → α → Except ε Bool) (s : Side) (as bs : List α) : Keeps less s as bs := by
  have hsmaller : ∀ as' bs', as'.length + bs'.length < as.length + bs.length →
      Keeps less s as' bs' := fun as' bs' _ => keeps less s as' bs'
  exact fun patience done => ⟨fun wonA wonB => singly_keeps hsmaller patience wonA wonB done,
    blocks_keep hsmaller patience done⟩
  termination_by as.length + bs.length

theorem mergeFrom_perm (less : α → α → Except ε Bool) (patience : Nat) (as bs : List α) :
    (mergeFrom less patience as bs).items.Perm (as ++ bs) := by
  unfold mergeFrom
  split
  · cases bs with
    | nil => rw [List.append_nil]
    | cons b bs =>
      have hitems := (keeps less .front as bs patience [b]).1 0 0
      rw [List.singleton_append] at hitems
      exact hitems.trans List.perm_middle.symm
  · split
    · rename_i hnil
      rw [List.reverse_eq_nil_iff] at hnil
      rw [hnil]
      exact .refl _
    · rename_i a as' hcons
      have hitems := (keeps less .back as' bs.reverse patience [a]).1 0 0
      rw [← List.append_assoc] at hitems
      have hfirst : ([a] ++ as').Perm as := by
        rw [List.singleton_append, ← hcons]
        exact List.reverse_perm as
      exact (List.reverse_perm _).trans (hitems.trans (hfirst.append (List.reverse_perm bs)))

theorem merge_perm (less : α → α → Except ε Bool) (patience : Nat) (as bs : List α) :
    (merge less patience as bs).items.Perm (as ++ bs) := by
  unfold merge
  dsimp only
  split
  · rename_i hnone
    rw [List.head?_eq_none_iff] at hnone
    rw [hnone, List.append_nil]
  · split
    · exact .refl _
    · rename_i n _
      split
      · exact .refl _
      · split
        · exact .refl _
        · exact .refl _
        · rename_i m _ _
          have hmid := mergeFrom_perm less patience (as.drop n) (bs.take m)
          have hall := (hmid.append_left (as.take n)).append_right (bs.drop m)
          rwa [← List.append_assoc (as.take n), List.take_append_drop, List.append_assoc as,
            List.take_append_drop] at hall

/-! ## Runs -/

theorem headRun_perm (h : headRun less items = .ok (run, rest)) : (run ++ rest).Perm items := by
  match items, h with
  | [], h =>
    cases h
    exact .refl _
  | [a], h =>
    cases h
    exact .refl _
  | a :: b :: items, h =>
    obtain ⟨falls, -, h⟩ := bind_ok h
    split at h
    · obtain ⟨n, -, h⟩ := bind_ok h
      cases h
      have hrun := (List.reverse_perm (a :: b :: items.take n)).append_right (items.drop n)
      simpa using hrun
    · obtain ⟨n, -, h⟩ := bind_ok h
      cases h
      simp

theorem place_perm (items : List α) {result : List α} (h : place less a items = .ok result) :
    result.Perm (a :: items) := by
  have hsmaller : ∀ l r : List α, l.length < items.length → place less a l = .ok r →
      r.Perm (a :: l) := fun l _ _ => place_perm l
  rw [place] at h
  have hitems := List.take_append_drop (items.length / 2) items
  generalize items.take (items.length / 2) = front at h hitems
  split at h
  · rename_i hdrop
    rw [List.drop_eq_nil_iff] at hdrop
    obtain rfl : items = [] := by
      apply List.eq_nil_of_length_eq_zero
      omega
    cases h
    exact .refl _
  · rename_i m back hdrop
    rw [hdrop] at hitems
    clear hdrop
    subst hitems
    obtain ⟨before, -, h⟩ := bind_ok h
    split at h
    · obtain ⟨r, hr, h⟩ := bind_ok h
      cases h
      exact (hsmaller front r (by simp) hr).append_right (m :: back)
    · obtain ⟨r, hr, h⟩ := bind_ok h
      cases h
      have hback := (hsmaller back r (by simp; omega) hr).append_left (front ++ [m])
      have hmiddle : (front ++ [m] ++ a :: back).Perm (a :: (front ++ [m] ++ back)) :=
        List.perm_middle
      simpa using hback.trans hmiddle
  termination_by items.length

theorem placeAll_perm (less : α → α → Except ε Bool) (items as : List α) :
    (placeAll less items as).1.Perm (items ++ as) := by
  induction as generalizing items with
  | nil => simp [placeAll]
  | cons a as ih =>
    unfold placeAll
    split
    · rename_i items' hitems'
      apply (ih items').trans
      apply ((place_perm items hitems').append_right as).trans
      exact List.perm_middle.symm
    · exact .refl _

theorem nextRun_perm (less : α → α → Except ε Bool) (least : Nat) (items : List α) :
    ((nextRun less least items).1 ++ (nextRun less least items).2.1).Perm items := by
  unfold nextRun
  split
  · rw [List.append_nil]
  · rename_i run rest hrun
    dsimp only
    have hplaced := placeAll_perm less run (rest.take (least - run.length))
    have hall := hplaced.append_right (rest.drop (least - run.length))
    rw [List.append_assoc run, List.take_append_drop] at hall
    exact hall.trans (headRun_perm hrun)

/-! ## Runs on a pile -/

variable {below : List (Nat × List α)} {top : List α} {p q : Nat}

theorem Pile.top_perm (p : Nat) (h : result.Perm (run ++ top)) :
    (Pile.mk below result).items.Perm (Pile.mk ((p, run) :: below) top).items := by
  have hall := h.append_left (below.reverse.flatMap (·.2))
  simpa [Pile.items] using hall

theorem Pile.below_perm {second third : List α} (h : result.Perm (third ++ second)) :
    (Pile.mk ((q, result) :: below) top).items.Perm
      (Pile.mk ((p, second) :: (q, third) :: below) top).items := by
  have hall := (h.append_left (below.reverse.flatMap (·.2))).append_right top
  simpa [Pile.items] using hall

theorem mergeDeeper_perm (less : α → α → Except ε Bool) (limit patience : Nat) (top : List α)
    (below : List (Nat × List α)) :
    (mergeDeeper less limit patience top below).pile.items.Perm (Pile.mk below top).items := by
  induction below generalizing top patience with
  | nil => exact .refl _
  | cons r below ih =>
    obtain ⟨p, run⟩ := r
    unfold mergeDeeper
    have hmerge := merge_perm less patience run top
    split
    · split
      · rename_i items patience' heq
        rw [heq] at hmerge
        exact (ih patience' items).trans (Pile.top_perm p hmerge)
      · rename_i items patience' e heq
        rw [heq] at hmerge
        exact Pile.top_perm p hmerge
    · exact .refl _

theorem mergeAll_perm (less : α → α → Except ε Bool) (patience : Nat) (top : List α)
    (below : List (Nat × List α)) :
    (mergeAll less patience top below).pile.items.Perm (Pile.mk below top).items := by
  match below with
  | [] =>
    rw [mergeAll]
  | [(p, run)] =>
    rw [mergeAll]
    exact Pile.top_perm p (merge_perm less patience run top)
  | (p, second) :: (q, third) :: below =>
    rw [mergeAll]
    split
    · have hmerge := merge_perm less patience third second
      split
      · rename_i items patience' heq
        rw [heq] at hmerge
        exact (mergeAll_perm less patience' top _).trans (Pile.below_perm hmerge)
      · rename_i items patience' e heq
        rw [heq] at hmerge
        exact Pile.below_perm hmerge
    · have hmerge := merge_perm less patience second top
      split
      · rename_i items patience' heq
        rw [heq] at hmerge
        exact (mergeAll_perm less patience' items _).trans (Pile.top_perm p hmerge)
      · rename_i items patience' e heq
        rw [heq] at hmerge
        exact Pile.top_perm p hmerge
  termination_by below.length

/-- A pile has one more run unless a merge has failed. -/
theorem addRun_perm (less : α → α → Except ε Bool) (length patience : Nat) (pile : Pile α)
    (run : List α) :
    (addRun less length patience pile run).pile.items.Perm
      (match (addRun less length patience pile run).trouble? with
        | none => pile.items ++ run
        | some _ => pile.items) := by
  unfold addRun
  dsimp only
  generalize power length _ _ _ = limit
  have hmerged := mergeDeeper_perm less limit patience pile.top pile.below
  split
  · rename_i merged patience' heq
    rw [heq] at hmerged
    have hall := hmerged.append_right run
    simpa [Pile.items] using hall
  · rename_i hstopped
    cases htrouble : (mergeDeeper less limit patience pile.top pile.below).trouble? with
    | none => exact absurd (by rw [← htrouble]) (hstopped _ _)
    | some e => exact hmerged

theorem pileRuns_perm (less : α → α → Except ε Bool) (length least fuel patience : Nat)
    (pile : Pile α) (rest : List α) :
    (pileRuns less length least fuel patience pile rest).1.Perm (pile.items ++ rest) := by
  induction fuel generalizing patience pile rest with
  | zero => exact .refl _
  | succ fuel ih =>
    unfold pileRuns
    split
    · rename_i hrest
      rw [List.isEmpty_iff] at hrest
      rw [hrest, List.append_nil]
      exact mergeAll_perm less patience pile.top pile.below
    · have hrun := nextRun_perm less least rest
      split
      · rename_i run back e heq
        rw [heq] at hrun
        rw [List.append_assoc]
        exact hrun.append_left pile.items
      · rename_i run back heq
        rw [heq] at hrun
        have hadded := addRun_perm less length patience pile run
        have hall : (pile.items ++ run ++ back).Perm (pile.items ++ rest) := by
          rw [List.append_assoc]
          exact hrun.append_left pile.items
        split
        · rename_i added patience' hadd
          rw [hadd] at hadded
          exact (ih patience' added back).trans ((hadded.append_right back).trans hall)
        · rename_i added patience' e hadd
          rw [hadd] at hadded
          exact ((hadded.append_right run).append_right back).trans hall

/-! ## The whole list -/

theorem byRuns_perm (less : α → α → Except ε Bool) (items : List α) :
    (byRuns less items).1.Perm items := by
  unfold byRuns
  dsimp only
  have hrun := nextRun_perm less (leastRun items.length 0) items
  split
  · rename_i run rest e heq
    rw [heq] at hrun
    exact hrun
  · rename_i run rest heq
    rw [heq] at hrun
    apply (pileRuns_perm less _ _ _ _ (Pile.mk [] run) rest).trans
    exact hrun

/-- An arrangement has the items of the list, each as often as it, whatever stopped
it. -/
theorem arranged_perm (less : α → α → Except ε Bool) (isRanked : α → Bool) (items : List α) :
    (arranged less isRanked items).1.Perm items := by
  unfold arranged
  split
  · exact List.mergeSort_perm items _
  · exact byRuns_perm less items

theorem firstLeast_mem {m : α} (h : firstLeast less a as = .ok m) : m ∈ a :: as := by
  induction as generalizing a with
  | nil =>
    cases h
    exact List.mem_cons_self
  | cons b as ih =>
    obtain ⟨before, -, h⟩ := bind_ok h
    split at h
    · exact List.mem_cons_of_mem a (ih h)
    · rcases List.mem_cons.mp (ih h) with rfl | hmem
      · exact List.mem_cons_self
      · exact List.mem_cons_of_mem a (List.mem_cons_of_mem b hmem)

end Minimize.Arrange
