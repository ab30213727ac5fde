-- Records laid over each other. A table is told by its names in their order
-- and by what is read under each, and both are plain to see where tables lie
-- over each other. So it does not matter which of three are laid together
-- first, nor, in a notebook, under which names the parts are kept meanwhile.
import Minimize.Notebook
import Minimize.Proofs.Layers

namespace Minimize

namespace Table

variable {α β : Type}

/-! ## What a table is told by -/

theorem get?_of_mem {t : Table α} {e : String × α} (h : e ∈ t.entries) :
    t.get? e.1 = some e.2 := by
  obtain ⟨es, hdistinct⟩ := t
  unfold get?
  dsimp only at h ⊢
  induction es with
  | nil => cases h
  | cons f es ih =>
    rw [List.map_cons, List.nodup_cons] at hdistinct
    rcases List.mem_cons.mp h with rfl | hmem
    · simp
    · have hne : f.1 ≠ e.1 := fun hsame => hdistinct.1 (hsame ▸ List.mem_map_of_mem hmem)
      rw [List.find?_cons]
      simp only [hne, decide_false]
      exact ih hdistinct.2 hmem

/-- A table is its names, each with what is read under it. -/
theorem entries_eq (t : Table α) :
    t.entries = t.keys.filterMap fun k => (t.get? k).map fun v => (k, v) := by
  have hread : ∀ e ∈ t.entries, ((t.get? e.1).map fun v => (e.1, v)) = some e := by
    intro e he
    rw [get?_of_mem he]
    rfl
  unfold keys
  rw [List.filterMap_map]
  calc t.entries = t.entries.filterMap some := List.filterMap_some.symm
    _ = _ := List.filterMap_congr fun e he => (hread e he).symm

/-- Tables with the same names in the same order, under which the same is read,
are one. -/
theorem eq_of_reads {t u : Table α} (hkeys : t.keys = u.keys) (hget : ∀ k, t.get? k = u.get? k) :
    t = u := by
  apply ext
  rw [t.entries_eq, u.entries_eq, hkeys]
  simp only [hget]

/-! ## Tables over tables -/

theorem mem_keys_merge {t u : Table α} {k : String} :
    k ∈ (t.merge u).keys ↔ k ∈ t.keys ∨ k ∈ u.keys := by
  rw [keys_merge, List.mem_append, List.mem_filter]
  by_cases h : k ∈ t.keys <;> simp [h]

/-- Of three tables, it does not matter which two are laid together first. -/
theorem merge_assoc (t u v : Table α) : (t.merge u).merge v = t.merge (u.merge v) := by
  refine eq_of_reads ?_ fun k => ?_
  · have hnew : (v.keys.filter fun k => k ∉ (t.merge u).keys) =
        (v.keys.filter fun k => k ∉ u.keys).filter fun k => k ∉ t.keys := by
      rw [List.filter_filter]
      refine List.filter_congr fun k _ => ?_
      simp [mem_keys_merge]
    rw [keys_merge, hnew, keys_merge t u, keys_merge t, keys_merge u v, List.filter_append,
      List.append_assoc]
  · simp only [get?_merge, Option.or_assoc]

theorem merge_empty (t : Table α) : t.merge empty = t := rfl

theorem empty_merge (t : Table α) : empty.merge t = t :=
  ext (entries_ofList t.distinct)

/-- What lies on top already changes nothing when it is laid there again. -/
theorem merge_again (t u : Table α) : (t.merge u).merge u = t.merge u := by
  refine eq_of_reads ?_ fun k => ?_
  · have hnone : (u.keys.filter fun k => k ∉ (t.merge u).keys) = [] := by
      rw [List.filter_eq_nil_iff]
      intro k hk
      simp [mem_keys_merge, hk]
    rw [keys_merge, hnone, List.append_nil]
  · rw [get?_merge, get?_merge]
    cases u.get? k <;> simp

theorem keys_map (f : α → β) (t : Table α) : (t.map f).keys = t.keys := by
  unfold keys map
  rw [List.map_map]
  rfl

/-- Changed values can be laid over each other before or after the change. -/
theorem map_merge (f : α → β) (t u : Table α) : (t.merge u).map f = (t.map f).merge (u.map f) := by
  refine eq_of_reads ?_ fun k => ?_
  · simp only [keys_map, keys_merge]
  · simp only [get?_map, get?_merge]
    cases u.get? k <;> simp

end Table

/-! ## Notebooks -/

theorem Note.same_self (n : Note) : n.same n = true := by
  unfold Note.same
  have hzip : ∀ es : List (String × Nat × Scalar),
      ((es.zip es).all fun p => sameEntry p.1 p.2) = true := by
    intro es
    induction es with
    | nil => rfl
    | cons e es ih =>
      rw [List.zip_cons_cons, List.all_cons, ih]
      simp [sameEntry]
  rw [Bool.and_eq_true]
  exact ⟨beq_self_eq_true _, hzip _⟩

namespace Notebook

variable {book : Notebook} {x y : String} {n m : Note}

theorem note_insert (notes : Table Note) (changes : Nat) (target : String) (n : Note)
    (name : String) : note ⟨notes.insert target n, changes⟩ name =
      if name = target then .ok n else note ⟨notes, changes⟩ name := by
  unfold note
  rw [Table.get?_insert]
  by_cases h : name = target <;> simp [h]

theorem record_of_note (h : book.note x = .ok n) : book.record x = .ok n.record := by
  unfold record
  rw [h]
  rfl

theorem note_of_record {r : Record} (h : book.record x = .ok r) :
    ∃ n, book.note x = .ok n ∧ n.record = r := map_ok h

theorem same_of_note (hx : book.note x = .ok n) (hy : book.note y = .ok n) :
    book.same x y = .ok true := by
  unfold same
  rw [hx, hy]
  exact congrArg Except.ok n.same_self

/-- How a notebook comes out of another if a note is written under a name:
under that name it has the note, and under every other what it had before. -/
structure Gains (book : Notebook) (target : String) (n : Note) (book' : Notebook) : Prop where
  written : book'.note target = .ok n
  elsewhere : ∀ s : String, s ≠ target → book'.note s = book.note s

theorem gains_insert (book : Notebook) (target : String) (n : Note) :
    book.Gains target n { book with notes := book.notes.insert target n } where
  written := by rw [note_insert, if_pos rfl]
  elsewhere s hs := by rw [note_insert, if_neg hs]

theorem lay_some (hx : book.note x = .ok n) (hy : book.note y = .ok m) (target : String) :
    ∃ book', book.lay x (some y) target = .ok book' ∧ book.Gains target (n.merge m) book' := by
  refine ⟨_, ?_, book.gains_insert target (n.merge m)⟩
  unfold lay
  rw [hx]
  show Except.bind ((book.note y).map some) _ = _
  rw [hy]
  rfl

theorem lay_none (hx : book.note x = .ok n) (target : String) :
    ∃ book', book.lay x none target = .ok book' ∧ book.Gains target n book' := by
  refine ⟨_, ?_, book.gains_insert target n⟩
  unfold lay
  rw [hx]
  rfl

/-- Three records laid together in both ways, with a name for each part. -/
def layBothWays (book : Notebook) (x y z : String) (first left second right : String) :
    Except Slip Notebook := do
  let book ← book.lay x (some y) first
  let book ← book.lay first (some z) left
  let book ← book.lay y (some z) second
  book.lay x (some second) right

/-- Both ways come to the same record, whatever the notebook holds under the
names that are given to the parts, and the three records stay. -/
theorem layBothWays_ok {z : String} {l : Note} (hx : book.note x = .ok n) (hy : book.note y = .ok m)
    (hz : book.note z = .ok l) {first left second right : String}
    (hparts : [first, left, second, right].Nodup)
    (hapart : ∀ s ∈ [x, y, z], s ∉ [first, left, second, right]) :
    ∃ book', book.layBothWays x y z first left second right = .ok book' ∧
      book'.note left = .ok ((n.merge m).merge l) ∧ book'.note right = book'.note left ∧
      ∀ s, s ∉ [first, left, second, right] → book'.note s = book.note s := by
  simp only [List.nodup_cons, List.mem_cons, List.not_mem_nil, or_false, not_or,
    not_false_eq_true, List.nodup_nil, and_true] at hparts
  obtain ⟨⟨hfl, hfs, hfr⟩, ⟨hls, hlr⟩, hsr⟩ := hparts
  have hout : ∀ s, s ∉ [first, left, second, right] →
      s ≠ first ∧ s ≠ left ∧ s ≠ second ∧ s ≠ right := by
    intro s hs
    simpa using hs
  obtain ⟨hx₁, hx₂, hx₃, -⟩ := hout x (hapart x (by simp))
  obtain ⟨hy₁, hy₂, -, -⟩ := hout y (hapart y (by simp))
  obtain ⟨hz₁, hz₂, -, -⟩ := hout z (hapart z (by simp))
  obtain ⟨book₁, hlay₁, hgains₁⟩ := lay_some hx hy first
  obtain ⟨book₂, hlay₂, hgains₂⟩ :=
    lay_some hgains₁.written ((hgains₁.elsewhere z hz₁).trans hz) left
  have hkept₂ : ∀ s, s ≠ first → s ≠ left → book₂.note s = book.note s := fun s h₁ h₂ =>
    (hgains₂.elsewhere s h₂).trans (hgains₁.elsewhere s h₁)
  obtain ⟨book₃, hlay₃, hgains₃⟩ :=
    lay_some ((hkept₂ y hy₁ hy₂).trans hy) ((hkept₂ z hz₁ hz₂).trans hz) second
  have hx' : book₃.note x = .ok n :=
    ((hgains₃.elsewhere x hx₃).trans (hkept₂ x hx₁ hx₂)).trans hx
  obtain ⟨book₄, hlay₄, hgains₄⟩ := lay_some hx' hgains₃.written right
  have hleft : book₄.note left = .ok ((n.merge m).merge l) := by
    rw [hgains₄.elsewhere left hlr, hgains₃.elsewhere left hls]
    exact hgains₂.written
  refine ⟨book₄, ?_, hleft, ?_, fun s hs => ?_⟩
  · unfold layBothWays
    rw [hlay₁]
    show (do
      let book ← book₁.lay first (some z) left
      let book ← book.lay y (some z) second
      book.lay x (some second) right) = _
    rw [hlay₂]
    show (do
      let book ← book₂.lay y (some z) second
      book.lay x (some second) right) = _
    rw [hlay₃]
    exact hlay₄
  · rw [hgains₄.written, hleft, Table.merge_assoc]
  · obtain ⟨h₁, h₂, h₃, h₄⟩ := hout s hs
    rw [hgains₄.elsewhere s h₄, hgains₃.elsewhere s h₃, hkept₂ s h₁ h₂]

/-! ## The law -/

/-- Records that lie over each other are as if they had been laid together in
any grouping, and the empty record is as if it were not there. Of two records the
names of the lower come first, in their order, and then those that only the
upper has, in theirs, none twice; what is read is of the upper where it has the
name. What lies on top already changes nothing when it is laid there again. So
it is in every notebook: what is laid over a record comes under the name meant
for it, both ways of laying three records together give the same entries, even
if one is no number, and the records that they were made of stay. -/
theorem the_grouping_of_layers_does_not_matter (a b c : Record) :
    (a.merge b).merge c = a.merge (b.merge c) ∧
      Table.empty.merge a = a ∧ a.merge .empty = a ∧ (a.merge b).merge b = a.merge b ∧
      (∀ k, (a.merge b).get? k = (b.get? k).or (a.get? k)) ∧
      (a.merge b).keys = (a.keys ++ b.keys.filter fun k => k ∉ a.keys) ∧
      (a.merge b).keys.Nodup ∧
      ∀ (book : Notebook) (x y z : String),
        book.record x = .ok a → book.record y = .ok b → book.record z = .ok c →
        (∀ target, ∃ book', book.lay x (some y) target = .ok book' ∧
          book'.record target = .ok (a.merge b) ∧
          ∀ s, s ≠ target → book'.note s = book.note s) ∧
        (∀ target, ∃ book', book.lay x none target = .ok book' ∧
          book'.record target = .ok a ∧ book'.note target = book.note x ∧
          ∀ s, s ≠ target → book'.note s = book.note s) ∧
        ∀ first left second right, [first, left, second, right].Nodup →
          (∀ s ∈ [x, y, z], s ∉ [first, left, second, right]) →
          ∃ book', book.layBothWays x y z first left second right = .ok book' ∧
            book'.record left = .ok ((a.merge b).merge c) ∧ book'.same left right = .ok true ∧
            ∀ s, s ∉ [first, left, second, right] → book'.note s = book.note s := by
  refine ⟨Table.merge_assoc a b c, Table.empty_merge a, Table.merge_empty a,
    Table.merge_again a b, Table.get?_merge a b, Table.keys_merge a b, (a.merge b).distinct, ?_⟩
  intro book x y z hx hy hz
  obtain ⟨n, hnote, rfl⟩ := note_of_record hx
  obtain ⟨m, hnote', rfl⟩ := note_of_record hy
  obtain ⟨l, hnote'', rfl⟩ := note_of_record hz
  refine ⟨fun target => ?_, fun target => ?_, fun first left second right hparts hapart => ?_⟩
  · obtain ⟨book', hlay, hgains⟩ := lay_some hnote hnote' target
    refine ⟨book', hlay, ?_, hgains.elsewhere⟩
    rw [record_of_note hgains.written]
    exact congrArg Except.ok (Table.map_merge _ n m)
  · obtain ⟨book', hlay, hgains⟩ := lay_none hnote target
    exact ⟨book', hlay, record_of_note hgains.written, hgains.written.trans hnote.symm,
      hgains.elsewhere⟩
  · obtain ⟨book', hlay, hleft, hright, hkept⟩ := layBothWays_ok hnote hnote' hnote'' hparts hapart
    refine ⟨book', hlay, ?_, same_of_note hleft (hright.trans hleft), hkept⟩
    rw [record_of_note hleft]
    unfold Note.record
    rw [Table.map_merge, Table.map_merge]

def threeRecords : Notebook :=
  ((empty.enter "x" (Table.ofList [("u", .float (Number.ofDatum .notNumber)), ("v", .int 1)])).enter
    "y" (Table.ofList [("w", .bool true), ("v", .int 2)])).enter
    "z" (Table.ofList [("t", .text "end"), ("w", .bool false)])

/-- The law for these: what is no number stands in front in both ways, and
the record that holds it stays. -/
theorem what_is_no_number_is_laid_alike :
    ∃ book', threeRecords.layBothWays "x" "y" "z" "first" "left" "second" "right" = .ok book' ∧
      book'.record "left" = .ok (Table.ofList [("u", .float (Number.ofDatum .notNumber)),
        ("v", .int 2), ("w", .bool false), ("t", .text "end")]) ∧
      book'.same "left" "right" = .ok true ∧ book'.note "x" = threeRecords.note "x" := by
  obtain ⟨-, -, -, -, -, -, -, hbooks⟩ := the_grouping_of_layers_does_not_matter
    (Table.ofList [("u", .float (Number.ofDatum .notNumber)), ("v", .int 1)])
    (Table.ofList [("w", .bool true), ("v", .int 2)])
    (Table.ofList [("t", .text "end"), ("w", .bool false)])
  obtain ⟨-, -, hways⟩ := hbooks threeRecords "x" "y" "z" rfl rfl rfl
  obtain ⟨book', hlay, hleft, hsame, hkept⟩ :=
    hways "first" "left" "second" "right" (by decide) (by decide)
  exact ⟨book', hlay, hleft, hsame, hkept "x" (by decide)⟩

end Notebook

end Minimize
