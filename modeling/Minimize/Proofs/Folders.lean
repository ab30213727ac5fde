-- What the operations on a folder come to, on a disk that may refuse any of
-- them. A file is written whole or not at all, and whatever is left behind
-- under a passing name is taken for no checkpoint. So a save puts both files,
-- the payload alone, or nothing; and a deletion takes away both, the payload
-- alone, or nothing.
import Mathlib
import Minimize.Checkpoint.Directory
import Minimize.Proofs.Likeness
import Minimize.Proofs.Iteration

namespace Minimize

variable {τ : Type}

/-! ## Names -/

/-- A name that ends in a digit, as all passing names do. -/
def Passing (name : String) : Prop := ∃ c, name.toList.getLast? = some c ∧ c.isDigit = true

theorem passing_passingName (d : Folder τ) (name : String) : Passing (d.passingName name) := by
  have hdigits : (toString d.operations).toList = Nat.toDigits 10 d.operations := by
    rw [Nat.toString_eq_repr, Nat.toList_repr]
  obtain ⟨c, hc⟩ := List.getLast?_isSome.mpr (Nat.toDigits_ne_nil (b := 10) (n := d.operations)) |>
    Option.isSome_iff_exists.mp
  refine ⟨c, ?_, Nat.isDigit_of_mem_toDigits (by decide) (by decide) (List.mem_of_getLast? hc)⟩
  unfold Folder.passingName
  rw [String.toList_append, hdigits, List.getLast?_append, hc]
  rfl

namespace Checkpoint.Directory

variable {k k' : String}

theorem getLast?_payloadName (k : String) : (payloadName k).toList.getLast? = some 't' := by
  unfold payloadName
  rw [String.toList_append, List.getLast?_append]
  rfl

theorem getLast?_infoName (k : String) : (infoName k).toList.getLast? = some 'n' := by
  unfold infoName
  rw [String.toList_append, List.getLast?_append]
  rfl

theorem not_passing_payloadName (k : String) : ¬ Passing (payloadName k) := by
  rintro ⟨c, hc, hdigit⟩
  rw [getLast?_payloadName] at hc
  cases hc
  cases hdigit

theorem not_passing_infoName (k : String) : ¬ Passing (infoName k) := by
  rintro ⟨c, hc, hdigit⟩
  rw [getLast?_infoName] at hc
  cases hc
  cases hdigit

theorem payloadName_inj : payloadName k = payloadName k' ↔ k = k' := String.append_left_inj _

theorem infoName_inj : infoName k = infoName k' ↔ k = k' := String.append_left_inj _

theorem payloadName_ne_infoName (k k' : String) : payloadName k ≠ infoName k' := by
  intro h
  have hlast := getLast?_payloadName k
  rw [h, getLast?_infoName] at hlast
  cases hlast

theorem endsWith_iff (s p : String) : s.endsWith p = true ↔ p.toList <:+ s.toList := by
  rw [String.endsWith_eq_endsWith_toSlice, String.Slice.endsWith_string_iff, String.copy_toSlice]

/-- The key of a payload file is read off its name. A file with nothing before
its ending is the only other one that is taken for a payload. -/
theorem keyOfName?_eq_some {name : String} : keyOfName? name = some k ↔
    (name = ".ckpt" ∧ k = ".ckpt") ∨ (name = payloadName k ∧ k ≠ "") := by
  unfold keyOfName?
  split
  · rename_i hname
    constructor
    · intro h
      exact .inl ⟨hname, hname ▸ (Option.some.inj h).symm⟩
    · rintro (⟨_, rfl⟩ | ⟨h, hk⟩)
      · rw [hname]
      · have hempty : payloadName k = payloadName "" := h.symm.trans hname
        exact (hk (payloadName_inj.mp hempty)).elim
  · rename_i hname
    have htake (t : String) : String.ofList
        ((payloadName t).toList.take ((payloadName t).length - 5)) = t := by
      have hlength : (payloadName t).length - 5 = t.toList.length := by
        unfold payloadName
        rw [String.length_append]
        exact Nat.add_sub_cancel t.length 5
      unfold payloadName at hlength ⊢
      rw [hlength, String.toList_append, List.take_left, String.ofList_toList]
    split
    · rename_i hends
      obtain ⟨cs, hcs⟩ := (endsWith_iff _ _).mp hends
      obtain ⟨t, rfl⟩ : ∃ t, name = payloadName t := by
        refine ⟨String.ofList cs, String.toList_inj.mp ?_⟩
        unfold payloadName
        rw [String.toList_append, String.toList_ofList, hcs]
      rw [htake, Option.some.injEq]
      constructor
      · rintro rfl
        refine .inr ⟨rfl, ?_⟩
        rintro rfl
        exact hname rfl
      · rintro (⟨h, _⟩ | ⟨h, _⟩)
        · exact (hname h).elim
        · exact payloadName_inj.mp h
    · rename_i hends
      constructor
      · exact fun h => nomatch h
      · rintro (⟨h, _⟩ | ⟨rfl, _⟩)
        · exact (hname h).elim
        · refine (hends ((endsWith_iff _ _).mpr ?_)).elim
          unfold payloadName
          rw [String.toList_append]
          exact List.suffix_append _ _

end Checkpoint.Directory

namespace Table

variable {α : Type}

theorem contains_eq (t : Table α) (k : String) : t.contains k = (t.get? k).isSome := by
  unfold contains get?
  rw [Option.isSome_map, List.isSome_find?]

theorem get?_insert (t : Table α) (k : String) (v : α) (k' : String) :
    (t.insert k v).get? k' = if k' = k then some v else t.get? k' := by
  split
  · rename_i h
    rw [h, get?_insert_self]
  · rename_i h
    rw [get?_insert_ne _ _ h]

theorem mem_keys {t : Table α} {k : String} : k ∈ t.keys ↔ (t.get? k).isSome = true := by
  rw [← contains_eq]
  unfold keys contains
  rw [List.any_eq_true, List.mem_map]
  simp only [decide_eq_true_eq]

end Table

/-! ## One operation -/

namespace Folder

variable {d d' e e' : Folder τ} {name : String} {b : FileBody τ}

/-- The same folder but for passing files and the count of the operations. -/
structure Matches (d e : Folder τ) : Prop where
  present : e.isPresent = d.isPresent
  plan : e.refuses = d.refuses
  files : ∀ n, ¬ Passing n → e.files.get? n = d.files.get? n

theorem Matches.refl (d : Folder τ) : d.Matches d := ⟨rfl, rfl, fun _ _ => rfl⟩

theorem Matches.trans (h : d.Matches d') (h' : d'.Matches e) : d.Matches e :=
  ⟨h'.present.trans h.present, h'.plan.trans h.plan,
    fun n hn => (h'.files n hn).trans (h.files n hn)⟩

theorem Matches.put (h : d.Matches e) (name : String) (b : FileBody τ) :
    (d.put name b).Matches (e.put name b) := by
  refine ⟨h.present, h.plan, fun n hn => ?_⟩
  show (e.files.insert name b).get? n = (d.files.insert name b).get? n
  rw [Table.get?_insert, Table.get?_insert, h.files n hn]

theorem Matches.remove (h : d.Matches e) (name : String) :
    (d.remove name).Matches (e.remove name) := by
  refine ⟨h.present, h.plan, fun n hn => ?_⟩
  show (e.files.erase name).get? n = (d.files.erase name).get? n
  rw [Table.get?_erase, Table.get?_erase, h.files n hn]

theorem Matches.isFolder (h : d.Matches e) (hname : ¬ Passing name) :
    e.isFolder name = d.isFolder name := by
  unfold Folder.isFolder
  rw [h.files name hname]

theorem matches_put (d : Folder τ) (hname : Passing name) (b : FileBody τ) :
    d.Matches (d.put name b) :=
  ⟨rfl, rfl, fun _ hn => Table.get?_insert_ne _ _ fun h => hn (h ▸ hname)⟩

theorem matches_remove (d : Folder τ) (hname : Passing name) : d.Matches (d.remove name) := by
  refine ⟨rfl, rfl, fun n hn => ?_⟩
  show (d.files.erase name).get? n = _
  rw [Table.get?_erase, if_neg]
  rintro rfl
  exact hn hname

theorem matches_attempt (d : Folder τ) : d.Matches d.attempt.1 := ⟨rfl, rfl, fun _ _ => rfl⟩

theorem matches_of_attempt {allowed : Bool} (h : d.attempt = (d', allowed)) : d.Matches d' := by
  have hattempt := matches_attempt d
  rwa [h] at hattempt

theorem matches_cleanUp (d : Folder τ) (hname : Passing name) : d.Matches (d.cleanUp name) := by
  unfold cleanUp
  split
  · rename_i heq
    exact (matches_of_attempt heq).trans (matches_remove _ hname)
  · rename_i heq
    exact matches_of_attempt heq

/-- A file under a passing name is written if the folder is there and the
disk allows it, and nothing else is touched. -/
theorem matches_writePassing (d : Folder τ) (hname : Passing name) (b : FileBody τ) :
    d.Matches (d.writePassing name b).1 ∧
      ((d.writePassing name b).2 = true → d.isPresent = true) := by
  unfold writePassing
  split
  · rename_i heq
    exact ⟨matches_of_attempt heq, fun h => nomatch h⟩
  · rename_i d1 heq
    have hfirst := matches_of_attempt heq
    split
    · exact ⟨hfirst, fun h => nomatch h⟩
    · rename_i hpresent
      rw [Bool.not_eq_true, Bool.not_eq_false'] at hpresent
      have hopened := hfirst.trans (matches_put d1 hname .garbage)
      split
      · rename_i heq'
        exact ⟨(hopened.trans (matches_of_attempt heq')).trans (matches_put _ hname b),
          fun _ => hfirst.present.symm.trans hpresent⟩
      · rename_i heq'
        exact ⟨(hopened.trans (matches_of_attempt heq')).trans (matches_cleanUp _ hname),
          fun h => nomatch h⟩

/-- A file is put in its place, or everything stays as it was. -/
theorem writeAtomic_cases (d : Folder τ) (name : String) (b : FileBody τ) :
    ((d.writeAtomic name b).2 = true ∧ d.isPresent = true ∧
        (d.put name b).Matches (d.writeAtomic name b).1) ∨
      ((d.writeAtomic name b).2 = false ∧ d.Matches (d.writeAtomic name b).1) := by
  have hpassing := passing_passingName d name
  have hwritten := matches_writePassing d hpassing b
  unfold writeAtomic
  dsimp only
  split
  · rename_i heq
    rw [heq] at hwritten
    exact .inr ⟨rfl, hwritten.1⟩
  · rename_i d1 heq
    rw [heq] at hwritten
    split
    · rename_i heq'
      have hmoved := hwritten.1.trans (matches_of_attempt heq')
      split
      · exact .inr ⟨rfl, hmoved.trans (matches_cleanUp _ hpassing)⟩
      · exact .inl ⟨rfl, hwritten.2 rfl, (hmoved.trans (matches_remove _ hpassing)).put name b⟩
    · rename_i heq'
      have hrefused := hwritten.1.trans (matches_of_attempt heq')
      exact .inr ⟨rfl, hrefused.trans (matches_cleanUp _ hpassing)⟩

theorem unlink_cases (hpresent : d.isPresent = true) (name : String) :
    ((d.unlink name).2 = .ok () ∧ (d.remove name).Matches (d.unlink name).1) ∨
      ((∃ f, (d.unlink name).2 = .error f) ∧ d.Matches (d.unlink name).1) := by
  unfold unlink
  split
  · rename_i hholds
    refine .inl ⟨rfl, rfl, rfl, fun n _ => ?_⟩
    have habsent : d.files.get? name = none := by
      unfold holds at hholds
      rw [hpresent, Bool.true_and, Table.contains_eq] at hholds
      simpa using hholds
    show d.files.get? n = (d.files.erase name).get? n
    rw [Table.get?_erase]
    split
    · rename_i h
      rw [h, habsent]
    · rfl
  · split
    · rename_i heq
      exact .inr ⟨⟨_, rfl⟩, matches_of_attempt heq⟩
    · rename_i heq
      split
      · exact .inr ⟨⟨_, rfl⟩, matches_of_attempt heq⟩
      · exact .inl ⟨rfl, (matches_of_attempt heq).remove name⟩

theorem isFolder_put {n : String} (h : n ≠ name) (d : Folder τ) (b : FileBody τ) :
    (d.put name b).isFolder n = d.isFolder n := by
  unfold isFolder
  rw [show (d.put name b).files.get? n = d.files.get? n from Table.get?_insert_ne _ _ h]

theorem isFolder_remove {n : String} (h : n ≠ name) (d : Folder τ) :
    (d.remove name).isFolder n = d.isFolder n := by
  have hsame : (d.remove name).files.get? n = d.files.get? n :=
    (Table.get?_erase _ _ _).trans (if_neg h)
  unfold isFolder
  rw [hsame]

/-! ## A disk that refuses nothing -/

/-- A folder that is there, on a disk that refuses nothing. -/
structure Sound (d : Folder τ) : Prop where
  present : d.isPresent = true
  free : ∀ n, d.refuses n = false

theorem Sound.put (hs : d.Sound) (name : String) (b : FileBody τ) : (d.put name b).Sound :=
  ⟨hs.present, hs.free⟩

theorem Sound.remove (hs : d.Sound) (name : String) : (d.remove name).Sound :=
  ⟨hs.present, hs.free⟩

theorem Matches.sound (h : d.Matches e) (hs : d.Sound) : e.Sound :=
  ⟨h.present.trans hs.present, fun n => (congrFun h.plan n).trans (hs.free n)⟩

theorem Sound.attempt (hs : d.Sound) : ∃ d', d.attempt = (d', true) ∧ d.Matches d' := by
  refine ⟨d.attempt.1, ?_, matches_attempt d⟩
  unfold Folder.attempt
  rw [hs.free]
  rfl

theorem Sound.writePassing (hs : d.Sound) (hname : Passing name) (b : FileBody τ) :
    ∃ d', d.writePassing name b = (d', true) ∧ d.Matches d' := by
  obtain ⟨d1, h1, hm1⟩ := hs.attempt
  have hs1 := hm1.sound hs
  obtain ⟨d2, h2, hm2⟩ := (hs1.put name .garbage).attempt
  refine ⟨d2.put name b, ?_, ((hm1.trans (matches_put d1 hname .garbage)).trans hm2).trans
    (matches_put d2 hname b)⟩
  unfold Folder.writePassing
  rw [h1]
  dsimp only
  rw [hs1.present, h2]
  rfl

theorem Sound.writeAtomic (hs : d.Sound) (hname : ¬ Passing name) (hf : d.isFolder name = false)
    (b : FileBody τ) : ∃ d', d.writeAtomic name b = (d', true) ∧ (d.put name b).Matches d' := by
  have hpassing := passing_passingName d name
  obtain ⟨d1, h1, hm1⟩ := hs.writePassing hpassing b
  obtain ⟨d2, h2, hm2⟩ := (hm1.sound hs).attempt
  have hm := hm1.trans hm2
  have hf2 : d2.isFolder name = false := (hm.isFolder hname).trans hf
  refine ⟨_, ?_, (hm.trans (matches_remove d2 hpassing)).put name b⟩
  unfold Folder.writeAtomic
  dsimp only
  rw [h1]
  dsimp only
  rw [h2]
  dsimp only
  rw [hf2]
  rfl

theorem Sound.unlink (hs : d.Sound) (hf : d.isFolder name = false) :
    ∃ d', d.unlink name = (d', .ok ()) ∧ (d.remove name).Matches d' := by
  have hok : (d.unlink name).2 = .ok () := by
    unfold Folder.unlink
    split
    · rfl
    · obtain ⟨d1, h1, _⟩ := hs.attempt
      have hf1 : d1.isFolder name = d.isFolder name := by
        obtain rfl : d.attempt.1 = d1 := by rw [h1]
        rfl
      rw [h1]
      dsimp only
      rw [hf1, hf]
      rfl
  rcases unlink_cases hs.present name with ⟨_, hm⟩ | ⟨⟨f, hr⟩, _⟩
  · exact ⟨_, Prod.ext rfl hok, hm⟩
  · exact nomatch hr.symm.trans hok

end Folder

namespace Checkpoint

/-- A key is given as a text, of one type or the other. -/
theorem validateKey_cases {v : Value} {k : String} (h : validateKey v = .ok k) :
    (v = .text k ∨ v = .cell (.text k)) ∧ isKey k = true := by
  unfold validateKey at h
  split at h
  · rename_i s hs
    split at h
    · rename_i hkey
      cases h
      refine ⟨?_, hkey⟩
      unfold Value.text? at hs
      split at hs <;> cases hs
      · exact .inl rfl
      · exact .inr rfl
    · cases h
  · cases h

theorem plain_of_validateKey {v : Value} {k : String} (h : validateKey v = .ok k) :
    v.plain = k := by
  obtain ⟨rfl | rfl, _⟩ := validateKey_cases h <;> rfl

theorem ne_empty_of_isKey {k : String} (h : isKey k = true) : k ≠ "" := by
  rintro rfl
  cases h

namespace Directory

variable {base stamp : String} {key : Value} {k : String} {s : Snapshot τ} {i : Info}
  {c c' : Cabinet τ}

/-! ## The files of a key -/

/-- The folder with a payload under a key. -/
def withPayload (k : String) (s : Snapshot τ) (d : Folder τ) : Folder τ :=
  d.put (payloadName k) (.payload (.pair s))

def withBoth (k : String) (s : Snapshot τ) (i : Info) (d : Folder τ) : Folder τ :=
  (withPayload k s d).put (infoName k) (.text i.text)

/-- The folder without the payload of a key. -/
def withoutPayload (k : String) (d : Folder τ) : Folder τ := d.remove (payloadName k)

def withoutBoth (k : String) (d : Folder τ) : Folder τ := (withoutPayload k d).remove (infoName k)

section Files

variable (d : Folder τ) (s : Snapshot τ) (i : Info) (k k' : String)

/-- What stands in a folder as the payload of a key. -/
def payloadAt : Option (FileBody τ) := d.files.get? (payloadName k)

def infoAt : Option (FileBody τ) := d.files.get? (infoName k)

@[simp] theorem payloadAt_withPayload : payloadAt (withPayload k s d) k' =
    if k' = k then some (.payload (.pair s)) else payloadAt d k' := by
  show (d.files.insert _ _).get? _ = _
  rw [Table.get?_insert]
  simp only [payloadName_inj]
  rfl

@[simp] theorem infoAt_withPayload : infoAt (withPayload k s d) k' = infoAt d k' :=
  Table.get?_insert_ne _ _ (payloadName_ne_infoName k k').symm

@[simp] theorem payloadAt_withBoth : payloadAt (withBoth k s i d) k' =
    if k' = k then some (.payload (.pair s)) else payloadAt d k' :=
  (Table.get?_insert_ne _ _ (payloadName_ne_infoName k' k)).trans (payloadAt_withPayload d s k k')

@[simp] theorem infoAt_withBoth : infoAt (withBoth k s i d) k' =
    if k' = k then some (.text i.text) else infoAt d k' := by
  show ((withPayload k s d).files.insert _ _).get? _ = _
  rw [Table.get?_insert]
  simp only [infoName_inj]
  exact if_congr Iff.rfl rfl (infoAt_withPayload d s k k')

@[simp] theorem payloadAt_withoutPayload : payloadAt (withoutPayload k d) k' =
    if k' = k then none else payloadAt d k' := by
  show (d.files.erase _).get? _ = _
  rw [Table.get?_erase]
  simp only [payloadName_inj]
  rfl

@[simp] theorem infoAt_withoutPayload : infoAt (withoutPayload k d) k' = infoAt d k' := by
  show (d.files.erase _).get? _ = _
  rw [Table.get?_erase, if_neg (payloadName_ne_infoName k k').symm]
  rfl

@[simp] theorem payloadAt_withoutBoth : payloadAt (withoutBoth k d) k' =
    if k' = k then none else payloadAt d k' := by
  show ((withoutPayload k d).files.erase _).get? _ = _
  rw [Table.get?_erase, if_neg (payloadName_ne_infoName k' k)]
  exact payloadAt_withoutPayload d k k'

@[simp] theorem infoAt_withoutBoth : infoAt (withoutBoth k d) k' =
    if k' = k then none else infoAt d k' := by
  show ((withoutPayload k d).files.erase _).get? _ = _
  rw [Table.get?_erase]
  simp only [infoName_inj]
  exact if_congr Iff.rfl rfl (infoAt_withoutPayload d k k')

end Files

theorem payloadAt_of_matches {d e : Folder τ} (h : d.Matches e) (k : String) :
    payloadAt e k = payloadAt d k := h.files _ (not_passing_payloadName k)

theorem infoAt_of_matches {d e : Folder τ} (h : d.Matches e) (k : String) :
    infoAt e k = infoAt d k := h.files _ (not_passing_infoName k)

/-! ## What is read -/

section Reads

variable (hk : validateKey key = .ok k) (hpresent : c.folder.isPresent = true)
include hk hpresent

/-- What is loaded depends on the payload file alone. -/
theorem load_eq : load base key c =
    match payloadAt c.folder k with
    | some b => readPayload (base ++ "/" ++ payloadName k) k b
    | none => .error (.checkpoint k (.absent (base ++ "/" ++ payloadName k))) := by
  unfold load
  rw [hk, hpresent]
  rfl

theorem load_pair (h : payloadAt c.folder k = some (.payload (.pair s))) :
    load base key c = .ok s := by
  rw [load_eq hk hpresent, h]
  rfl

theorem holds_eq : holds key c = .ok (payloadAt c.folder k).isSome := by
  unfold holds Folder.holds payloadAt
  rw [hk, hpresent, ← Table.contains_eq]
  rfl

theorem info_eq : info key c =
    match infoAt c.folder k with
    | none => .ok none
    | some (.text text) => (Info.ofText text).bind fun i => .ok (some i)
    | some .folder => .error (.slip .isFolder)
    | some _ => .error (.slip .malformedText) := by
  unfold info
  rw [hk, hpresent]
  rfl

theorem info_text {text : String} (h : infoAt c.folder k = some (.text text)) :
    info key c = (Info.ofText text).bind fun i => .ok (some i) := by
  rw [info_eq hk hpresent, h]

theorem info_absent (h : infoAt c.folder k = none) : info key c = .ok none := by
  rw [info_eq hk hpresent, h]

end Reads

/-- What stands the same is read the same. -/
theorem load_congr (hpresent : c.folder.isPresent = true) (hpresent' : c'.folder.isPresent = true)
    (h : ∀ k, validateKey key = .ok k → payloadAt c'.folder k = payloadAt c.folder k) :
    load base key c' = load base key c := by
  cases hk : validateKey key with
  | error f =>
    unfold load
    rw [hk]
    rfl
  | ok k => rw [load_eq hk hpresent, load_eq hk hpresent', h k hk]

theorem info_congr (hpresent : c.folder.isPresent = true) (hpresent' : c'.folder.isPresent = true)
    (h : ∀ k, validateKey key = .ok k → infoAt c'.folder k = infoAt c.folder k) :
    info key c' = info key c := by
  cases hk : validateKey key with
  | error f =>
    unfold info
    rw [hk]
    rfl
  | ok k => rw [info_eq hk hpresent, info_eq hk hpresent', h k hk]

/-! ## Saves and deletions -/

/-- What a save puts away: the snapshot with its information, under a key. -/
structure Prepares (stamp : String) (key : Value) (s : Snapshot τ) (k : String) (i : Info) :
    Prop where
  valid : validateKey key = .ok k
  serializes : s.solver.unserializable = none
  describes : Info.describe key s stamp = .ok i

theorem save_prepared (h : Prepares stamp key s k i) (c : Cabinet τ) :
    save base stamp key s c = (withFolder c (writeBoth base k (.pair s) i c.folder).1,
      (writeBoth base k (.pair s) i c.folder).2) := by
  have hserialized : s.serialized key.plain = .ok (.pair s) := by
    unfold Snapshot.serialized
    rw [h.serializes]
  unfold save
  dsimp only [bind, Except.bind]
  rw [hserialized]
  dsimp only
  rw [h.describes]
  dsimp only [Except.mapError]
  rw [h.valid]
  rfl

/-- A save that does not get as far as the disk leaves everything, and fails in the
same way whatever there is. -/
theorem save_unprepared (base : String) (h : ∀ k i, ¬ Prepares stamp key s k i) :
    ∃ f, ∀ c, save base stamp key s c = (c, .error f) := by
  unfold save Snapshot.serialized
  dsimp only [bind, Except.bind]
  cases hx : s.solver.unserializable with
  | some f => exact ⟨_, fun _ => rfl⟩
  | none =>
    dsimp only
    cases hi : Info.describe key s stamp with
    | error e => exact ⟨_, fun _ => rfl⟩
    | ok i =>
      dsimp only [Except.mapError]
      cases hk : validateKey key with
      | error f => exact ⟨_, fun _ => rfl⟩
      | ok k => exact (h k i ⟨hk, hx, hi⟩).elim

theorem writeBoth_cases (base k : String) (s : Snapshot τ) (i : Info) (d : Folder τ) :
    ((writeBoth base k (.pair s) i d).2 = .ok () ∧ i.isWritable = true ∧
        (withBoth k s i d).Matches (writeBoth base k (.pair s) i d).1) ∨
      ∃ f, (writeBoth base k (.pair s) i d).2 = .error f ∧
        ((withPayload k s d).Matches (writeBoth base k (.pair s) i d).1 ∨
          d.Matches (writeBoth base k (.pair s) i d).1) := by
  have hpayload := d.writeAtomic_cases (payloadName k) (.payload (.pair s))
  unfold writeBoth
  dsimp only
  split
  · rename_i d1 heq
    rw [heq] at hpayload
    rcases hpayload with ⟨h, _, _⟩ | ⟨_, hm⟩
    · cases h
    · exact .inr ⟨_, rfl, .inr hm⟩
  · rename_i d1 heq
    rw [heq] at hpayload
    rcases hpayload with ⟨_, _, hm⟩ | ⟨h, _⟩
    · have hinfo := d1.writeAtomic_cases (infoName k) (.text i.text)
      split
      · exact .inr ⟨_, rfl, .inl hm⟩
      · rename_i hw
        have hwritable : i.isWritable = true := by simpa using hw
        split
        · rename_i d2 heq'
          rw [heq'] at hinfo
          rcases hinfo with ⟨h, _, _⟩ | ⟨_, hm'⟩
          · cases h
          · exact .inr ⟨_, rfl, .inl (hm.trans hm')⟩
        · rename_i d2 heq'
          rw [heq'] at hinfo
          rcases hinfo with ⟨_, _, hm'⟩ | ⟨h, _⟩
          · exact .inl ⟨rfl, hwritable, (hm.put _ _).trans hm'⟩
          · cases h
    · cases h

/-- A save puts both files, the payload alone, or nothing. It succeeds only if the
description can be written. -/
theorem save_cases (base stamp : String) (key : Value) (s : Snapshot τ) (c : Cabinet τ) :
    (∃ k i, Prepares stamp key s k i ∧ i.isWritable = true ∧
        (save base stamp key s c).2 = .ok () ∧
        (withBoth k s i c.folder).Matches (save base stamp key s c).1.folder) ∨
      ∃ f, (save base stamp key s c).2 = .error f ∧
        ((∃ k i, Prepares stamp key s k i ∧
            (withPayload k s c.folder).Matches (save base stamp key s c).1.folder) ∨
          c.folder.Matches (save base stamp key s c).1.folder) := by
  by_cases hprepared : ∃ k i, Prepares stamp key s k i
  · obtain ⟨k, i, h⟩ := hprepared
    rw [save_prepared h]
    rcases writeBoth_cases base k s i c.folder with ⟨hr, hw, hm⟩ | ⟨f, hr, hm | hm⟩
    · exact .inl ⟨k, i, h, hw, hr, hm⟩
    · exact .inr ⟨f, hr, .inl ⟨k, i, h, hm⟩⟩
    · exact .inr ⟨f, hr, .inr hm⟩
  · obtain ⟨f, hf⟩ := save_unprepared base fun k i h => hprepared ⟨k, i, h⟩
    rw [hf]
    exact .inr ⟨f, rfl, .inr (.refl _)⟩

/-- A deletion takes away both files, the payload alone, or nothing. -/
theorem delete_cases (key : Value) (hpresent : c.folder.isPresent = true) :
    (∃ k, validateKey key = .ok k ∧ (delete key c).2 = .ok () ∧
        (withoutBoth k c.folder).Matches (delete key c).1.folder) ∨
      ∃ f, (delete key c).2 = .error f ∧
        ((∃ k, validateKey key = .ok k ∧
            (withoutPayload k c.folder).Matches (delete key c).1.folder) ∨
          c.folder.Matches (delete key c).1.folder) := by
  unfold delete
  split
  · exact .inr ⟨_, rfl, .inr (.refl _)⟩
  · rename_i k hk
    have hpayload := Folder.unlink_cases hpresent (payloadName k)
    split
    · rename_i d f heq
      rw [heq] at hpayload
      rcases hpayload with ⟨h, _⟩ | ⟨_, hm⟩
      · cases h
      · exact .inr ⟨_, rfl, .inr hm⟩
    · rename_i d heq
      rw [heq] at hpayload
      rcases hpayload with ⟨_, hm⟩ | ⟨⟨f, h⟩, _⟩
      · have hinfo := Folder.unlink_cases (hm.present.trans hpresent) (infoName k)
        rcases hinfo with ⟨hr, hm'⟩ | ⟨⟨f, hr⟩, hm'⟩
        · exact .inl ⟨k, hk, hr, (hm.remove _).trans hm'⟩
        · exact .inr ⟨f, hr, .inl ⟨k, hk, hm.trans hm'⟩⟩
      · cases h

end Directory

end Checkpoint

end Minimize
