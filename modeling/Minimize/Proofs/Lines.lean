-- Records on lines. A record is written as an object on one line; no character
-- of it breaks the line, whatever texts it has. So the lines of a file are those
-- that were written, and each is read as the object that it was.
import Minimize.Observer.JsonLines
import Minimize.Proofs.Folders
import Minimize.Proofs.Likeness
import Minimize.Proofs.Written

namespace Minimize

/-! ## Characters that break no line -/

/-- That no character is one of control. -/
def Printed (cs : List Char) : Prop := ∀ c ∈ cs, 0x20 ≤ c.toNat

namespace Printed

@[simp] theorem nil : Printed [] := fun _ h => nomatch h

@[simp] theorem cons_iff {c : Char} {cs : List Char} :
    Printed (c :: cs) ↔ 0x20 ≤ c.toNat ∧ Printed cs := List.forall_mem_cons

@[simp] theorem append_iff {cs ds : List Char} :
    Printed (cs ++ ds) ↔ Printed cs ∧ Printed ds := List.forall_mem_append

theorem take {cs : List Char} (h : Printed cs) (n : Nat) : Printed (cs.take n) :=
  fun c hc => h c (List.mem_of_mem_take hc)

theorem drop {cs : List Char} (h : Printed cs) (n : Nat) : Printed (cs.drop n) :=
  fun c hc => h c (List.mem_of_mem_drop hc)

theorem replicate (n : Nat) {c : Char} (hc : 0x20 ≤ c.toNat) : Printed (List.replicate n c) := by
  intro d hd
  rw [List.eq_of_mem_replicate hd]
  exact hc

theorem digits (n : Nat) : Printed (Nat.toDigits 10 n) := by
  intro c hc
  have hdigit := JsonValue.isDigit_of_mem hc
  unfold JsonValue.isDigit at hdigit
  simp only [Bool.and_eq_true, decide_eq_true_eq] at hdigit
  omega

end Printed

namespace Number

theorem printed_digitsOf (n : Nat) : Printed (digitsOf n) := by
  show Printed n.repr.toList
  rw [Nat.toList_repr]
  exact Printed.digits n

theorem printed_exponentText (e : Int) : Printed (exponentText e).toList := by
  have hdigits := printed_digitsOf e.natAbs
  unfold exponentText
  dsimp only
  rw [String.toList_append, Printed.append_iff]
  constructor
  · split <;> simp
  · split
    · rw [String.toList_append, Printed.append_iff]
      exact ⟨by simp, hdigits⟩
    · exact hdigits

theorem printed_write (l : Layout) (d : Decimal) : Printed (l.write d).toList := by
  have hdigits := printed_digitsOf d.coefficient
  have hzeros (n : Nat) : Printed (zeros n).toList := by
    unfold zeros
    rw [String.toList_ofList]
    exact Printed.replicate n (by decide)
  unfold Layout.write
  dsimp only
  split
  · split
    · simp [String.toList_append, hzeros, hdigits]
    · split
      · simp only [String.toList_append, Printed.append_iff, String.toList_ofList]
        refine ⟨⟨hdigits, hzeros _⟩, ?_⟩
        split <;> simp
      · simp [String.toList_append, hdigits.take, hdigits.drop]
  · simp only [String.toList_append, Printed.append_iff, String.toList_ofList]
    refine ⟨⟨hdigits.take 1, ?_⟩, printed_exponentText _⟩
    split
    · simp
    · simp only [String.toList_append, Printed.append_iff, String.toList_ofList]
      exact ⟨by simp, hdigits.drop 1⟩

theorem printed_fullText (x : Float) : Printed (fullText x).toList := by
  unfold fullText Layout.datumText
  split
  · rw [String.toList_append, Printed.append_iff]
    constructor
    · unfold signText
      split <;> simp
    · split
      · simp [Layout.writeZero, Layout.full]
      · exact printed_write _ _
  · unfold infiniteText signText
    split <;> simp
  · simp

end Number

namespace JsonValue

theorem printed_hexDigits (width n : Nat) : Printed (Text.hexDigits width n) := by
  have hdigit : ∀ k < 16, 0x20 ≤ (Text.hexDigit k).toNat := by decide
  induction width generalizing n with
  | zero => exact .nil
  | succ width ih =>
    unfold Text.hexDigits
    rw [Printed.append_iff]
    exact ⟨ih _, by simpa using hdigit _ (Nat.mod_lt n (by decide))⟩

theorem printed_pointEscape (n : Nat) : Printed (pointEscape n) := by
  unfold pointEscape unitEscape
  split
  · simp [printed_hexDigits]
  · simp [printed_hexDigits]

theorem printed_escape (c : Char) : Printed (escape c) := by
  unfold escape
  split_ifs with hquote hback hfeed hreturn htab hbs hff hplain
  all_goals try simp
  · exact hplain.1
  · exact printed_pointEscape c.toNat

theorem printed_textChars (s : String) : Printed (textChars s) := by
  unfold textChars
  rw [Printed.cons_iff, Printed.append_iff]
  refine ⟨by decide, ?_, by simp⟩
  intro c hc
  obtain ⟨d, _, hd⟩ := List.mem_flatMap.mp hc
  exact printed_escape d c hd

theorem printed_intChars (i : Int) : Printed (intChars i) := by
  cases i with
  | ofNat n => exact Number.printed_digitsOf n
  | negSucc n =>
    show Printed (toString (Int.negSucc n)).toList
    rw [Int.toString_eq_repr]
    show Printed ("-" ++ (n + 1).repr).toList
    rw [String.toList_append, Printed.append_iff]
    exact ⟨by simp, Number.printed_digitsOf (n + 1)⟩

theorem printed_floatChars (x : Float) : Printed (floatChars x) := by
  unfold floatChars
  split
  · simp
  · split <;> simp
  · exact Number.printed_fullText x

/-- A value that is no list or object. -/
def isPlain : JsonValue → Bool
  | .list _ => false
  | .object _ => false
  | _ => true

theorem printed_chars {j : JsonValue} (hj : j.isPlain = true) : Printed (chars j) := by
  cases j with
  | null => simp [chars]
  | bool b => cases b <;> simp [chars]
  | int i => exact printed_intChars i
  | float x => exact printed_floatChars x
  | text s => exact printed_textChars s
  | list js => cases hj
  | object ms => cases hj

/-! ## Objects on one line -/

variable {j : JsonValue} {m : String × JsonValue} {ms : List (String × JsonValue)}

theorem membersChars_cons (m : String × JsonValue) (ms : List (String × JsonValue)) :
    membersChars (m :: ms) = ',' :: ' ' :: (memberChars m ++ membersChars ms) := by
  rw [membersChars]
  simp [memberChars]

theorem chars_object (m : String × JsonValue) (ms : List (String × JsonValue)) :
    chars (.object (m :: ms)) = '\x7b' :: (memberChars m ++ membersChars ms) := by
  rw [chars]
  simp [memberChars]

/-- The members of an object on one line. -/
theorem laid_members (m : String × JsonValue) (ms : List (String × JsonValue)) :
    Laid (m :: ms) (memberChars m ++ membersChars ms) := by
  induction ms generalizing m with
  | nil => exact .last rfl (.brace _) rfl
  | cons m' ms ih =>
    rw [membersChars_cons]
    refine .more rfl (.comma _) rfl ?_
    exact (ih m').blank

/-- An object with legible members of distinct names is read from its line. -/
theorem ofChars_object (hall : ∀ n ∈ m :: ms, Legible n.2)
    (hdistinct : ((m :: ms).map (·.1)).Nodup) :
    ofChars (chars (.object (m :: ms))) = .ok (.object (m :: ms)) := by
  rw [chars_object]
  exact (laid_members m ms).ofChars hall hdistinct

theorem printed_memberChars (hm : m.2.isPlain = true) : Printed (memberChars m) := by
  unfold memberChars
  simp [printed_textChars, printed_chars hm]

/-- The line of an object of plain members stands between its braces, and
nothing in it breaks it. -/
theorem chars_object_printed (hall : ∀ n ∈ m :: ms, n.2.isPlain = true) :
    ∃ cs, chars (.object (m :: ms)) = '\x7b' :: (cs ++ ['\x7d']) ∧ Printed cs := by
  have hmembers (ns : List (String × JsonValue)) (hns : ∀ n ∈ ns, n.2.isPlain = true) :
      ∃ cs, membersChars ns = cs ++ ['\x7d'] ∧ Printed cs := by
    induction ns with
    | nil => exact ⟨[], by simp [membersChars], .nil⟩
    | cons n ns ih =>
      obtain ⟨cs, hcs, hprinted⟩ := ih fun x hx => hns x (List.mem_cons_of_mem n hx)
      refine ⟨',' :: ' ' :: (memberChars n ++ cs), ?_, ?_⟩
      · rw [membersChars_cons, hcs]
        simp
      · simp [printed_memberChars (hns n List.mem_cons_self), hprinted]
  obtain ⟨cs, hcs, hprinted⟩ := hmembers ms fun n hn => hall n (List.mem_cons_of_mem m hn)
  refine ⟨memberChars m ++ cs, ?_, ?_⟩
  · rw [chars_object, hcs, List.append_assoc]
  · simp [printed_memberChars (hall m List.mem_cons_self), hprinted]

end JsonValue

/-! ## Lines -/

namespace Text

theorem lines_append {cs : List Char} (h : Printed cs) (rest : List Char) :
    lines (cs ++ '\n' :: rest) = cs :: lines rest := by
  induction cs with
  | nil => rfl
  | cons c cs ih =>
    rw [Printed.cons_iff] at h
    have hreturn : c ≠ '\r' := by
      rintro rfl
      exact absurd h.1 (by decide)
    have hfeed : c ≠ '\n' := by
      rintro rfl
      exact absurd h.1 (by decide)
    have hstep {xs l : List Char} {ls : List (List Char)} (hxs : lines xs = l :: ls) :
        lines (c :: xs) = (c :: l) :: ls := by
      rw [lines.eq_def]
      split
      · contradiction
      · rename_i heq
        exact (hreturn (List.cons.inj heq).1).elim
      · rename_i heq
        exact (hreturn (List.cons.inj heq).1).elim
      · rename_i heq
        exact (hfeed (List.cons.inj heq).1).elim
      · rename_i heq
        cases heq
        rw [hxs]
    exact hstep (ih h.2)

/-- A text between two characters that are not blank has nothing to trim. -/
theorem trimmed_between {kind : Char → Bool} {a b : Char} (ha : kind a = false)
    (hb : kind b = false) (cs : List Char) :
    trimmed kind (a :: (cs ++ [b])) = a :: (cs ++ [b]) := by
  unfold trimmed
  rw [List.dropWhile_cons, ha]
  simp [hb]

end Text

/-! ## Records -/

namespace JsonValue

variable {j : JsonValue}

theorem legible_of_atom {c : Char} {rest : List Char} (hc : chars j = c :: rest)
    (hs : isSpace c = false) (hq : c ≠ '"') (hl : c ≠ '[') (ho : c ≠ '\x7b')
    (h : atom (c :: rest) = .ok (j, [])) : Legible j := by
  intro fuel room t ht
  have hatom : atom ((c :: rest) ++ t) = .ok (j, t) := by
    rw [atom_append ht.ends, h]
    rfl
  have hskip : skip (c :: (rest ++ t)) = c :: (rest ++ t) := by
    unfold skip
    rw [List.dropWhile_cons, hs]
    rfl
  refine ⟨t, ?_, rfl⟩
  rw [hc, List.cons_append, hskip, value_atom hq hl ho]
  exact hatom

end JsonValue

/-- A scalar whose number is read as it was written, if it is a finite one. A
whole number has not too many digits. -/
def Scalar.Legible : Scalar → Prop
  | .int i => i.natAbs < 10 ^ Text.digitLimit
  | .float x => Number.isFinite x = true → JsonValue.ReadsBack (.float x)
  | _ => True

def Record.Legible (r : Record) : Prop := ∀ e ∈ r.entries, e.2.Legible

theorem JsonValue.ofScalar_float (x : Float) :
    ofScalar (.float x) = if Number.isFinite x then .float x else .null := rfl

theorem Scalar.isPlain_ofScalar (s : Scalar) : (JsonValue.ofScalar s).isPlain = true := by
  cases s with
  | float x =>
    rw [JsonValue.ofScalar_float]
    split <;> rfl
  | _ => rfl

theorem Scalar.Legible.ofScalar {s : Scalar} (h : s.Legible) :
    (JsonValue.ofScalar s).Legible := by
  cases s with
  | bool b =>
    cases b
    · exact JsonValue.legible_of_atom rfl rfl (by decide) (by decide) (by decide) rfl
    · exact JsonValue.legible_of_atom rfl rfl (by decide) (by decide) (by decide) rfl
  | int i => exact (JsonValue.readsBack_int h).legible rfl
  | float x =>
    rw [JsonValue.ofScalar_float]
    split
    · rename_i hx
      exact (h hx).legible rfl
    · exact JsonValue.legible_of_atom rfl rfl (by decide) (by decide) (by decide) rfl
  | text s => exact JsonValue.legible_text s
  | typedText s => exact JsonValue.legible_text s

theorem Scalar.Legible.isWritable {s : Scalar} (h : s.Legible) :
    (JsonValue.ofScalar s).isWritable = true := by
  cases s with
  | int i =>
    show (JsonValue.int i).isWritable = true
    unfold JsonValue.isWritable
    exact Text.isWritable_iff.mpr h
  | float x =>
    rw [JsonValue.ofScalar_float]
    split <;> unfold JsonValue.isWritable <;> rfl
  | _ =>
    unfold JsonValue.ofScalar JsonValue.isWritable
    rfl

/-- An object can be written if its members can. -/
theorem JsonValue.isWritable_object {ms : List (String × JsonValue)}
    (h : ∀ n ∈ ms, n.2.isWritable = true) : (JsonValue.object ms).isWritable = true := by
  unfold isWritable
  induction ms with
  | nil =>
    unfold membersWritable
    rfl
  | cons m ms ih =>
    unfold membersWritable
    rw [h m List.mem_cons_self, ih fun n hn => h n (List.mem_cons_of_mem m hn)]
    rfl

namespace RecordFile

variable {j : JsonValue} {k : String} {r : Record} {m : String × JsonValue}
  {ms es : List (String × JsonValue)}

/-! ## What stands in a file for a record -/

def mark (r : Record) : JsonValue := ((r.map .ofScalar).get? "type").getD (.text "record")

/-- What a record says apart from its mark. -/
def told (r : Record) : List (String × JsonValue) := ((r.map .ofScalar).erase "type").entries

def posesAsHeader (r : Record) : Bool :=
  match mark r with
  | .text s => s == "header"
  | _ => false

/-- Members laid over one: what stands under its name takes its place, and the
others follow in their order. -/
theorem foldl_put (hes : (es.map (·.1)).Nodup) (before : List (String × JsonValue))
    (hbefore : ∀ e ∈ es, e.1 ∉ before.map (·.1)) (j : JsonValue) :
    es.foldl (fun l e => Table.put e.1 e.2 l) ((k, j) :: before) =
      (k, ((es.find? fun e => e.1 = k).map (·.2)).getD j) ::
        (before ++ es.filter fun e => e.1 ≠ k) := by
  induction es generalizing before j with
  | nil => simp
  | cons e es ih =>
    obtain ⟨k', j'⟩ := e
    rw [List.map_cons, List.nodup_cons] at hes
    have hrest : ∀ e ∈ es, e.1 ∉ before.map (·.1) :=
      fun e he => hbefore e (List.mem_cons_of_mem _ he)
    rw [List.foldl_cons]
    by_cases hk : k' = k
    · subst hk
      have hnone : es.find? (fun e => decide (e.1 = k')) = none := by
        rw [List.find?_eq_none]
        intro e he hsame
        rw [decide_eq_true_eq] at hsame
        have hmem : e.1 ∈ es.map (·.1) := List.mem_map_of_mem he
        rw [hsame] at hmem
        exact hes.1 hmem
      have hput : Table.put k' j' ((k', j) :: before) = (k', j') :: before := by
        simp [Table.put]
      rw [hput, ih hes.2 before hrest, hnone]
      simp
    · have hnew : k' ∉ ((k, j) :: before).map (·.1) := by
        have hold := hbefore (k', j') List.mem_cons_self
        simp only [List.map_cons, List.mem_cons, not_or]
        exact ⟨hk, hold⟩
      have happend : ∀ e ∈ es, e.1 ∉ (before ++ [(k', j')]).map (·.1) := by
        intro e he hmem
        rw [List.map_append, List.mem_append] at hmem
        rcases hmem with hmem | hmem
        · exact hrest e he hmem
        · rw [List.map_singleton, List.mem_singleton] at hmem
          have hsame : e.1 ∈ es.map (·.1) := List.mem_map_of_mem he
          rw [hmem] at hsame
          exact hes.1 hsame
      have hput : Table.put k' j' ((k, j) :: before) = (k, j) :: (before ++ [(k', j')]) :=
        Table.put_append hnew j'
      rw [hput, ih hes.2 _ happend]
      simp [hk]

theorem entries_foldl (s : Table JsonValue) (es : List (String × JsonValue)) :
    (es.foldl (fun s e => s.insert e.1 e.2) s).entries =
      es.foldl (fun l e => Table.put e.1 e.2 l) s.entries := by
  induction es generalizing s with
  | nil => rfl
  | cons e es ih => exact ih (s.insert e.1 e.2)

/-- A record is written as its mark, and what else it says. -/
theorem entry_eq (r : Record) : entry r = .object (("type", mark r) :: told r) := by
  have hfold := entries_foldl (Table.ofList [("type", .text "record")]) (r.map .ofScalar).entries
  have hput := foldl_put (k := "type") (r.map JsonValue.ofScalar).distinct []
    (fun _ _ => List.not_mem_nil) (.text "record")
  unfold entry Table.merge
  rw [hfold]
  exact congrArg JsonValue.object hput

/-- A record without an entry under `type` has the mark of a record. -/
theorem mark_of_unmarked (h : r.contains "type" = false) : mark r = .text "record" := by
  rw [Table.contains_eq, Option.isSome_eq_false_iff, Option.isNone_iff_eq_none] at h
  unfold mark
  rw [Table.get?_map, h]
  rfl

theorem told_of_unmarked (h : r.contains "type" = false) : told r = (r.map .ofScalar).entries := by
  unfold told Table.erase Table.map
  dsimp only
  rw [List.filter_eq_self]
  intro e he
  obtain ⟨e', he', rfl⟩ := List.mem_map.mp he
  unfold Table.contains at h
  rw [List.any_eq_false] at h
  simpa using h e' he'

/-- What a record is written with is its mark of a record, or the scalars that
it has. -/
theorem mem_entry {n : String × JsonValue} (h : n ∈ ("type", mark r) :: told r) :
    n.2 = .text "record" ∨ ∃ e ∈ r.entries, n.2 = .ofScalar e.2 := by
  rw [List.mem_cons] at h
  rcases h with rfl | h
  · show mark r = _ ∨ ∃ e ∈ r.entries, mark r = _
    unfold mark
    rw [Table.get?_map]
    cases hget : r.get? "type" with
    | none => exact .inl rfl
    | some s =>
      unfold Table.get? at hget
      obtain ⟨e, he, rfl⟩ := Option.map_eq_some_iff.mp hget
      exact .inr ⟨e, List.mem_of_find?_eq_some he, rfl⟩
  · unfold told Table.erase Table.map at h
    obtain ⟨e, he, rfl⟩ := List.mem_map.mp (List.mem_of_mem_filter h)
    exact .inr ⟨e, he, rfl⟩

theorem isPlain_of_mem_entry {n : String × JsonValue} (h : n ∈ ("type", mark r) :: told r) :
    n.2.isPlain = true := by
  rcases mem_entry h with hn | ⟨e, _, hn⟩
  · rw [hn]
    rfl
  · rw [hn]
    exact e.2.isPlain_ofScalar

theorem legible_of_mem_entry (hr : r.Legible) {n : String × JsonValue}
    (h : n ∈ ("type", mark r) :: told r) : n.2.Legible := by
  rcases mem_entry h with hn | ⟨e, he, hn⟩
  · rw [hn]
    exact JsonValue.legible_text _
  · rw [hn]
    exact (hr e he).ofScalar

theorem isWritable_entry (hr : r.Legible) : (entry r).isWritable = true := by
  rw [entry_eq]
  refine JsonValue.isWritable_object fun n hn => ?_
  rcases mem_entry hn with hn | ⟨e, he, hn⟩
  · rw [hn]
    unfold JsonValue.isWritable
    rfl
  · rw [hn]
    exact (hr e he).isWritable

theorem distinct_entry (r : Record) : (((("type", mark r) :: told r)).map (·.1)).Nodup := by
  rw [List.map_cons, List.nodup_cons]
  refine ⟨?_, ((r.map JsonValue.ofScalar).erase "type").distinct⟩
  unfold told Table.erase
  simp

/-! ## Lines of a file -/

variable {inc : Bool}

theorem readLine_object (hplain : ∀ n ∈ m :: ms, n.2.isPlain = true)
    (hlegible : ∀ n ∈ m :: ms, n.2.Legible) (hdistinct : ((m :: ms).map (·.1)).Nodup) :
    readLine inc (JsonValue.object (m :: ms)).chars = kept inc (.object (m :: ms)) := by
  obtain ⟨cs, hcs, _⟩ := JsonValue.chars_object_printed hplain
  have htrimmed : Text.trimmed Text.isBlank (JsonValue.object (m :: ms)).chars =
      (JsonValue.object (m :: ms)).chars := by
    rw [hcs]
    exact Text.trimmed_between (by decide) (by decide) cs
  unfold readLine
  rw [htrimmed, JsonValue.ofChars_object hlegible hdistinct]

/-- An object of plain members is written as one line. -/
theorem lines_line (hplain : ∀ n ∈ m :: ms, n.2.isPlain = true) (rest : String) :
    Text.lines (line (.object (m :: ms)) ++ rest).toList =
      (JsonValue.object (m :: ms)).chars :: Text.lines rest.toList := by
  obtain ⟨cs, hcs, hprinted⟩ := JsonValue.chars_object_printed hplain
  unfold line
  rw [String.toList_append, String.toList_ofList, List.append_assoc]
  refine Text.lines_append ?_ rest.toList
  rw [hcs]
  simp [hprinted]

/-- A line of plain members is read, and then the text after it. -/
theorem read_line {o : Option (List (String × JsonValue))} {rest : String}
    {ls : List (List (String × JsonValue))} (hkept : kept inc (.object (m :: ms)) = .ok o)
    (hplain : ∀ n ∈ m :: ms, n.2.isPlain = true)
    (hlegible : ∀ n ∈ m :: ms, n.2.Legible) (hdistinct : ((m :: ms).map (·.1)).Nodup)
    (hrest : read rest inc = .ok ls) :
    read (line (.object (m :: ms)) ++ rest) inc = .ok (o.toList ++ ls) := by
  unfold read at hrest ⊢
  rw [lines_line hplain, List.mapM_cons, readLine_object hplain hlegible hdistinct, hkept]
  obtain ⟨xs, hxs, hfilter⟩ := bind_ok hrest
  obtain rfl := Except.ok.inj hfilter
  rw [hxs]
  cases o <;> rfl

theorem read_empty : read "" inc = .ok [] := by
  cases inc <;> rfl

/-- A record is kept without its mark, unless it has the mark of a header and
headers are left out. -/
theorem kept_entry (inc : Bool) (r : Record) : kept inc (entry r) =
    .ok (if inc || !posesAsHeader r then some (told r) else none) := by
  have hrest : (("type", mark r) :: told r).filter (fun m => m.1 ≠ "type") = told r := by
    unfold told Table.erase
    simp
  rw [entry_eq]
  unfold kept
  dsimp only
  rw [hrest]
  unfold posesAsHeader
  simp only [List.find?_cons, decide_true, Option.map_some]
  cases mark r with
  | text s => cases inc <;> cases hs : s == "header" <;> simp [hs]
  | _ => simp

theorem read_records {rs : List Record} (hall : ∀ r ∈ rs, r.Legible) :
    read (String.join (rs.map fun r => line (entry r))) inc =
      .ok ((rs.filter fun r => inc || !posesAsHeader r).map told) := by
  induction rs with
  | nil => exact read_empty
  | cons r rs ih =>
    have hrest := ih fun x hx => hall x (List.mem_cons_of_mem r hx)
    have hkept := kept_entry inc r
    rw [entry_eq] at hkept
    rw [List.map_cons, String.join_cons, entry_eq, read_line hkept
      (fun n => isPlain_of_mem_entry) (fun n => legible_of_mem_entry (hall r List.mem_cons_self))
      (distinct_entry r) hrest]
    cases hr : (inc || !posesAsHeader r) <;> simp [hr]

/-! ## Files -/

def labelled (label : Option String) : JsonValue := (label.map .text).getD .null

def headed (label : Option String) (stamp : String) : List (String × JsonValue) :=
  [("run", labelled label), ("format_version", .int formatVersion), ("created_at", .text stamp)]

variable {label : Option String} {stamp : String} {n : String × JsonValue}

theorem isPlain_of_mem_header (h : n ∈ ("type", .text "header") :: headed label stamp) :
    n.2.isPlain = true := by
  unfold headed at h
  simp only [List.mem_cons, List.not_mem_nil, or_false] at h
  rcases h with rfl | rfl | rfl | rfl
  · rfl
  · cases label <;> rfl
  · rfl
  · rfl

theorem legible_of_mem_header (h : n ∈ ("type", .text "header") :: headed label stamp) :
    n.2.Legible := by
  unfold headed at h
  simp only [List.mem_cons, List.not_mem_nil, or_false] at h
  rcases h with rfl | rfl | rfl | rfl
  · exact JsonValue.legible_text _
  · cases label with
    | none => exact JsonValue.legible_of_atom rfl rfl (by decide) (by decide) (by decide) rfl
    | some s => exact JsonValue.legible_text s
  · exact (JsonValue.readsBack_int (Nat.one_lt_pow (by decide) (by decide))).legible rfl
  · exact JsonValue.legible_text _

theorem distinct_header (label : Option String) (stamp : String) :
    ((("type", .text "header") :: headed label stamp).map (·.1)).Nodup := by
  simp [headed]

/-- A header is read before all else, if headers are read. -/
theorem read_header {rest : String} {ls : List (List (String × JsonValue))}
    (hrest : read rest inc = .ok ls) :
    read (line (header (labelled label) stamp) ++ rest) inc =
      .ok ((if inc then [headed label stamp] else []) ++ ls) := by
  have hkept : kept inc (header (labelled label) stamp) =
      .ok (if inc then some (headed label stamp) else none) := by
    cases inc <;> rfl
  have hread := read_line hkept (fun n => isPlain_of_mem_header)
    (fun n => legible_of_mem_header) (distinct_header label stamp) hrest
  refine hread.trans ?_
  cases inc <;> rfl

end RecordFile

namespace Outlets

theorem textOf_appendFile (o : Outlets) (path text : String) :
    (o.appendFile path text).files.get? path = some (o.textOf path ++ text) :=
  Table.get?_insert_self _ _ _

end Outlets

variable {τ : Type}

/-- The outlets after an observer was set up and then told of records. -/
def Observer.fed (o : Observer τ) (rs : List Record) (out : Outlets) : Outlets :=
  rs.foldl (fun out r => (o.notify r out).outlets)
    (match o.setup with
    | some setup => (setup out).outlets
    | none => out)

namespace JsonLines

open RecordFile

variable (τ) (slot : Nat) (path : String) (run : JsonValue) (label : Option String)
  (stamp : String) (out : Outlets) (rs : List Record)

/-- The lines of the records that can be written. -/
def linesOf : String :=
  String.join ((rs.filter fun r => (entry r).isWritable).map fun r => line (entry r))

theorem linesOf_cons (r : Record) (rs : List Record) :
    linesOf (r :: rs) = (if (entry r).isWritable then line (entry r) else "") ++ linesOf rs := by
  unfold linesOf
  cases h : (entry r).isWritable with
  | true => simp [h]
  | false => simp [h]

/-- Legible records can all be written. -/
theorem linesOf_legible (hall : ∀ r ∈ rs, r.Legible) :
    linesOf rs = String.join (rs.map fun r => line (entry r)) := by
  unfold linesOf
  rw [List.filter_eq_self.mpr fun r hr => isWritable_entry (hall r hr)]

/-- What is told to a writer of lines goes behind what stands in its file, if it can
be written. -/
theorem textOf_told (start : Start) :
    ∀ {text : String}, out.files.get? path = some text →
      (rs.foldl (fun out r =>
        ((observer slot path run start stamp : Observer τ).notify r out).outlets) out).files.get?
          path = some (text ++ linesOf rs) := by
  induction rs generalizing out with
  | nil =>
    intro text htext
    simpa [linesOf] using htext
  | cons r rs ih =>
    intro text htext
    have hone : ((observer slot path run start stamp : Observer τ).notify r
        out).outlets.files.get? path =
          some (text ++ if (entry r).isWritable then line (entry r) else "") := by
      have happended (more : String) :
          (out.appendFile path more).files.get? path = some (text ++ more) := by
        rw [Outlets.textOf_appendFile]
        unfold Outlets.textOf
        rw [htext]
        rfl
      unfold observer
      dsimp only
      split
      · exact happended _
      · exact happended ""
    rw [List.foldl_cons, linesOf_cons, ← String.append_assoc]
    exact ih _ hone

/-- A file that was written anew has the header and the records that can be written,
each on its line. -/
theorem written :
    ((observer slot path run .fresh stamp : Observer τ).fed rs out).files.get? path =
      some (line (header run stamp) ++ linesOf rs) := by
  have hopened : (opened path run .fresh stamp out).files.get? path =
      some (line (header run stamp)) := by
    have hempty : (out.writeFile path "").textOf path = "" := by
      unfold Outlets.textOf Outlets.writeFile
      rw [Table.get?_insert_self]
      rfl
    show ((out.writeFile path "").appendFile path _).files.get? path = _
    rw [Outlets.textOf_appendFile, hempty, String.empty_append]
  exact textOf_told τ slot path run stamp _ rs .fresh hopened

theorem load_written (hall : ∀ r ∈ rs, r.Legible) (inc : Bool) :
    load path (((observer slot path (labelled label) .fresh stamp : Observer τ).fed rs
        out).files.get? path) inc =
      .ok ((if inc then [headed label stamp] else []) ++
        (rs.filter fun r => inc || !posesAsHeader r).map told) := by
  rw [written, linesOf_legible rs hall]
  exact read_header (read_records hall)

/-- A record without an entry under `type` is told in full, and no other is. -/
theorem told_eq_iff (r : Record) :
    told r = (r.map .ofScalar).entries ↔ r.contains "type" = false := by
  refine ⟨fun h => ?_, told_of_unmarked⟩
  rw [← Bool.not_eq_true]
  intro hmarked
  unfold Table.contains at hmarked
  obtain ⟨e, he, hkey⟩ := List.any_eq_true.mp hmarked
  have hmem : (e.1, JsonValue.ofScalar e.2) ∈ (r.map .ofScalar).entries := List.mem_map_of_mem he
  rw [← h] at hmem
  have hapart := (List.mem_filter.mp hmem).2
  simp only [decide_eq_true_eq] at hkey hapart
  exact hapart hkey

/-! ## The law -/

/-- A file that a writer of lines has begun anew is read as it was written. With
headers, its header comes first; then every record comes in its place, with all
its entries in order but the one under `type`, which stands for the mark of the
line; and a record that so has the mark of a header comes only with headers.
Numbers that are not finite are null. So exactly the records that were told are
read if, and only if, none of them has an entry under `type`. -/
theorem records_are_read_as_they_were_told (hall : ∀ r ∈ rs, r.Legible) (inc : Bool) :
    load path (((observer slot path (labelled label) .fresh stamp : Observer τ).fed rs
        out).files.get? path) inc =
      .ok ((if inc then [headed label stamp] else []) ++
        (rs.filter fun r => inc || !posesAsHeader r).map told) ∧
    (load path (((observer slot path (labelled label) .fresh stamp : Observer τ).fed rs
        out).files.get? path) inc =
      .ok ((if inc then [headed label stamp] else []) ++
        rs.map fun r => (r.map .ofScalar).entries) ↔ ∀ r ∈ rs, r.contains "type" = false) := by
  have hload := load_written τ slot path label stamp out rs hall inc
  refine ⟨hload, fun hexact => ?_, fun hunmarked => ?_⟩
  · have hsame := List.append_cancel_left (Except.ok.inj (hload.symm.trans hexact))
    have hlength := congrArg List.length hsame
    rw [List.length_map, List.length_map, List.length_filter_eq_length_iff] at hlength
    rw [List.filter_eq_self.mpr hlength, List.map_inj_left] at hsame
    exact fun r hr => (told_eq_iff r).mp (hsame r hr)
  · have hkept : ∀ r ∈ rs, (inc || !posesAsHeader r) = true := by
      intro r hr
      unfold posesAsHeader
      rw [mark_of_unmarked (hunmarked r hr)]
      simp
    rw [hload, List.filter_eq_self.mpr hkept]
    congr 2
    exact List.map_congr_left fun r hr => told_of_unmarked (hunmarked r hr)

def marked (mark : String) : Record := Table.ofList [("type", .text mark), ("iter", .int 0)]

theorem legible_marked (mark : String) : (marked mark).Legible := by
  intro e he
  have hentries : (marked mark).entries = [("type", .text mark), ("iter", .int 0)] := rfl
  rw [hentries] at he
  simp only [List.mem_cons, List.not_mem_nil, or_false] at he
  rcases he with rfl | rfl
  · trivial
  · exact Nat.pow_pos (by decide)

/-- The law for a record with a mark of its own. -/
theorem a_mark_is_not_read : ∃ text,
    ((observer 0 "run" .null .fresh "08:00" : Observer Float).fed [marked "note"] .empty).files.get?
        "run" = some text ∧
      read text true = .ok [[("run", .null), ("format_version", .int 1),
        ("created_at", .text "08:00")], [("iter", .int 0)]] := by
  have hlaw := (records_are_read_as_they_were_told Float 0 "run" none "08:00" .empty
    [marked "note"] (by simp [legible_marked]) true).1
  have hwritten := written Float 0 "run" .null "08:00" .empty [marked "note"]
  refine ⟨_, hwritten, ?_⟩
  rw [show labelled none = .null from rfl, hwritten] at hlaw
  exact hlaw

/-- A record whose mark is that of a header is left out with the headers; it comes
without its mark if they are read. -/
theorem a_record_can_pass_for_a_header : ∃ r : Record,
    r.Legible ∧ r.entries = [("type", .text "header"), ("iter", .int 0)] ∧
      ∃ text, ((observer 0 "run" .null .fresh "08:00" : Observer Float).fed [r] .empty).files.get?
          "run" = some text ∧
        read text false = .ok [] ∧
        read text true = .ok [[("run", .null), ("format_version", .int 1),
          ("created_at", .text "08:00")], [("iter", .int 0)]] := by
  have hread := load_written Float 0 "run" none "08:00" .empty [marked "header"]
    (by simp [legible_marked])
  have hwritten := written Float 0 "run" .null "08:00" .empty [marked "header"]
  rw [show labelled none = .null from rfl, hwritten] at hread
  exact ⟨marked "header", legible_marked _, rfl, _, hwritten, hread false, hread true⟩

end JsonLines

end Minimize
