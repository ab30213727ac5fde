-- Appending to a file of records. What a writer puts into the file stands behind
-- all that stood there, and its header begins where that ended. So the header is
-- read, and nothing is lost, if the last line was blank. Otherwise the header stands
-- on the line that was begun, and that line is no JSON any more: the header is lost,
-- and so is what the line was.
import Minimize.Proofs.Behind
import Minimize.Proofs.Damage

namespace Minimize

/-! ## Lines of a longer text -/

namespace Text

def ended (cs : List Char) : List (List Char) := (lines cs).dropLast

/-- What stands behind the last end of a line. -/
def unended (cs : List Char) : List Char := (lines cs).getLastD []

theorem lines_ne_nil (cs : List Char) : lines cs ≠ [] := by
  fun_cases lines cs <;> simp_all

theorem lines_eq (cs : List Char) : lines cs = ended cs ++ [unended cs] := by
  have hne := lines_ne_nil cs
  unfold ended unended
  rw [List.getLastD_eq_getLast?, List.getLast?_eq_some_getLast hne]
  exact (List.dropLast_append_getLast hne).symm

theorem lines_of_return {cs : List Char} (h : ∀ rest, cs ≠ '\n' :: rest) :
    lines ('\r' :: cs) = [] :: lines cs := lines.eq_3 cs h

theorem lines_of_plain {c : Char} (hreturn : c ≠ '\r') (hfeed : c ≠ '\n') {cs l : List Char}
    {ls : List (List Char)} (h : lines cs = l :: ls) : lines (c :: cs) = (c :: l) :: ls := by
  rw [lines.eq_5 c cs (fun _ h => absurd h hreturn) hreturn hfeed, h]

/-- The lines of a text, and those of the text with something behind it: the last of
them goes on. -/
theorem lines_split {X l : List Char} {ls : List (List Char)} (hX : lines X = l :: ls)
    (hfeed : ∀ rest, X ≠ '\n' :: rest) (cs : List Char) :
    ∃ front last, lines cs = front ++ [last] ∧ lines (cs ++ X) = front ++ (last ++ l) :: ls := by
  fun_induction lines cs with
  | case1 => exact ⟨[], [], rfl, hX⟩
  | case2 rest ih =>
    obtain ⟨front, last, hlines, hbehind⟩ := ih
    refine ⟨[] :: front, last, by rw [hlines]; rfl, ?_⟩
    exact (lines.eq_2 (rest ++ X)).trans (by rw [hbehind]; rfl)
  | case3 rest hno ih =>
    obtain ⟨front, last, hlines, hbehind⟩ := ih
    refine ⟨[] :: front, last, by rw [hlines]; rfl, ?_⟩
    have hno' : ∀ t, rest ++ X ≠ '\n' :: t := by
      intro t ht
      cases rest with
      | nil => exact hfeed t ht
      | cons c rest => exact hno rest (by rw [(List.cons.inj ht).1])
    exact (lines_of_return hno').trans (by rw [hbehind]; rfl)
  | case4 rest ih =>
    obtain ⟨front, last, hlines, hbehind⟩ := ih
    refine ⟨[] :: front, last, by rw [hlines]; rfl, ?_⟩
    exact (lines.eq_4 (rest ++ X)).trans (by rw [hbehind]; rfl)
  | case5 c rest _ _ _ hnil => exact absurd hnil (lines_ne_nil rest)
  | case6 c rest _ hreturn hline l' ls' hrest ih =>
    obtain ⟨front, last, hlines, hbehind⟩ := ih
    rw [hlines] at hrest
    cases front with
    | nil =>
      cases hrest
      exact ⟨[], c :: l', rfl, lines_of_plain hreturn hline hbehind⟩
    | cons l front =>
      cases hrest
      exact ⟨(c :: l') :: front, last, rfl, lines_of_plain hreturn hline hbehind⟩

/-- What is put behind a text begins where its last line stopped. -/
theorem lines_behind {X l : List Char} {ls : List (List Char)} (hX : lines X = l :: ls)
    (hfeed : ∀ rest, X ≠ '\n' :: rest) (cs : List Char) :
    lines (cs ++ X) = ended cs ++ (unended cs ++ l) :: ls := by
  obtain ⟨front, last, hlines, hbehind⟩ := lines_split hX hfeed cs
  obtain ⟨hfront, hlast⟩ := List.append_inj' ((lines_eq cs).symm.trans hlines) rfl
  rw [hbehind, hfront, (List.cons.inj hlast).1]

/-- What stands between the blanks of a text, and the blanks behind it. -/
theorem dropWhile_eq_trimmed (kind : Char → Bool) (cs : List Char) :
    ∃ bs, cs.dropWhile kind = trimmed kind cs ++ bs ∧ ∀ b ∈ bs, kind b = true := by
  refine ⟨((cs.dropWhile kind).reverse.takeWhile kind).reverse, ?_, fun b hb => ?_⟩
  · unfold trimmed
    rw [← List.reverse_append, List.takeWhile_append_dropWhile, List.reverse_reverse]
  · exact List.mem_takeWhile_imp (List.mem_reverse.mp hb)

/-- A text that ends in no blank is trimmed at its front only. -/
theorem trimmed_append {kind : Char → Bool} {b : Char} (hb : kind b = false) (cs : List Char) :
    trimmed kind (cs ++ [b]) = (cs ++ [b]).dropWhile kind := by
  unfold trimmed
  rw [List.dropWhile_append]
  split <;> simp [hb]

end Text

namespace RecordFile

open JsonValue

variable {m : String × JsonValue} {ms : List (String × JsonValue)} {u : List Char}

/-! ## An object on a line that was begun -/

def Blank (cs : List Char) : Prop := ∀ c ∈ cs, Text.isBlank c = true

theorem dropWhile_blank (hu : Blank u) : u.dropWhile Text.isBlank = [] :=
  List.dropWhile_eq_nil_iff.mpr hu

theorem parsed_blank (hu : Blank u) : parsed u = .error .malformedText := by
  unfold parsed Text.trimmed
  rw [dropWhile_blank hu]
  rfl

/-- An object behind blanks is read as it is. -/
theorem parsed_behind_blank (hplain : ∀ n ∈ m :: ms, n.2.isPlain = true)
    (hlegible : ∀ n ∈ m :: ms, n.2.Legible) (hdistinct : ((m :: ms).map (·.1)).Nodup)
    (hu : Blank u) : parsed (u ++ chars (.object (m :: ms))) = .ok (.object (m :: ms)) := by
  obtain ⟨cs, hcs, -⟩ := chars_object_printed hplain
  have htrimmed : Text.trimmed Text.isBlank (u ++ chars (.object (m :: ms))) =
      chars (.object (m :: ms)) := by
    rw [hcs, ← List.cons_append, ← List.append_assoc, Text.trimmed_append rfl, List.append_assoc,
      List.dropWhile_append, dropWhile_blank hu]
    rfl
  unfold parsed
  rw [htrimmed]
  exact ofChars_object hlegible hdistinct

/-- An object behind a line that was begun is not read; and neither is what was begun,
unless nothing is read any more as there is no room for the object. -/
theorem parsed_behind (hplain : ∀ n ∈ m :: ms, n.2.isPlain = true)
    (hlegible : ∀ n ∈ m :: ms, n.2.Legible) (hdistinct : ((m :: ms).map (·.1)).Nodup)
    (hopen : ∃ t, memberChars m ++ membersChars ms = '"' :: 't' :: t) (hu : ¬ Blank u)
    (hharmless : Harmless u) :
    parsed (u ++ chars (.object (m :: ms))) = .error .malformedText ∨
      (parsed (u ++ chars (.object (m :: ms))) = .error .tooDeep ∧
        depthLimit ≤ u.countP isOpening) := by
  obtain ⟨cs, hcs, -⟩ := chars_object_printed hplain
  obtain ⟨t, ht⟩ := hopen
  obtain ⟨bs, hdrop, hbs⟩ := Text.dropWhile_eq_trimmed Text.isBlank u
  have hchars : chars (.object (m :: ms)) = '\x7b' :: '"' :: 't' :: t := by
    rw [chars_object, ht]
  have hne : u.dropWhile Text.isBlank ≠ [] := fun h => hu (List.dropWhile_eq_nil_iff.mp h)
  have htrimmed : Text.trimmed Text.isBlank (u ++ chars (.object (m :: ms))) =
      Text.trimmed Text.isBlank u ++ (bs ++ '\x7b' :: '"' :: 't' :: t) := by
    rw [← hchars, ← List.append_assoc, ← hdrop, hcs, ← List.cons_append, ← List.append_assoc,
      Text.trimmed_append rfl, List.append_assoc, List.dropWhile_append]
    simp [hne]
  have hlaid : Laid (m :: ms) ('"' :: 't' :: t) := ht ▸ laid_members m ms
  have hvisible : skip (Text.trimmed Text.isBlank u) ≠ [] := by
    intro hskip
    have hnone : ∀ c ∈ Text.trimmed Text.isBlank u, Text.isBlank c = true :=
      fun c hc => isBlank_of_isSpace (List.dropWhile_eq_nil_iff.mp hskip c hc)
    have hall : Blank (u.dropWhile Text.isBlank) := by
      rw [hdrop]
      exact List.forall_mem_append.mpr ⟨hnone, hbs⟩
    exact absurd (hall _ (List.head_mem hne)) (by simp [List.head_dropWhile_not _ hne])
  unfold parsed
  rw [htrimmed]
  rcases ofChars_behind (hlaid.intruder hbs hlegible hdistinct) hvisible with
    h | ⟨h, hdeep⟩ | ⟨e, halone, h⟩
  · exact .inl h
  · exact .inr ⟨h, hdeep.trans (Text.trimmed_infix _ u).sublist.countP_le⟩
  · cases refusal_of_ofChars halone with
    | malformed => exact .inl h
    | long => exact absurd (.long halone) (hharmless _)
    | deep => exact absurd (.deep halone) (hharmless _)

/-! ## Files that are appended to -/

variable {inc : Bool} {text rest : String} {label : Option String} {stamp : String}
  {es ls : List (List (String × JsonValue))}

theorem entriesOf_append (inc : Bool) (ls₁ ls₂ : List (List Char)) :
    entriesOf inc (ls₁ ++ ls₂) = entriesOf inc ls₁ ++ entriesOf inc ls₂ :=
  List.filterMap_append

theorem entriesOf_cons (inc : Bool) (l : List Char) (ls : List (List Char)) :
    entriesOf inc (l :: ls) = ((object? l).bind (shown inc)).toList ++ entriesOf inc ls := by
  unfold entriesOf
  rw [List.filterMap_cons]
  cases (object? l).bind (shown inc) <;> rfl

theorem entriesOf_unread {l : List Char} (h : parsed l = .error .malformedText)
    (ls : List (List Char)) : entriesOf inc (l :: ls) = entriesOf inc ls := by
  rw [entriesOf_cons]
  unfold object?
  rw [h]
  rfl

theorem harmless_of_unread {l : List Char} (h : parsed l = .error .malformedText) :
    Harmless l := by
  intro s hs
  cases hs <;> simp_all

theorem harmless_of_object {l : List Char} {ms : List (String × JsonValue)}
    (h : parsed l = .ok (.object ms)) : Harmless l := by
  intro s hs
  cases hs with
  | plain hj hplain =>
    rw [h] at hj
    cases hj
    cases hplain
  | _ => simp_all

theorem lines_behind_header (text : String) (label : Option String) (stamp : String)
    (rest : String) :
    Text.lines (text ++ (line (header (labelled label) stamp) ++ rest)).toList =
      Text.ended text.toList ++
        (Text.unended text.toList ++ chars (header (labelled label) stamp)) ::
          Text.lines rest.toList := by
  have hline : Text.lines (line (header (labelled label) stamp) ++ rest).toList =
      chars (header (labelled label) stamp) :: Text.lines rest.toList :=
    lines_line (fun n => isPlain_of_mem_header) rest
  rw [String.toList_append]
  refine Text.lines_behind hline (fun t ht => ?_) text.toList
  unfold line header at ht
  rw [String.toList_append, String.toList_ofList, chars_object] at ht
  exact absurd (List.cons.inj ht).1 (by decide)

/-- Behind a blank line a header is read, and so is all that follows. -/
theorem read_behind_blank (hread : read text inc = .ok es) (hrest : read rest inc = .ok ls)
    (hblank : Blank (Text.unended text.toList)) :
    read (text ++ (line (header (labelled label) stamp) ++ rest)) inc =
      .ok (es ++ ((if inc then [headed label stamp] else []) ++ ls)) := by
  obtain ⟨hall, rfl⟩ := read_ok_iff.mp hread
  obtain ⟨hall', rfl⟩ := read_ok_iff.mp hrest
  have hparsed : parsed (Text.unended text.toList ++ chars (header (labelled label) stamp)) =
      .ok (header (labelled label) stamp) :=
    parsed_behind_blank (fun n => isPlain_of_mem_header) (fun n => legible_of_mem_header)
      (distinct_header label stamp) hblank
  have hshown : ((object? (Text.unended text.toList ++
      chars (header (labelled label) stamp))).bind (shown inc)).toList =
      if inc then [headed label stamp] else [] := by
    unfold object?
    rw [hparsed]
    cases inc <;> rfl
  rw [Text.lines_eq text.toList] at hall ⊢
  rw [read_ok_iff, lines_behind_header, entriesOf_append, entriesOf_append,
    entriesOf_unread (parsed_blank hblank), entriesOf_cons, hshown]
  refine ⟨?_, by simp [entriesOf]⟩
  rw [List.forall_mem_append, List.forall_mem_cons]
  exact ⟨(List.forall_mem_append.mp hall).1, harmless_of_object hparsed, hall'⟩

/-- Behind a line that was begun a header is not read, and neither is what was begun.
If too many lists and objects were begun there, nothing is read any more. -/
theorem read_behind_begun (hread : read text inc = .ok es) (hrest : read rest inc = .ok ls)
    (hbegun : ¬ Blank (Text.unended text.toList)) :
    read (text ++ (line (header (labelled label) stamp) ++ rest)) inc =
        .ok (entriesOf inc (Text.ended text.toList) ++ ls) ∨
      (read (text ++ (line (header (labelled label) stamp) ++ rest)) inc = .error (.slip .tooDeep) ∧
        depthLimit ≤ (Text.unended text.toList).countP isOpening) := by
  obtain ⟨hall, rfl⟩ := read_ok_iff.mp hread
  obtain ⟨hall', rfl⟩ := read_ok_iff.mp hrest
  rw [Text.lines_eq text.toList] at hall
  obtain ⟨hended, hlast⟩ := List.forall_mem_append.mp hall
  have hlines := lines_behind_header text label stamp rest
  have hheader : parsed (Text.unended text.toList ++ chars (header (labelled label) stamp)) =
        .error .malformedText ∨
      (parsed (Text.unended text.toList ++ chars (header (labelled label) stamp)) =
        .error .tooDeep ∧ depthLimit ≤ (Text.unended text.toList).countP isOpening) :=
    parsed_behind (fun n => isPlain_of_mem_header) (fun n => legible_of_mem_header)
      (distinct_header label stamp) ⟨_, rfl⟩ hbegun (hlast _ List.mem_cons_self)
  rcases hheader with hparsed | ⟨hparsed, hdeep⟩
  · refine .inl (read_ok_iff.mpr ?_)
    rw [hlines, entriesOf_append, entriesOf_unread hparsed]
    refine ⟨?_, rfl⟩
    rw [List.forall_mem_append, List.forall_mem_cons]
    exact ⟨hended, harmless_of_unread hparsed, hall'⟩
  · exact .inr ⟨read_refused hlines hended (.deep hparsed), hdeep⟩

end RecordFile

namespace JsonLines

open RecordFile JsonValue

variable (τ : Type) (slot : Nat) (path : String) (label : Option String) (stamp : String)
  (out : Outlets) (rs : List Record) {text : String} {es : List (List (String × JsonValue))}

/-- What a file has after a writer was set up behind what stood in it, and was told of
records. Those that can be written stand there. -/
theorem appended (run : JsonValue) (hfile : out.files.get? path = some text) :
    ((observer slot path run .append stamp : Observer τ).fed rs out).files.get? path =
      some (text ++ (line (header run stamp) ++ linesOf rs)) := by
  have hopened : (opened path run .append stamp out).files.get? path =
      some (text ++ line (header run stamp)) := by
    have htext : out.textOf path = text := by
      unfold Outlets.textOf
      rw [hfile]
      rfl
    show (out.appendFile path _).files.get? path = _
    rw [Outlets.textOf_appendFile, htext]
  rw [← String.append_assoc]
  exact textOf_told τ slot path run stamp _ rs .append hopened

/-- What is read from a file, its headers with it, after a writer was set up behind
what stood in it, and was told of records. -/
def reread : Except Fault (List (List (String × JsonValue))) :=
  load path (((observer slot path (labelled label) .append stamp : Observer τ).fed rs
    out).files.get? path) true

theorem read_unmarked (hall : ∀ r ∈ rs, r.Legible)
    (hunmarked : ∀ r ∈ rs, r.contains "type" = false) :
    read (String.join (rs.map fun r => line (entry r))) true =
      .ok (rs.map fun r => (r.map .ofScalar).entries) := by
  rw [read_records hall]
  simp only [Bool.true_or, List.filter_true]
  exact congrArg Except.ok (List.map_congr_left fun r hr => told_of_unmarked (hunmarked r hr))

/-! ## The law -/

/-- A file that can be read, headers and all, is appended to: a header and then
records, none of which has an entry under `type`. If the last line of the file was
blank, what is read afterwards is what was read before, the header, and the records
in their order. Otherwise the header is lost, and with it what the last line was; or
nothing is read any more, as the last line had begun too many lists and objects. So
nothing is lost if, and only if, the last line was blank. -/
theorem appending_loses_nothing_behind_a_blank_line (hfile : out.files.get? path = some text)
    (hread : read text true = .ok es) (hall : ∀ r ∈ rs, r.Legible)
    (hunmarked : ∀ r ∈ rs, r.contains "type" = false) :
    es = entriesOf true (Text.ended text.toList) ++
      ((object? (Text.unended text.toList)).bind (shown true)).toList ∧
    (Blank (Text.unended text.toList) → reread τ slot path label stamp out rs =
      .ok (es ++ headed label stamp :: rs.map fun r => (r.map .ofScalar).entries)) ∧
    (¬ Blank (Text.unended text.toList) →
      reread τ slot path label stamp out rs =
          .ok (entriesOf true (Text.ended text.toList) ++
            rs.map fun r => (r.map .ofScalar).entries) ∨
        (reread τ slot path label stamp out rs = .error (.slip .tooDeep) ∧
          depthLimit ≤ (Text.unended text.toList).countP isOpening)) ∧
    (reread τ slot path label stamp out rs =
      .ok (es ++ headed label stamp :: rs.map fun r => (r.map .ofScalar).entries) ↔
        Blank (Text.unended text.toList)) := by
  have hrest := read_unmarked rs hall hunmarked
  have hes : es = entriesOf true (Text.ended text.toList) ++
      ((object? (Text.unended text.toList)).bind (shown true)).toList := by
    rw [(read_ok_iff.mp hread).2, Text.lines_eq text.toList, entriesOf_append, entriesOf_cons]
    simp [entriesOf]
  have hblank (h : Blank (Text.unended text.toList)) : reread τ slot path label stamp out rs =
      .ok (es ++ headed label stamp :: rs.map fun r => (r.map .ofScalar).entries) := by
    unfold reread
    rw [appended τ slot path stamp out rs _ hfile, linesOf_legible rs hall]
    exact read_behind_blank hread hrest h
  have hbegun (h : ¬ Blank (Text.unended text.toList)) :
      reread τ slot path label stamp out rs =
          .ok (entriesOf true (Text.ended text.toList) ++
            rs.map fun r => (r.map .ofScalar).entries) ∨
        (reread τ slot path label stamp out rs = .error (.slip .tooDeep) ∧
          depthLimit ≤ (Text.unended text.toList).countP isOpening) := by
    unfold reread
    rw [appended τ slot path stamp out rs _ hfile, linesOf_legible rs hall]
    exact read_behind_begun hread hrest h
  refine ⟨hes, hblank, hbegun, fun h => ?_, hblank⟩
  -- One entry too few is read if the last line was begun.
  by_contra hnot
  rcases hbegun hnot with hok | ⟨herror, -⟩
  · have hlength := congrArg List.length (Except.ok.inj (h.symm.trans hok))
    rw [hes] at hlength
    simp only [List.length_append, List.length_cons] at hlength
    omega
  · rw [herror] at h
    cases h

def iterated (i : Int) : Record := Table.ofList [("iter", .int i)]

theorem legible_iterated {i : Int} (hi : i.natAbs < 10 ^ Text.digitLimit) :
    (iterated i).Legible := by
  intro e he
  have hentries : (iterated i).entries = [("iter", .int i)] := rfl
  rw [hentries, List.mem_singleton] at he
  subst he
  exact hi

/-- The law for a file whose last line was torn off: only the record is read. -/
theorem a_header_is_lost_behind_a_torn_line :
    reread Float 0 "run" none "08:00" (Outlets.empty.writeFile "run" "\x7b\"it") [iterated 1] =
      .ok [[("iter", .int 1)]] := by
  have hone : (iterated 1).Legible := legible_iterated (Nat.one_lt_pow (by decide) (by decide))
  have hlaw := (appending_loses_nothing_behind_a_blank_line Float 0 "run" none "08:00"
    (Outlets.empty.writeFile "run" "\x7b\"it") [iterated 1] rfl rfl
    (List.forall_mem_singleton.mpr hone) (List.forall_mem_singleton.mpr rfl)).2.2.1
  have hbegun : ¬ Blank (Text.unended "\x7b\"it".toList) :=
    fun h => absurd (h '\x7b' (by decide)) (by decide)
  rcases hlaw hbegun with hok | ⟨-, hdeep⟩
  · exact hok
  · exact absurd hdeep (by decide)

/-- Of a line that was ended with its file, neither the entry is read any more nor the
header behind it. -/
theorem an_entry_is_lost_with_the_header_behind_it :
    read "\x7b\"iter\": 0\x7d" true = .ok [[("iter", .int 0)]] ∧
      reread Float 0 "run" none "08:00" (Outlets.empty.writeFile "run" "\x7b\"iter\": 0\x7d")
        [iterated 1] = .ok [[("iter", .int 1)]] := by
  have hone : (iterated 1).Legible := legible_iterated (Nat.one_lt_pow (by decide) (by decide))
  have hlines : Text.lines "\x7b\"iter\": 0\x7d".toList =
      ["\x7b\"iter\": 0\x7d".toList] := by decide
  have hread : read "\x7b\"iter\": 0\x7d" true = .ok [[("iter", .int 0)]] := by
    rw [read_ok_iff, hlines, entriesOf_cons]
    refine ⟨by simpa using harmless_of_object parsed_one_entry, ?_⟩
    unfold object?
    rw [parsed_one_entry]
    rfl
  have hbegun : ¬ Blank (Text.unended "\x7b\"iter\": 0\x7d".toList) :=
    fun h => absurd (h '\x7b' (by decide)) (by decide)
  have hrest := read_unmarked [iterated 1] (List.forall_mem_singleton.mpr hone)
    (List.forall_mem_singleton.mpr rfl)
  refine ⟨hread, ?_⟩
  unfold reread
  rw [appended Float 0 "run" "08:00" _ [iterated 1] (labelled none) rfl,
    linesOf_legible [iterated 1] (List.forall_mem_singleton.mpr hone)]
  rcases read_behind_begun hread hrest hbegun with hok | ⟨-, hdeep⟩
  · exact hok
  · exact absurd hdeep (by decide)

end JsonLines

end Minimize
