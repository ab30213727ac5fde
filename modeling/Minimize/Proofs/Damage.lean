-- Reading a file of records that something has damaged. Blank lines and lines
-- that are no JSON are passed over, and objects give their entries. But a line that
-- is JSON and no object ends the reading with a failure, and so does one with a row
-- of too many digits, or with too many lists and objects in each other.
import Minimize.Proofs.Lines
import Minimize.Proofs.Parsing

namespace Minimize

/-- What is left between the ends of a text stands in the text. -/
theorem Text.trimmed_infix (kind : Char → Bool) (cs : List Char) : trimmed kind cs <:+: cs := by
  have hends := List.reverse_prefix.mpr
    (List.dropWhile_suffix (l := (cs.dropWhile kind).reverse) kind)
  rw [List.reverse_reverse] at hends
  exact hends.isInfix.trans (List.dropWhile_suffix kind).isInfix

namespace RecordFile

open JsonValue

variable {inc : Bool} {text : String} {l : List Char} {ls : List (List Char)} {s : Slip}

/-! ## Kinds of lines -/

/-- What a line comes to as JSON. -/
def parsed (l : List Char) : Except Slip JsonValue := ofChars (Text.trimmed Text.isBlank l)

/-- A line that a reading does not get over, and what is wrong with it. -/
inductive Refused (l : List Char) : Slip → Prop
  | list {js : List JsonValue} (h : parsed l = .ok (.list js)) : Refused l .wrongType
  | plain {j : JsonValue} (h : parsed l = .ok j) (hj : j.isPlain = true) :
      Refused l .missingAttribute
  | long (h : parsed l = .error .badValue) : Refused l .badValue
  | deep (h : parsed l = .error .tooDeep) : Refused l .tooDeep

def Harmless (l : List Char) : Prop := ∀ s, ¬ Refused l s

/-- The members of the object on a line, if there is one. -/
def object? (l : List Char) : Option (List (String × JsonValue)) :=
  match parsed l with
  | .ok (.object ms) => some ms
  | _ => none

def isHeader (ms : List (String × JsonValue)) : Bool :=
  match (ms.find? (fun m => m.1 = "type")).map (·.2) with
  | some (JsonValue.text s) => s == "header"
  | _ => false

/-- What is shown of an object: all but its mark. Headers may be left out. -/
def shown (inc : Bool) (ms : List (String × JsonValue)) : Option (List (String × JsonValue)) :=
  if isHeader ms && !inc then none else some (ms.filter fun m => m.1 ≠ "type")

def entriesOf (inc : Bool) (ls : List (List Char)) : List (List (String × JsonValue)) :=
  ls.filterMap fun l => (object? l).bind (shown inc)

/-- A line is no JSON, it is an object, or it is refused. -/
theorem line_cases (l : List Char) :
    parsed l = .error .malformedText ∨ (∃ ms, parsed l = .ok (.object ms)) ∨ ∃ s, Refused l s := by
  cases h : parsed l with
  | error s =>
    cases refusal_of_ofChars h with
    | malformed => exact .inl rfl
    | long => exact .inr (.inr ⟨_, .long h⟩)
    | deep => exact .inr (.inr ⟨_, .deep h⟩)
  | ok j =>
    cases j with
    | object ms => exact .inr (.inl ⟨ms, rfl⟩)
    | list js => exact .inr (.inr ⟨_, .list h⟩)
    | _ => exact .inr (.inr ⟨_, .plain h rfl⟩)

theorem readLine_refused (h : Refused l s) : readLine inc l = .error (.slip s) := by
  unfold readLine
  cases h with
  | list h =>
    rw [show ofChars _ = _ from h]
    rfl
  | plain h hj =>
    rw [show ofChars _ = _ from h]
    rename_i j
    cases j with
    | list js => cases hj
    | object ms => cases hj
    | _ => rfl
  | long h => rw [show ofChars _ = _ from h]
  | deep h => rw [show ofChars _ = _ from h]

theorem readLine_harmless (h : Harmless l) :
    readLine inc l = .ok ((object? l).bind (shown inc)) := by
  unfold readLine object?
  rcases line_cases l with hl | ⟨ms, hl⟩ | ⟨s, hl⟩
  · rw [hl, show ofChars _ = _ from hl]
    rfl
  · rw [hl, show ofChars _ = _ from hl]
    show kept inc (.object ms) = .ok (shown inc ms)
    rfl
  · exact absurd hl (h s)

/-! ## Readings -/

/-- Harmless lines are read, and show what they show. -/
theorem mapM_harmless (h : ∀ l ∈ ls, Harmless l) :
    ls.mapM (readLine inc) = .ok (ls.map fun l => (object? l).bind (shown inc)) := by
  induction ls with
  | nil => rfl
  | cons l ls ih =>
    rw [List.mapM_cons, readLine_harmless (h l List.mem_cons_self),
      ih fun x hx => h x (List.mem_cons_of_mem l hx)]
    rfl

/-- The first line that is refused ends the reading. -/
theorem mapM_refused {before after : List (List Char)} (h : ∀ b ∈ before, Harmless b)
    (hl : Refused l s) : (before ++ l :: after).mapM (readLine inc) = .error (.slip s) := by
  rw [List.mapM_append, mapM_harmless h, List.mapM_cons, readLine_refused hl]
  rfl

theorem first_refused (ls : List (List Char)) : (∀ l ∈ ls, Harmless l) ∨
    ∃ before l after s, ls = before ++ l :: after ∧ (∀ b ∈ before, Harmless b) ∧ Refused l s := by
  induction ls with
  | nil => exact .inl fun l hl => absurd hl List.not_mem_nil
  | cons l ls ih =>
    by_cases hl : Harmless l
    · rcases ih with hall | ⟨before, l', after, s, rfl, hbefore, hs⟩
      · exact .inl (List.forall_mem_cons.mpr ⟨hl, hall⟩)
      · exact .inr ⟨l :: before, l', after, s, rfl, List.forall_mem_cons.mpr ⟨hl, hbefore⟩, hs⟩
    · obtain ⟨s, hs⟩ := not_forall_not.mp hl
      exact .inr ⟨[], l, ls, s, rfl, fun b hb => absurd hb List.not_mem_nil, hs⟩

theorem read_harmless (h : ∀ l ∈ Text.lines text.toList, Harmless l) :
    read text inc = .ok (entriesOf inc (Text.lines text.toList)) := by
  unfold read entriesOf
  rw [mapM_harmless h]
  show Except.ok _ = _
  rw [List.filterMap_map]
  rfl

theorem read_refused {before after : List (List Char)}
    (hlines : Text.lines text.toList = before ++ l :: after) (h : ∀ b ∈ before, Harmless b)
    (hl : Refused l s) : read text inc = .error (.slip s) := by
  unfold read
  rw [hlines, mapM_refused h hl]
  rfl

/-- A line that is refused is JSON and no object, or it has a row of too many
digits, or too many lists and objects begin in it. -/
theorem Refused.reason (h : Refused l s) :
    (∃ j, parsed l = .ok j ∧ ∀ ms, j ≠ .object ms) ∨
      (∃ row, row <:+: l ∧ (∀ c ∈ row, isDigit c = true) ∧ Text.digitLimit < row.length) ∨
      depthLimit < l.countP isOpening := by
  cases h with
  | @list js h => exact .inl ⟨.list js, h, fun ms hms => nomatch hms⟩
  | @plain j h hj =>
    refine .inl ⟨j, h, fun ms hms => ?_⟩
    rw [hms] at hj
    cases hj
  | long h =>
    cases refusal_of_ofChars h with
    | @long row hrow hdigits hlength =>
      exact .inr (.inl ⟨row, hrow.trans (Text.trimmed_infix _ l), hdigits, hlength⟩)
  | deep h =>
    cases refusal_of_ofChars h with
    | deep hopenings =>
      exact .inr (.inr (hopenings.trans_le (Text.trimmed_infix _ l).sublist.countP_le))

theorem read_ok_iff {es : List (List (String × JsonValue))} : read text inc = .ok es ↔
    (∀ l ∈ Text.lines text.toList, Harmless l) ∧ es = entriesOf inc (Text.lines text.toList) := by
  constructor
  · intro h
    rcases first_refused (Text.lines text.toList) with
      hall | ⟨before, l, after, s, hlines, hbefore, hs⟩
    · exact ⟨hall, Except.ok.inj (h.symm.trans (read_harmless hall))⟩
    · rw [read_refused hlines hbefore hs] at h
      cases h
  · rintro ⟨hall, rfl⟩
    exact read_harmless hall

theorem read_error_iff {f : Fault} : read text inc = .error f ↔
    ∃ before l after s, Text.lines text.toList = before ++ l :: after ∧
      (∀ b ∈ before, Harmless b) ∧ Refused l s ∧ f = .slip s := by
  constructor
  · intro h
    rcases first_refused (Text.lines text.toList) with
      hall | ⟨before, l, after, s, hlines, hbefore, hs⟩
    · rw [read_harmless hall] at h
      cases h
    · exact ⟨before, l, after, s, hlines, hbefore, hs,
        Except.error.inj (h.symm.trans (read_refused hlines hbefore hs))⟩
  · rintro ⟨before, l, after, s, hlines, hbefore, hs, rfl⟩
    exact read_refused hlines hbefore hs

/-! ## The law -/

/-- A file is read if every line of it is blank, or no JSON, or an object. Then the
objects are shown in their order, each without its mark, and headers only if they
are asked for. Otherwise the first line that is refused ends the reading with what
is wrong with it: it is a list, or another value that is no object, or it has a row
of too many digits, or too many lists and objects begin in it. -/
theorem a_file_is_read_if_no_line_is_refused (path text : String) (inc : Bool) :
    (∀ es, load path (some text) inc = .ok es ↔
      (∀ l ∈ Text.lines text.toList, Harmless l) ∧
        es = entriesOf inc (Text.lines text.toList)) ∧
    (∀ f, load path (some text) inc = .error f ↔
      ∃ before l after s, Text.lines text.toList = before ++ l :: after ∧
        (∀ b ∈ before, Harmless b) ∧ Refused l s ∧ f = .slip s) ∧
    ∀ l s, Refused l s →
      (∃ j, parsed l = .ok j ∧ ∀ ms, j ≠ .object ms) ∨
        (∃ row, row <:+: l ∧ (∀ c ∈ row, isDigit c = true) ∧ Text.digitLimit < row.length) ∨
        depthLimit < l.countP isOpening :=
  ⟨fun _ => read_ok_iff, fun _ => read_error_iff, fun _ _ => Refused.reason⟩

theorem parsed_one_entry :
    parsed "\x7b\"iter\": 0\x7d".toList = .ok (.object [("iter", .int 0)]) := by
  have hzero : (JsonValue.int 0).Legible := (readsBack_int (Nat.pow_pos (by decide))).legible rfl
  have hchars : Text.trimmed Text.isBlank "\x7b\"iter\": 0\x7d".toList =
      chars (.object [("iter", .int 0)]) := rfl
  unfold parsed
  rw [hchars]
  exact ofChars_object (by simpa using hzero) (by simp)

/-- A list on a line ends the reading, though there is an object on the next. -/
theorem a_list_on_a_line_ends_the_reading :
    load "log" (some "[1]\n\x7b\"iter\": 0\x7d\n") false = .error (.slip .wrongType) ∧
      entriesOf false (Text.lines "[1]\n\x7b\"iter\": 0\x7d\n".toList) =
        [[("iter", .int 0)]] := by
  have hlines : Text.lines "[1]\n\x7b\"iter\": 0\x7d\n".toList =
      [] ++ "[1]".toList :: ["\x7b\"iter\": 0\x7d".toList, []] := by decide
  have hlist : parsed "[1]".toList = .ok (.list [.int 1]) := rfl
  have hblank : parsed [] = .error .malformedText := rfl
  refine ⟨read_refused hlines (fun b hb => absurd hb List.not_mem_nil) (.list hlist), ?_⟩
  rw [hlines]
  simp only [entriesOf, object?, List.nil_append, List.filterMap_cons, hlist, parsed_one_entry,
    hblank, Option.bind_none, Option.bind_some, List.filterMap_nil]
  rfl

end RecordFile

end Minimize
