-- The ways in which a record is made. It can be made of a mapping, of named
-- values, or by setting its entries one after the other, and all of them take
-- the same values and refuse the others with the same fault. But two names are
-- taken for something else when values are given by name: `self` is no name at
-- all, and `values` is the mapping on which the others are laid.
import Minimize.Proofs.Overlay

namespace Minimize

/-! ## What a record takes -/

/-- A value that a record takes: a truth value, a number that is no complex
one, or a text, each as it is or out of a typed array. -/
inductive Value.Holdable : Value → Prop where
  | bool (b : Bool) : Holdable (.bool b)
  | int (i : Int) : Holdable (.int i)
  | float (x : Float) : Holdable (.float x)
  | text (s : String) : Holdable (.text s)
  | truth (b : Bool) : Holdable (.cell (.truth b))
  | whole (w : Width) (i : Int) : Holdable (.cell (.whole w i))
  | single (x : Float) : Holdable (.cell (.single x))
  | double (x : Float) : Holdable (.cell (.double x))
  | cellText (s : String) : Holdable (.cell (.text s))

theorem Value.holdable_iff (v : Value) : v.Holdable ↔ (Scalar.ofValue? v).isSome = true := by
  constructor
  · intro h
    cases h <;> rfl
  · intro h
    cases v with
    | cell c => cases c <;> first | constructor | cases h
    | _ => first | constructor | cases h

namespace Scalar

variable {v : Value}

theorem coerce_holdable (h : v.Holdable) (key : String) :
    ∃ s, ofValue? v = some s ∧ coerce key v = .ok s := by
  obtain ⟨s, hs⟩ := Option.isSome_iff_exists.mp (v.holdable_iff.mp h)
  refine ⟨s, hs, ?_⟩
  unfold coerce
  rw [hs]

theorem coerce_not_holdable (h : ¬ v.Holdable) (key : String) :
    coerce key v = .error (.argument (.recordValue key v.typeName)) := by
  rw [v.holdable_iff, Bool.not_eq_true, Option.isSome_eq_false_iff, Option.isNone_iff_eq_none] at h
  unfold coerce
  rw [h]

end Scalar

namespace Record

variable {pairs before after : List (String × Value)} {v : Value}

/-! ## Entries set one after the other -/

/-- The record with the values of pairs set under their names, in turn. -/
def setAll (r : Record) (pairs : List (String × Value)) : Except Fault Record :=
  pairs.foldlM (fun r e => r.set e.1 e.2) r

/-- The pairs as entries of a mapping, with texts for keys. -/
def spelled (pairs : List (String × Value)) : List (Value × Value) :=
  pairs.map fun e => (.text e.1, e.2)

theorem setAny_text (r : Record) (k : String) (v : Value) : r.setAny (.text k) v = r.set k v := by
  unfold setAny set
  show ((Scalar.coerce k v).map (k, ·)).map (fun e => r.insert e.1 e.2) = _
  cases Scalar.coerce k v <;> rfl

theorem ofEntries_spelled (pairs : List (String × Value)) :
    ofEntries (spelled pairs) = setAll .empty pairs := by
  unfold ofEntries setAll spelled
  rw [List.foldlM_map]
  simp only [setAny_text]

theorem setAll_append (r : Record) (before after : List (String × Value)) :
    r.setAll (before ++ after) = (r.setAll before).bind fun r => r.setAll after :=
  List.foldlM_append

/-- That an entry of a record is what a pair is taken for: the same name, and the
scalar that the value stands for. -/
def Taken (e : String × Value) (s : String × Scalar) : Prop :=
  s.1 = e.1 ∧ Scalar.ofValue? e.2 = some s.2

theorem setAll_holdable (h : ∀ e ∈ pairs, e.2.Holdable) (r : Record) :
    ∃ es : List (String × Scalar), List.Forall₂ Taken pairs es ∧
      r.setAll pairs = .ok (es.foldl (fun r e => r.insert e.1 e.2) r) := by
  induction pairs generalizing r with
  | nil => exact ⟨[], .nil, rfl⟩
  | cons e pairs ih =>
    obtain ⟨s, hs, hcoerce⟩ := Scalar.coerce_holdable (h e List.mem_cons_self) e.1
    obtain ⟨es, htaken, hset⟩ :=
      ih (fun e' he' => h e' (List.mem_cons_of_mem e he')) (r.insert e.1 s)
    refine ⟨(e.1, s) :: es, .cons ⟨rfl, hs⟩ htaken, ?_⟩
    have hfirst : r.set e.1 e.2 = .ok (r.insert e.1 s) := congrArg (Except.map _) hcoerce
    unfold setAll at hset ⊢
    rw [List.foldlM_cons, hfirst]
    exact hset

/-- The first value that a record does not take is the fault of all. -/
theorem setAll_not_holdable (hbefore : ∀ e ∈ before, e.2.Holdable) (hv : ¬ v.Holdable)
    (r : Record) (k : String) (after : List (String × Value)) :
    r.setAll (before ++ (k, v) :: after) = .error (.argument (.recordValue k v.typeName)) := by
  obtain ⟨es, -, hset⟩ := setAll_holdable hbefore r
  have hrefused : ∀ r : Record,
      r.set k v = .error (.argument (.recordValue k v.typeName)) := fun r =>
    congrArg (Except.map _) (Scalar.coerce_not_holdable hv k)
  rw [setAll_append, hset]
  show setAll _ ((k, v) :: after) = _
  unfold setAll
  rw [List.foldlM_cons, hrefused]
  rfl

/-- Among values that a record does not all take, there is a first that it does
not take. -/
theorem first_not_holdable (h : ∃ e ∈ pairs, ¬ e.2.Holdable) :
    ∃ before k v after, pairs = before ++ (k, v) :: after ∧ (∀ e ∈ before, e.2.Holdable) ∧
      ¬ v.Holdable := by
  induction pairs with
  | nil =>
    obtain ⟨e, he, -⟩ := h
    cases he
  | cons e pairs ih =>
    by_cases he : e.2.Holdable
    · obtain ⟨f, hf, hrefused⟩ := h
      have hmem : f ∈ pairs := by
        rcases List.mem_cons.mp hf with rfl | hmem
        · exact absurd he hrefused
        · exact hmem
      obtain ⟨before, k, v, after, rfl, hbefore, hv⟩ := ih ⟨f, hmem, hrefused⟩
      refine ⟨e :: before, k, v, after, rfl, ?_, hv⟩
      intro g hg
      rcases List.mem_cons.mp hg with rfl | hmem
      · exact he
      · exact hbefore g hmem
    · exact ⟨[], e.1, e.2, pairs, rfl, fun _ hnone => absurd hnone List.not_mem_nil, he⟩

theorem holdable_of_setAll {r r' : Record} (h : r.setAll pairs = .ok r') :
    ∀ e ∈ pairs, e.2.Holdable := by
  by_contra hrefused
  push Not at hrefused
  obtain ⟨before, k, v, after, rfl, hbefore, hv⟩ := first_not_holdable hrefused
  cases h.symm.trans (setAll_not_holdable hbefore hv r k after)

theorem taken_names {es : List (String × Scalar)} (h : List.Forall₂ Taken pairs es) :
    es.map (·.1) = pairs.map (·.1) := by
  induction h with
  | nil => rfl
  | cons hfirst _ ih => rw [List.map_cons, List.map_cons, hfirst.1, ih]

theorem taken_mem {es : List (String × Scalar)} (h : List.Forall₂ Taken pairs es)
    {e : String × Value} (he : e ∈ pairs) : ∃ s ∈ es, Taken e s := by
  induction h with
  | nil => cases he
  | cons hfirst _ ih =>
    rcases List.mem_cons.mp he with rfl | hrest
    · exact ⟨_, List.mem_cons_self, hfirst⟩
    · obtain ⟨s, hs, htaken⟩ := ih hrest
      exact ⟨s, List.mem_cons_of_mem _ hs, htaken⟩

/-- Distinct names come into a new record in their order, each with the
scalar of its value. -/
theorem setAll_empty (hdistinct : (pairs.map (·.1)).Nodup) (h : ∀ e ∈ pairs, e.2.Holdable) :
    ∃ r, setAll .empty pairs = .ok r ∧ r.keys = pairs.map (·.1) ∧ r.size = pairs.length ∧
      ∀ e ∈ pairs, r.get? e.1 = Scalar.ofValue? e.2 := by
  obtain ⟨es, htaken, hset⟩ := setAll_holdable h .empty
  have hnames := taken_names htaken
  have hentries : (Table.ofList es).entries = es := Table.entries_ofList (hnames ▸ hdistinct)
  refine ⟨Table.ofList es, hset, ?_, ?_, fun e he => ?_⟩
  · unfold Table.keys
    rw [hentries, hnames]
  · unfold Table.size
    rw [hentries, htaken.length_eq]
  · obtain ⟨s, hs, hname, hscalar⟩ := taken_mem htaken he
    rw [hscalar, ← hname]
    exact Table.get?_of_mem (hentries.symm ▸ hs)

/-! ## Mappings and names -/

theorem same_text (s t : String) : Value.same (.text s) (.text t) = (s == t) := by
  simp [Value.same, Value.sameAtom, Value.complexPlace?, Value.place?, Value.text?]

theorem spelled_append (before after : List (String × Value)) :
    spelled (before ++ after) = spelled before ++ spelled after := List.map_append

/-- Entries under distinct texts are entries of a mapping as they stand. -/
theorem entriesOf_spelled (hdistinct : (pairs.map (·.1)).Nodup) :
    Value.entriesOf (spelled pairs) = .ok (spelled pairs) := by
  unfold Value.entriesOf
  -- A new entry follows those that were taken before it, since none of them
  -- has its name.
  have hrest : ∀ before : List (String × Value), ((before ++ pairs).map (·.1)).Nodup →
      (spelled pairs).foldlM (fun es p =>
        if !p.1.isKey then .error .wrongType
        else if es.any (fun e => Value.same e.1 p.1) then
          .ok (es.map fun e => if Value.same e.1 p.1 then (e.1, p.2) else e)
        else .ok (es ++ [p])) (spelled before) =
          (.ok (spelled (before ++ pairs)) : Except Slip (List (Value × Value))) := by
    clear hdistinct
    induction pairs with
    | nil =>
      intro before _
      rw [List.append_nil]
      rfl
    | cons e pairs ih =>
      intro before hdistinct
      have hnew : ((spelled before).any fun f => Value.same f.1 (.text e.1)) = false := by
        rw [List.any_eq_false]
        intro f hf
        obtain ⟨g, hg, rfl⟩ := List.mem_map.mp hf
        have hapart : g.1 ≠ e.1 := by
          rw [List.map_append, List.nodup_append] at hdistinct
          exact hdistinct.2.2 _ (List.mem_map_of_mem hg) _ List.mem_cons_self
        rw [same_text, beq_iff_eq]
        exact hapart
      have hmove : before ++ e :: pairs = (before ++ [e]) ++ pairs := by simp
      have hlast : spelled before ++ [(.text e.1, e.2)] = spelled (before ++ [e]) := by
        rw [spelled_append]
        rfl
      show List.foldlM _ _ ((.text e.1, e.2) :: spelled pairs) = _
      rw [List.foldlM_cons]
      simp only [hnew, hlast]
      rw [hmove] at hdistinct ⊢
      exact ih _ hdistinct
  exact hrest [] hdistinct

theorem namedEntries_spelled (hdistinct : (pairs.map (·.1)).Nodup) :
    namedEntries (spelled pairs) = .ok (spelled pairs) := by
  have htexts : ((spelled pairs).all fun e => e.1.text?.isSome) = true := by
    rw [List.all_eq_true]
    intro f hf
    obtain ⟨e, -, rfl⟩ := List.mem_map.mp hf
    rfl
  unfold namedEntries
  rw [entriesOf_spelled hdistinct]
  show (if ((spelled pairs).all fun e => e.1.text?.isSome) = true then _ else _) = _
  rw [if_pos htexts]

/-- A mapping of distinct names makes the record that is made of its values set
one after the other. -/
theorem ofPairs_spelled (hdistinct : (pairs.map (·.1)).Nodup) :
    ofPairs (spelled pairs) = setAll .empty pairs := by
  unfold ofPairs
  rw [entriesOf_spelled hdistinct]
  exact ofEntries_spelled pairs

theorem isNamed_spelled (name : String) (e : String × Value) :
    isNamed name (.text e.1, e.2) = decide (e.1 = name) := by
  rw [Bool.eq_iff_iff, decide_eq_true_eq]
  unfold isNamed Value.text?
  simp

theorem any_isNamed (name : String) (pairs : List (String × Value)) :
    (spelled pairs).any (isNamed name) = decide (name ∈ pairs.map (·.1)) := by
  rw [Bool.eq_iff_iff, List.any_eq_true, decide_eq_true_eq, List.mem_map]
  constructor
  · rintro ⟨f, hf, hnamed⟩
    obtain ⟨e, he, rfl⟩ := List.mem_map.mp hf
    rw [isNamed_spelled, decide_eq_true_eq] at hnamed
    exact ⟨e, he, hnamed⟩
  · rintro ⟨e, he, hname⟩
    refine ⟨(.text e.1, e.2), List.mem_map_of_mem he, ?_⟩
    rw [isNamed_spelled, decide_eq_true_eq]
    exact hname

theorem ofNamed_self (hdistinct : (pairs.map (·.1)).Nodup) (hself : "self" ∈ pairs.map (·.1)) :
    ofNamed (spelled pairs) = .error (.slip .wrongType) := by
  unfold ofNamed
  rw [namedEntries_spelled hdistinct]
  show (if (spelled pairs).any (isNamed "self") = true then _ else _) = _
  rw [any_isNamed, if_pos (decide_eq_true hself)]

theorem find?_isNamed {name : String} (h : name ∉ pairs.map (·.1)) :
    (spelled pairs).find? (isNamed name) = none := by
  rw [List.find?_eq_none, ← List.any_eq_false, any_isNamed, decide_eq_false h]

theorem filter_isNamed {name : String} (h : name ∉ pairs.map (·.1)) :
    (spelled pairs).filter (fun e => !isNamed name e) = spelled pairs := by
  have hnone : ∀ e ∈ spelled pairs, ¬ isNamed name e = true := by
    rw [← List.any_eq_false, any_isNamed, decide_eq_false h]
  rw [List.filter_eq_self]
  intro e he
  rw [Bool.not_eq_true', ← Bool.not_eq_true]
  exact hnone e he

/-- Values under other names than the two make the record of their mapping. -/
theorem ofNamed_plain (hdistinct : (pairs.map (·.1)).Nodup) (hself : "self" ∉ pairs.map (·.1))
    (hvalues : "values" ∉ pairs.map (·.1)) : ofNamed (spelled pairs) = setAll .empty pairs := by
  unfold ofNamed
  rw [namedEntries_spelled hdistinct]
  show (if (spelled pairs).any (isNamed "self") = true then _ else _) = _
  rw [any_isNamed, if_neg (by simpa using hself), find?_isNamed hvalues]
  exact ofEntries_spelled pairs

/-- What is given under the name `values` is the mapping that the others are
laid on. -/
theorem ofNamed_values
    (hdistinct : ((before ++ ("values", v) :: after).map (·.1)).Nodup)
    (hself : "self" ∉ (before ++ ("values", v) :: after).map (·.1)) :
    ofNamed (spelled (before ++ ("values", v) :: after)) =
      (mappingEntries v).bind fun first => ofEntries (first ++ spelled (before ++ after)) := by
  obtain ⟨hbefore, hafter⟩ :
      "values" ∉ before.map (·.1) ∧ "values" ∉ after.map (·.1) := by
    rw [List.map_append, List.map_cons, List.nodup_append, List.nodup_cons] at hdistinct
    obtain ⟨-, ⟨hafter, -⟩, hcross⟩ := hdistinct
    exact ⟨fun hmem => hcross _ hmem _ List.mem_cons_self rfl, hafter⟩
  have hsplit : spelled (before ++ ("values", v) :: after) =
      spelled before ++ (.text "values", v) :: spelled after := spelled_append ..
  have hfind : (spelled (before ++ ("values", v) :: after)).find? (isNamed "values") =
      some (.text "values", v) := by
    rw [hsplit, List.find?_append, find?_isNamed hbefore]
    rfl
  have hrest : (spelled (before ++ ("values", v) :: after)).filter
      (fun e => !isNamed "values" e) = spelled (before ++ after) := by
    have hout : (!isNamed "values" (.text "values", v)) = false := rfl
    rw [hsplit, List.filter_append, List.filter_cons, hout, filter_isNamed hbefore,
      filter_isNamed hafter, spelled_append]
    rfl
  unfold ofNamed
  rw [namedEntries_spelled hdistinct]
  show (if (spelled _).any (isNamed "self") = true then _ else _) = _
  rw [any_isNamed, if_neg (by simpa using hself), hfind]
  show (mappingEntries v).bind _ = _
  simp only [hrest]

/-- A value that a record takes is no mapping, so it cannot stand under the
name `values`. -/
theorem ofNamed_values_holdable
    (hdistinct : ((before ++ ("values", v) :: after).map (·.1)).Nodup)
    (hself : "self" ∉ (before ++ ("values", v) :: after).map (·.1)) (hv : v.Holdable) :
    ofNamed (spelled (before ++ ("values", v) :: after)) = .error (.slip .missingAttribute) := by
  rw [ofNamed_values hdistinct hself]
  cases hv <;> rfl

/-! ## The law -/

/-- A record of distinct names is the same whether it is made of a mapping, by
setting its entries in turn, or of named values, also if these are handed on by
name: it has the names in their order, as many as were given, each with the scalar
that its value stands for. If some value is none that a record takes, all ways have
the same fault, that of the first such value, which is of the wrong type. But this
holds of named values only under other names than two. Under `self` nothing can be
given by name. What is given under `values` is taken for a mapping on which the
others are laid, and if it is a value that a record takes, it has no entries, which
is another fault. So with one of these names the values given by name never make a
record where they do as a mapping. -/
theorem records_are_made_alike_but_for_two_names (pairs : List (String × Value))
    (hdistinct : (pairs.map (·.1)).Nodup) :
    ofPairs (spelled pairs) = setAll .empty pairs ∧
      (namedEntries (spelled pairs)).bind ofNamed = ofNamed (spelled pairs) ∧
      ((∀ e ∈ pairs, e.2.Holdable) →
        ∃ r, setAll .empty pairs = .ok r ∧ r.keys = pairs.map (·.1) ∧ r.size = pairs.length ∧
          ∀ e ∈ pairs, r.get? e.1 = Scalar.ofValue? e.2) ∧
      ((∃ e ∈ pairs, ¬ e.2.Holdable) →
        ∃ before k v after, pairs = before ++ (k, v) :: after ∧
          (∀ e ∈ before, e.2.Holdable) ∧ ¬ v.Holdable ∧
          setAll .empty pairs = .error (.argument (.recordValue k v.typeName)) ∧
          (Fault.argument (.recordValue k v.typeName)).kind = "TypeError") ∧
      ("self" ∉ pairs.map (·.1) → "values" ∉ pairs.map (·.1) →
        ofNamed (spelled pairs) = setAll .empty pairs) ∧
      ("self" ∈ pairs.map (·.1) → ofNamed (spelled pairs) = .error (.slip .wrongType)) ∧
      (∀ before v after, pairs = before ++ ("values", v) :: after → "self" ∉ pairs.map (·.1) →
        ofNamed (spelled pairs) = (mappingEntries v).bind (fun first =>
          ofEntries (first ++ spelled (before ++ after))) ∧
        (v.Holdable → ofNamed (spelled pairs) = .error (.slip .missingAttribute))) ∧
      ("self" ∈ pairs.map (·.1) ∨ "values" ∈ pairs.map (·.1) →
        ∀ r s, ¬ (ofNamed (spelled pairs) = .ok r ∧ ofPairs (spelled pairs) = .ok s)) := by
  refine ⟨ofPairs_spelled hdistinct, ?_, setAll_empty hdistinct, fun hrefused => ?_,
    ofNamed_plain hdistinct, ofNamed_self hdistinct, ?_, ?_⟩
  · rw [namedEntries_spelled hdistinct]
    rfl
  · obtain ⟨before, k, v, after, rfl, hbefore, hv⟩ := first_not_holdable hrefused
    exact ⟨before, k, v, after, rfl, hbefore, hv, setAll_not_holdable hbefore hv .empty k after,
      rfl⟩
  · rintro before v after rfl hself
    exact ⟨ofNamed_values hdistinct hself, ofNamed_values_holdable hdistinct hself⟩
  · rintro hname r s ⟨hnamed, hmapping⟩
    by_cases hself : "self" ∈ pairs.map (·.1)
    · cases hnamed.symm.trans (ofNamed_self hdistinct hself)
    · obtain ⟨e, he, hvalues⟩ := List.mem_map.mp (hname.resolve_left hself)
      have htaken : e.2.Holdable :=
        holdable_of_setAll ((ofPairs_spelled hdistinct).symm.trans hmapping) e he
      obtain ⟨before, after, rfl⟩ := List.append_of_mem he
      obtain ⟨name, v⟩ := e
      obtain rfl : name = "values" := hvalues
      cases hnamed.symm.trans (ofNamed_values_holdable hdistinct hself htaken)

/-- The law for three names with values of which a record does not take the
second. -/
theorem a_record_refuses_what_is_nothing :
    setAll .empty [("cost", .int 1), ("step", .null), ("other", .null)] =
        .error (.argument (.recordValue "step" "NoneType")) ∧
      ofNamed (spelled [("cost", .int 1), ("step", .null), ("other", .null)]) =
        .error (.argument (.recordValue "step" "NoneType")) := by
  obtain ⟨-, -, -, -, hplain, -, -, -⟩ := records_are_made_alike_but_for_two_names
    [("cost", .int 1), ("step", .null), ("other", .null)] (by decide)
  refine ⟨rfl, ?_⟩
  rw [hplain (by decide) (by decide)]
  rfl

/-- One whole number under the name `values` makes a record as a mapping, and
none as a named value. -/
theorem a_value_under_values_makes_no_record :
    ofPairs (spelled [("values", .int 1)]) = .ok (Table.ofList [("values", .int 1)]) ∧
      ofNamed (spelled [("values", .int 1)]) = .error (.slip .missingAttribute) :=
  ⟨rfl, rfl⟩

end Record

end Minimize
