-- What a reading of JSON can come to. What follows a value is the end of the
-- text that it was read from. And there are three reasons to refuse a text: it is
-- no JSON, it has a row of too many digits, or it opens too many lists and objects.
import Minimize.Proofs.Written

namespace Minimize.JsonValue

variable {α β : Type} {room : Nat} {cs ds r w : List Char} {e : Slip}

/-! ## Reasons to refuse -/

/-- A character that begins a list or an object. -/
def isOpening (c : Char) : Bool := c == '[' || c == '\x7b'

/-- Why a text is refused where there is so much room for lists and objects in
each other. -/
inductive Refusal (room : Nat) (cs : List Char) : Slip → Prop
  | malformed : Refusal room cs .malformedText
  | long {row : List Char} (hrow : row <:+: cs) (hdigits : ∀ c ∈ row, isDigit c = true)
      (hlength : Text.digitLimit < row.length) : Refusal room cs .badValue
  | deep (hopenings : room < cs.countP isOpening) : Refusal room cs .tooDeep

/-- What a reading from a text can come to. -/
inductive Within (room : Nat) (cs : List Char) : Except Slip (α × List Char) → Prop
  | read {a : α} {r : List Char} (hrest : r <:+ cs) : Within room cs (.ok (a, r))
  | refused {e : Slip} (hreason : Refusal room cs e) : Within room cs (.error e)

theorem Refusal.before (h : Refusal room ds e) (hends : ds <:+ cs) : Refusal room cs e := by
  cases h with
  | malformed => exact .malformed
  | long hrow hdigits hlength => exact .long (hrow.trans hends.isInfix) hdigits hlength
  | deep hopenings => exact .deep (hopenings.trans_le (hends.sublist.countP_le))

/-- A list or an object takes some of the room. -/
theorem Refusal.opened {c : Char} (hc : isOpening c = true) (h : Refusal room ds e)
    (hends : ds <:+ cs) : Refusal (room + 1) (c :: cs) e := by
  cases h.before hends with
  | malformed => exact .malformed
  | long hrow hdigits hlength =>
    exact .long (hrow.trans (List.suffix_cons c cs).isInfix) hdigits hlength
  | deep hopenings =>
    refine .deep ?_
    rw [List.countP_cons_of_pos hc]
    omega

theorem Within.before {x : Except Slip (α × List Char)} (h : Within room ds x)
    (hends : ds <:+ cs) : Within room cs x := by
  cases h with
  | read hrest => exact .read (hrest.trans hends)
  | refused hreason => exact .refused (hreason.before hends)

/-- What goes on where a reading ended stays within the text. -/
theorem Within.bind {x : Except Slip (α × List Char)} (h : Within room cs x)
    {next : α × List Char → Except Slip (β × List Char)}
    (hnext : ∀ a r, r <:+ cs → Within room cs (next (a, r))) : Within room cs (x.bind next) := by
  cases h with
  | read hrest => exact hnext _ _ hrest
  | refused hreason => exact .refused hreason

theorem Within.opened {c : Char} (hc : isOpening c = true) {x : Except Slip (α × List Char)}
    (h : Within room ds x) (hends : ds <:+ cs) (made : α → β) :
    Within (room + 1) (c :: cs) (x.bind fun p => .ok (made p.1, p.2)) := by
  cases h with
  | read hrest => exact .read ((hrest.trans hends).trans (List.suffix_cons c cs))
  | refused hreason => exact .refused (hreason.opened hc hends)

/-! ## Texts and atoms -/

theorem skip_suffix (cs : List Char) : skip cs <:+ cs := List.dropWhile_suffix _

theorem suffix_of_consText {c : Char} {x : Option (List Char × List Char)} {rest : List Char}
    (h : consText c x = some (w, r)) (ih : ∀ {w}, x = some (w, r) → r <:+ rest)
    (pre : List Char) : r <:+ pre ++ rest := by
  obtain ⟨⟨w', r'⟩, hx, heq⟩ := Option.map_eq_some_iff.mp h
  cases heq
  exact (ih hx).trans (List.suffix_append pre rest)

/-- What follows a text is the end of what it was read from. -/
theorem textTail_suffix (h : textTail cs = some (w, r)) : r <:+ cs := by
  fun_induction textTail cs generalizing w r with
  | case1 => cases h
  | case2 rest =>
    cases h
    exact List.suffix_cons '"' _
  | case3 => cases h
  | case4 a b c d e f g h' rest n hn m hm hlow ih =>
    exact suffix_of_consText h ih ['\\', 'u', a, b, c, d, '\\', 'u', e, f, g, h']
  | case5 a b c d e f g h' rest n hn m hm hlow ih =>
    exact suffix_of_consText h ih ['\\', 'u', a, b, c, d]
  | case6 a b c d e f g h' rest n hn hm ih =>
    exact suffix_of_consText h ih ['\\', 'u', a, b, c, d]
  | case7 => cases h
  | case8 a b c d rest hno n hn ih => exact suffix_of_consText h ih ['\\', 'u', a, b, c, d]
  | case9 => cases h
  | case10 c rest hno hno' c' hc ih => exact suffix_of_consText h ih ['\\', c]
  | case11 => cases h
  | case12 c rest hq hno hno' hno'' hc ih => exact suffix_of_consText h ih [c]

theorem wholePart_eq (h : wholePart cs = some (w, r)) :
    cs = w ++ r ∧ ∀ c ∈ w, isDigit c = true := by
  cases cs with
  | nil => cases h
  | cons c cs =>
    by_cases hc : c = '0'
    · subst hc
      cases h
      simp [isDigit]
    · rw [wholePart_other hc] at h
      split at h
      · cases h
        exact ⟨List.takeWhile_append_dropWhile.symm, fun d hd => List.mem_takeWhile_imp hd⟩
      · cases h

theorem fraction_suffix (cs : List Char) : (fraction cs).2 <:+ cs := by
  fun_cases fraction cs with
  | case1 c rest hc => exact (List.dropWhile_suffix _).trans (List.suffix_cons '.' _)
  | case2 c rest hc => exact List.suffix_rfl
  | case3 cs hno => exact List.suffix_rfl

theorem exponentSign_suffix (cs : List Char) : (exponentSign cs).2 <:+ cs := by
  fun_cases exponentSign cs with
  | case1 rest => exact List.suffix_cons '-' rest
  | case2 rest => exact List.suffix_cons '+' rest
  | case3 cs hm hp => exact List.suffix_rfl

theorem exponent_suffix (cs : List Char) : (exponent cs).2 <:+ cs := by
  cases cs with
  | nil => exact List.suffix_rfl
  | cons c cs =>
    have hrest := (List.dropWhile_suffix isDigit).trans (exponentSign_suffix cs)
    unfold exponent
    dsimp only
    split
    · exact hrest.trans (List.suffix_cons c cs)
    · exact List.suffix_rfl

theorem number_within (negative : Bool) (room : Nat) (cs : List Char) :
    Within room cs (number negative cs) := by
  unfold number
  cases hw : wholePart cs with
  | none => exact .refused .malformed
  | some p =>
    obtain ⟨whole, rest⟩ := p
    obtain ⟨rfl, hdigits⟩ := wholePart_eq hw
    have hrest : (exponent (fraction rest).2).2 <:+ whole ++ rest :=
      ((exponent_suffix _).trans (fraction_suffix rest)).trans (List.suffix_append whole rest)
    simp only [orMalformed, bind, Except.bind]
    split
    · split
      · rename_i hlong
        exact .refused (.long (List.prefix_append whole rest).isInfix hdigits hlong)
      · exact .read hrest
    · exact .read hrest

theorem atom_within (room : Nat) (cs : List Char) : Within room cs (atom cs) := by
  unfold atom
  split
  · rename_i p hword
    obtain ⟨x, -, rfl⟩ := Option.map_eq_some_iff.mp hword
    exact .read (List.drop_suffix _ _)
  · split
    · exact (number_within true room _).before (List.suffix_cons '-' _)
    · exact number_within false room cs

/-! ## One step of a reading -/

variable {fuel : Nat}

theorem value_full {c : Char} (hc : isOpening c = true) (fuel : Nat) (cs : List Char) :
    value (fuel + 1) 0 (c :: cs) = .error .tooDeep := by
  unfold isOpening at hc
  simp only [Bool.or_eq_true, beq_iff_eq] at hc
  rcases hc with rfl | rfl
  · rfl
  · rfl

theorem value_empty_list (h : skip cs = ']' :: r) (fuel room : Nat) :
    value (fuel + 1) (room + 1) ('[' :: cs) = .ok (.list [], r) := by
  rw [value_list, h]
  rfl

theorem value_items (h : ∀ r, skip cs ≠ ']' :: r) (fuel room : Nat) :
    value (fuel + 1) (room + 1) ('[' :: cs) =
      (itemsTail fuel room (skip cs)).bind fun p => .ok (.list p.1, p.2) := by
  rw [value_list]
  split
  · contradiction
  · rename_i hempty
    exact absurd hempty (h _)
  · rename_i hroom _
    cases hroom
    rfl

theorem value_empty_object (h : skip cs = '\x7d' :: r) (fuel room : Nat) :
    value (fuel + 1) (room + 1) ('\x7b' :: cs) = .ok (.object [], r) := by
  rw [value_braced, h]
  rfl

theorem value_members (h : ∀ r, skip cs ≠ '\x7d' :: r) (fuel room : Nat) :
    value (fuel + 1) (room + 1) ('\x7b' :: cs) =
      (membersTail fuel room [] (skip cs)).bind fun p => .ok (.object p.1, p.2) := by
  rw [value_braced]
  split
  · contradiction
  · rename_i hempty
    exact absurd hempty (h _)
  · rename_i hroom _
    cases hroom
    rfl

theorem value_other (hq : ∀ r, cs ≠ '"' :: r) (hl : ∀ r, cs ≠ '[' :: r)
    (ho : ∀ r, cs ≠ '\x7b' :: r) (fuel room : Nat) : value (fuel + 1) room cs = atom cs := by
  cases cs with
  | nil => rfl
  | cons c rest =>
    refine value_atom ?_ ?_ ?_ fuel room rest
    · rintro rfl
      exact hq rest rfl
    · rintro rfl
      exact hl rest rfl
    · rintro rfl
      exact ho rest rfl

/-- What a value begins with. -/
inductive Head : List Char → Prop
  | quote (r : List Char) : Head ('"' :: r)
  | list (r : List Char) : Head ('[' :: r)
  | object (r : List Char) : Head ('\x7b' :: r)
  | other {cs : List Char} (hq : ∀ r, cs ≠ '"' :: r) (hl : ∀ r, cs ≠ '[' :: r)
      (ho : ∀ r, cs ≠ '\x7b' :: r) : Head cs

theorem head_cases (cs : List Char) : Head cs := by
  by_cases hq : ∃ r, cs = '"' :: r
  · obtain ⟨r, rfl⟩ := hq
    exact .quote r
  by_cases hl : ∃ r, cs = '[' :: r
  · obtain ⟨r, rfl⟩ := hl
    exact .list r
  by_cases ho : ∃ r, cs = '\x7b' :: r
  · obtain ⟨r, rfl⟩ := ho
    exact .object r
  exact .other (fun r hr => hq ⟨r, hr⟩) (fun r hr => hl ⟨r, hr⟩) fun r hr => ho ⟨r, hr⟩

/-- What stands behind an item: the end of its list, or a comma and more items. -/
def afterItem (fuel room : Nat) (j : JsonValue) :
    List Char → Except Slip (List JsonValue × List Char)
  | ']' :: rest => .ok ([j], rest)
  | ',' :: rest => (itemsTail fuel room (skip rest)).bind fun p => .ok (j :: p.1, p.2)
  | _ => .error .malformedText

theorem itemsTail_succ (fuel room : Nat) (cs : List Char) : itemsTail (fuel + 1) room cs =
    (value fuel room cs).bind fun p => afterItem fuel room p.1 (skip p.2) := rfl

/-- What stands behind a member: the end of its object, or a comma and more
members. -/
def afterMember (fuel room : Nat) (ms : List (String × JsonValue)) :
    List Char → Except Slip (List (String × JsonValue) × List Char)
  | '\x7d' :: rest => .ok (ms, rest)
  | ',' :: rest => membersTail fuel room ms (skip rest)
  | _ => .error .malformedText

/-- What stands behind the name of a member: a colon, the value, and what stands
behind the member. -/
def afterName (fuel room : Nat) (before : List (String × JsonValue)) (k : List Char) :
    List Char → Except Slip (List (String × JsonValue) × List Char)
  | ':' :: rest => (value fuel room (skip rest)).bind fun p =>
    afterMember fuel room (Table.put (String.ofList k) p.1 before) (skip p.2)
  | _ => .error .malformedText

theorem membersTail_quoted (fuel room : Nat) (before : List (String × JsonValue))
    (cs : List Char) : membersTail (fuel + 1) room before ('"' :: cs) =
    (orMalformed (textTail cs)).bind fun p => afterName fuel room before p.1 (skip p.2) := rfl

theorem membersTail_other (h : ∀ r, cs ≠ '"' :: r) (fuel room : Nat)
    (before : List (String × JsonValue)) :
    membersTail (fuel + 1) room before cs = .error .malformedText :=
  membersTail.eq_3 room before cs fuel h

/-! ## Values -/

theorem orMalformed_within (h : ∀ p, textTail cs = some p → p.2 <:+ ds) (room : Nat) :
    Within room ds (orMalformed (textTail cs)) := by
  cases htext : textTail cs with
  | none => exact .refused .malformed
  | some p => exact .read (h p htext)

/-- That readings with so much fuel stay within their texts. -/
structure ReadsWithin (fuel : Nat) : Prop where
  value (room : Nat) (cs : List Char) : Within room cs (value fuel room cs)
  items (room : Nat) (cs : List Char) : Within room cs (itemsTail fuel room cs)
  members (room : Nat) (before : List (String × JsonValue)) (cs : List Char) :
    Within room cs (membersTail fuel room before cs)

namespace ReadsWithin

variable (h : ReadsWithin fuel) (room : Nat) (before : List (String × JsonValue))
  (cs : List Char)

include h

theorem value_succ : Within room cs (JsonValue.value (fuel + 1) room cs) := by
  cases head_cases cs with
  | quote r =>
    rw [value_quoted]
    exact (orMalformed_within (fun p hp => (textTail_suffix hp).trans (List.suffix_cons '"' r))
      room).bind fun w t ht => .read ht
  | list r =>
    cases room with
    | zero =>
      rw [value_full rfl]
      exact .refused (.deep (by simp [isOpening]))
    | succ room =>
      by_cases hempty : ∃ t, skip r = ']' :: t
      · obtain ⟨t, ht⟩ := hempty
        rw [value_empty_list ht]
        exact .read (((List.suffix_cons ']' t).trans (ht ▸ skip_suffix r)).trans
          (List.suffix_cons '[' r))
      · rw [value_items fun t ht => hempty ⟨t, ht⟩]
        exact (h.items room _).opened rfl (skip_suffix r) JsonValue.list
  | object r =>
    cases room with
    | zero =>
      rw [value_full rfl]
      exact .refused (.deep (by simp [isOpening]))
    | succ room =>
      by_cases hempty : ∃ t, skip r = '\x7d' :: t
      · obtain ⟨t, ht⟩ := hempty
        rw [value_empty_object ht]
        exact .read (((List.suffix_cons '\x7d' t).trans (ht ▸ skip_suffix r)).trans
          (List.suffix_cons '\x7b' r))
      · rw [value_members fun t ht => hempty ⟨t, ht⟩]
        exact (h.members room [] _).opened rfl (skip_suffix r) JsonValue.object
  | other hq hl ho =>
    rw [value_other hq hl ho]
    exact atom_within room cs

theorem afterItem (j : JsonValue) : Within room cs (JsonValue.afterItem fuel room j cs) := by
  unfold JsonValue.afterItem
  split
  · exact .read (List.suffix_cons ']' _)
  · rename_i rest
    have hrest := (skip_suffix rest).trans (List.suffix_cons ',' rest)
    exact ((h.items room _).before hrest).bind fun js r hr => .read hr
  · exact .refused .malformed

theorem items_succ : Within room cs (itemsTail (fuel + 1) room cs) := by
  rw [itemsTail_succ]
  exact (h.value room cs).bind fun j r hr =>
    (h.afterItem room (skip r) j).before ((skip_suffix r).trans hr)

theorem afterMember : Within room cs (JsonValue.afterMember fuel room before cs) := by
  unfold JsonValue.afterMember
  split
  · exact .read (List.suffix_cons '\x7d' _)
  · rename_i rest
    exact (h.members room before _).before ((skip_suffix rest).trans (List.suffix_cons ',' rest))
  · exact .refused .malformed

theorem afterName (k : List Char) :
    Within room cs (JsonValue.afterName fuel room before k cs) := by
  unfold JsonValue.afterName
  split
  · rename_i rest
    have hrest := (skip_suffix rest).trans (List.suffix_cons ':' rest)
    exact ((h.value room _).before hrest).bind fun j r hr =>
      (h.afterMember room _ (skip r)).before ((skip_suffix r).trans hr)
  · exact .refused .malformed

theorem members_succ : Within room cs (membersTail (fuel + 1) room before cs) := by
  by_cases hquote : ∃ r, cs = '"' :: r
  · obtain ⟨r, rfl⟩ := hquote
    rw [membersTail_quoted]
    refine (orMalformed_within (fun p hp => ?_) room).bind fun k r hr => ?_
    · exact (textTail_suffix hp).trans (List.suffix_cons '"' r)
    · exact (h.afterName room before (skip r) k).before ((skip_suffix r).trans hr)
  · rw [membersTail_other fun r hr => hquote ⟨r, hr⟩]
    exact .refused .malformed

end ReadsWithin

theorem readsWithin (fuel : Nat) : ReadsWithin fuel := by
  induction fuel with
  | zero =>
    refine ⟨fun room cs => ?_, fun room cs => ?_, fun room before cs => ?_⟩
    · rw [value]
      exact .refused .malformed
    · rw [itemsTail]
      exact .refused .malformed
    · rw [membersTail]
      exact .refused .malformed
  | succ fuel ih => exact ⟨ih.value_succ, ih.items_succ, ih.members_succ⟩

/-- There are three reasons to refuse a text. -/
theorem refusal_of_ofChars (h : ofChars cs = .error e) : Refusal depthLimit cs e := by
  have hvalue := (readsWithin (2 * cs.length + 2)).value depthLimit (skip cs)
  rcases bind_error h with hrefused | ⟨p, hread, hend⟩
  · rw [hrefused] at hvalue
    cases hvalue with
    | refused hreason => exact hreason.before (skip_suffix cs)
  · dsimp only at hend
    split at hend
    · cases hend
    · cases hend
      exact .malformed

end Minimize.JsonValue
