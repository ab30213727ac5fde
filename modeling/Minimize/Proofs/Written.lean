-- What a written text says. A text is read character by character as it was
-- escaped; a number is read up to the comma, the line end or the brace behind
-- it; and an object gives its members back in order, however many blanks stand
-- between them. So a file of information
-- that was written is read as the same information, if its numbers are read
-- back: those that are no finite number always are, and whole numbers are
-- unless they have too many digits.
import Mathlib
import Minimize.Checkpoint.Directory
import Minimize.Proofs.Precision

/-! ## Floating-point words -/

namespace Minimize.Number

open Float.Model in
theorem ofWord_toBits (x : Float) : ofWord x.toBits.toNat = x := by
  obtain ⟨⟨b, hb⟩⟩ := x
  have hpack : UnpackedFloat.pack .binary64 (UnpackedFloat.unpack .binary64 b.toBitVec) =
      b.toBitVec := by
    rw [UnpackedFloat.pack_unpack]
    split
    · rename_i hbits
      obtain ⟨he, hm⟩ := of_decide_eq_true hbits
      exact (hb.eq_packedNaN he hm).symm
    · rfl
  have hmodel : Float.Model.ofBits b = ⟨b, hb⟩ := by
    unfold Float.Model.ofBits pack
    simp only [hpack]
  show Float.ofModel (Float.Model.ofBits (UInt64.ofNat b.toNat)) = _
  rw [UInt64.ofNat_toNat, hmodel]

/-- An infinity is the one of its sign. -/
theorem ofDatum_infinite {x : Float} {negative : Bool} (h : datumOf x = .infinite negative) :
    ofDatum (.infinite negative) = x := by
  have hlt : x.toBits.toNat < 2 ^ 64 := x.toBits.toNat_lt
  unfold datumOf Format.datum at h
  dsimp only at h
  split at h
  · rename_i he
    split at h
    · rename_i hm
      have hs := Datum.infinite.inj h
      have he' : x.toBits.toNat >>> 52 % 2 ^ 11 = 2 ^ 11 - 1 := he
      have hm' : x.toBits.toNat % 2 ^ 52 = 0 := hm
      have hs' : (x.toBits.toNat >>> 63 % 2 == 1) = negative := hs
      rw [Nat.shiftRight_eq_div_pow] at he' hs'
      have hword : Format.binary64.infinity negative = x.toBits.toNat := by
        cases negative with
        | false =>
          show 0 + 2047 * 2 ^ 52 = _
          rw [beq_eq_false_iff_ne] at hs'
          omega
        | true =>
          show 2 ^ 63 + 2047 * 2 ^ 52 = _
          rw [beq_iff_eq] at hs'
          omega
      exact (congrArg ofWord hword).trans (ofWord_toBits x)
    · cases h
  · split at h <;> cases h

/-- A number that is none has one word only. -/
theorem ofDatum_notNumber {x : Float} (h : datumOf x = .notNumber) : ofDatum .notNumber = x := by
  have hword : x.toBits.toNat = 0x7ff8000000000000 := by
    obtain ⟨⟨b, hb⟩⟩ := x
    have hexponent := toNat_unpackExponent b.toBitVec
    have hmantissa := toNat_unpackMantissa b.toBitVec
    unfold datumOf Format.datum at h
    dsimp only at h
    split at h
    · rename_i he
      split at h
      · cases h
      · rename_i hm
        have hcanonical : b.toBitVec = _ := hb.eq_packedNaN
          (BitVec.eq_of_toNat_eq (hexponent.trans he))
          (fun hzero => hm (hmantissa.symm.trans (congrArg BitVec.toNat hzero)))
        exact congrArg BitVec.toNat hcanonical
    · split at h <;> cases h
  rw [← ofWord_toBits x, hword]
  decide +kernel

end Minimize.Number

namespace Minimize.JsonValue

/-! ## Texts -/

theorem hexValue?_hexDigit : ∀ {k : Nat}, k < 16 → hexValue? (Text.hexDigit k) = some k := by
  decide

/-- Four hexadecimal digits give the unit that they were written for. -/
theorem unit?_hexDigits {n : Nat} (hn : n < 0x10000) :
    ∃ a b c d, Text.hexDigits 4 n = [a, b, c, d] ∧ unit? a b c d = some n := by
  refine ⟨_, _, _, _, rfl, ?_⟩
  unfold unit?
  rw [hexValue?_hexDigit (Nat.mod_lt _ (by decide)), hexValue?_hexDigit (Nat.mod_lt _ (by decide)),
    hexValue?_hexDigit (Nat.mod_lt _ (by decide)), hexValue?_hexDigit (Nat.mod_lt _ (by decide))]
  show some _ = some n
  congr 1
  omega

/-- A unit that is not the first of two is read as the character of its point. -/
theorem textTail_unit {n : Nat} (hn : n < 0x10000) (hh : isHighUnit n = false) (rest : List Char) :
    textTail (unitEscape n ++ rest) = consText (ofPoint n) (textTail rest) := by
  obtain ⟨a, b, c, d, hd, hu⟩ := unit?_hexDigits hn
  unfold unitEscape
  rw [hd]
  show textTail ('\\' :: 'u' :: a :: b :: c :: d :: rest) = _
  rw [textTail.eq_def]
  split
  · contradiction
  · rename_i heq
    cases (List.cons.inj heq).1
  · rename_i heq
    cases heq
    rw [hu]
    simp only [hh, Bool.false_eq_true, if_false]
  · rename_i heq
    cases heq
    rw [hu]
  · rename_i hno heq
    cases heq
    exact (hno a b c d rest rfl rfl).elim
  · rename_i _ _ _ hno heq
    cases heq
    exact (hno _ _ rfl rfl).elim

theorem textTail_units (a b c d e f g h : Char) (rest : List Char) :
    textTail ('\\' :: 'u' :: a :: b :: c :: d :: '\\' :: 'u' :: e :: f :: g :: h :: rest) =
      match unit? a b c d with
      | none => none
      | some n =>
        match if isHighUnit n then unit? e f g h else none with
        | some m =>
          if isLowUnit m then
            consText (ofPoint (0x10000 + (n - 0xd800) * 0x400 + (m - 0xdc00))) (textTail rest)
          else consText (ofPoint n) (textTail ('\\' :: 'u' :: e :: f :: g :: h :: rest))
        | none => consText (ofPoint n) (textTail ('\\' :: 'u' :: e :: f :: g :: h :: rest)) :=
  rfl

/-- Two units that belong together are read as the character of their point. -/
theorem textTail_pair {n m : Nat} (hn : n < 0x10000) (hm : m < 0x10000)
    (hh : isHighUnit n = true) (hl : isLowUnit m = true) (rest : List Char) :
    textTail (unitEscape n ++ unitEscape m ++ rest) =
      consText (ofPoint (0x10000 + (n - 0xd800) * 0x400 + (m - 0xdc00))) (textTail rest) := by
  obtain ⟨a, b, c, d, hd, hu⟩ := unit?_hexDigits hn
  obtain ⟨e, f, g, h, hd', hu'⟩ := unit?_hexDigits hm
  unfold unitEscape
  rw [hd, hd']
  show textTail ('\\' :: 'u' :: a :: b :: c :: d :: '\\' :: 'u' :: e :: f :: g :: h :: rest) = _
  rw [textTail_units]
  simp only [hu, hh, hu', hl, if_true]

/-- No character is half of a pair. -/
theorem toNat_bounds (c : Char) :
    (c.toNat < 0xd800 ∨ 0xdfff < c.toNat) ∧ c.toNat < 0x110000 := by
  rcases c.valid with h | ⟨hlow, hhigh⟩
  · have hsmall : c.toNat < 0xd800 := h
    exact ⟨.inl hsmall, hsmall.trans (by decide)⟩
  · exact ⟨.inr hlow, hhigh⟩

/-- The character of a point is read off the point. -/
theorem ofPoint_toNat (c : Char) : ofPoint c.toNat = c := by
  obtain ⟨hapart, _⟩ := toNat_bounds c
  have hvalid : ¬ (isHighUnit c.toNat || isLowUnit c.toNat) = true := by
    simp only [isHighUnit, isLowUnit, Bool.or_eq_true, Bool.and_eq_true, decide_eq_true_eq]
    omega
  unfold ofPoint
  rw [if_neg hvalid]
  exact Char.ofNat_toNat c

theorem textTail_pointEscape (c : Char) (rest : List Char) :
    textTail (pointEscape c.toNat ++ rest) = consText c (textTail rest) := by
  have hpoint := ofPoint_toNat c
  obtain ⟨hapart, hmax⟩ := toNat_bounds c
  unfold pointEscape
  split
  · rename_i hsmall
    rw [textTail_unit hsmall ?_ rest, hpoint]
    simp only [isHighUnit, Bool.and_eq_false_iff, decide_eq_false_iff_not]
    omega
  · rename_i hlarge
    rw [textTail_pair (by omega) (by omega) ?_ ?_ rest]
    · rw [show 0x10000 + (0xd800 + (c.toNat - 0x10000) / 0x400 - 0xd800) * 0x400 +
        (0xdc00 + (c.toNat - 0x10000) % 0x400 - 0xdc00) = c.toNat by omega, hpoint]
    · simp only [isHighUnit, Bool.and_eq_true, decide_eq_true_eq]
      omega
    · simp only [isLowUnit, Bool.and_eq_true, decide_eq_true_eq]
      omega

/-- A short escape is read as what it stands for. -/
theorem textTail_short {x y : Char} (hx : shortEscape? x = some y) (hu : x ≠ 'u')
    (rest : List Char) : textTail ('\\' :: x :: rest) = consText y (textTail rest) := by
  rw [textTail.eq_def]
  split
  · contradiction
  · rename_i heq
    cases (List.cons.inj heq).1
  · rename_i heq
    cases heq
    exact (hu rfl).elim
  · rename_i heq
    cases heq
    exact (hu rfl).elim
  · rename_i heq
    cases heq
    rw [hx]
  · rename_i _ _ _ hno heq
    cases heq
    exact (hno _ _ rfl rfl).elim

theorem textTail_plain {c : Char} (hq : c ≠ '"') (hb : c ≠ '\\') (hc : 0x20 ≤ c.toNat)
    (rest : List Char) : textTail (c :: rest) = consText c (textTail rest) := by
  rw [textTail.eq_def]
  split
  · contradiction
  · rename_i heq
    exact (hq (List.cons.inj heq).1).elim
  · rename_i heq
    exact (hb (List.cons.inj heq).1).elim
  · rename_i heq
    exact (hb (List.cons.inj heq).1).elim
  · rename_i heq
    exact (hb (List.cons.inj heq).1).elim
  · rename_i heq
    cases heq
    have hlow : ¬ (decide (c.toNat < 0x20) || c == '\\') = true := by
      simp only [Bool.or_eq_true, decide_eq_true_eq, beq_iff_eq, not_or]
      exact ⟨by omega, hb⟩
    rw [if_neg hlow]

theorem textTail_escape (c : Char) (rest : List Char) :
    textTail (escape c ++ rest) = consText c (textTail rest) := by
  unfold escape
  split_ifs with hquote hback hfeed hreturn htab hbs hff hplain
  · exact textTail_short (by rw [hquote]; rfl) (by decide) rest
  · exact textTail_short (by rw [hback]; rfl) (by decide) rest
  · exact textTail_short (by rw [hfeed]; rfl) (by decide) rest
  · exact textTail_short (by rw [hreturn]; rfl) (by decide) rest
  · exact textTail_short (by rw [htab]; rfl) (by decide) rest
  · have hc : Char.ofNat 8 = c := hbs ▸ Char.ofNat_toNat c
    exact textTail_short (by rw [← hc]; rfl) (by decide) rest
  · have hc : Char.ofNat 12 = c := hff ▸ Char.ofNat_toNat c
    exact textTail_short (by rw [← hc]; rfl) (by decide) rest
  · exact textTail_plain hquote hback hplain.1 rest
  · exact textTail_pointEscape c rest

/-- A text is read up to its closing quote as it was written. -/
theorem textTail_written (cs rest : List Char) :
    textTail (cs.flatMap escape ++ '"' :: rest) = some (cs, rest) := by
  induction cs with
  | nil => rfl
  | cons c cs ih =>
    rw [List.flatMap_cons, List.append_assoc, textTail_escape, ih]
    rfl

/-! ## Numbers -/

/-- What may follow a value: a comma, the end of a line, or the end of an
object. -/
inductive Stops : List Char → Prop
  | comma (rest : List Char) : Stops (',' :: rest)
  | line (rest : List Char) : Stops ('\n' :: rest)
  | brace (rest : List Char) : Stops ('\x7d' :: rest)

/-- A character that goes on with no number and no word: a comma, a brace or a
blank. -/
def isEnd (c : Char) : Bool := c == ',' || c == '\x7b' || c == '\x7d' || Text.isBlank c

/-- What ends a number or a word. -/
def Ends (t : List Char) : Prop := ∃ c rest, t = c :: rest ∧ isEnd c = true

variable {cs t r w : List Char} {j : JsonValue}

theorem Stops.ends (h : Stops t) : Ends t := by
  cases h with
  | comma rest => exact ⟨_, rest, rfl, rfl⟩
  | line rest => exact ⟨_, rest, rfl, rfl⟩
  | brace rest => exact ⟨_, rest, rfl, rfl⟩

theorem ne_of_isEnd {c d : Char} (hc : isEnd c = true) (hd : isEnd d = false) : c ≠ d := by
  rintro rfl
  rw [hc] at hd
  cases hd

theorem not_isDigit_of_isEnd {c : Char} (hc : isEnd c = true) : isDigit c = false := by
  rw [← Bool.not_eq_true]
  intro hdigit
  unfold isDigit at hdigit
  simp only [Bool.and_eq_true, decide_eq_true_eq] at hdigit
  have hne {d : Char} (hd : d.toNat < 0x30 ∨ 0x39 < d.toNat) : (c == d) = false := by
    rw [beq_eq_false_iff_ne]
    rintro rfl
    omega
  have hblank : Text.isBlank c = false := by
    simp only [Text.isBlank, Text.isSpace, Bool.or_eq_false_iff, Bool.and_eq_false_iff,
      decide_eq_false_iff_not, beq_eq_false_iff_ne]
    omega
  unfold isEnd at hc
  rw [hne (by decide), hne (by decide), hne (by decide), hblank] at hc
  cases hc

theorem digits_append (ht : Ends t) (cs : List Char) :
    (cs ++ t).takeWhile isDigit = cs.takeWhile isDigit ∧
      (cs ++ t).dropWhile isDigit = cs.dropWhile isDigit ++ t := by
  induction cs with
  | nil =>
    obtain ⟨c, rest, rfl, hc⟩ := ht
    have hdigit := not_isDigit_of_isEnd hc
    simp [hdigit]
  | cons c cs ih =>
    rw [List.cons_append, List.takeWhile_cons, List.takeWhile_cons, List.dropWhile_cons,
      List.dropWhile_cons, ih.1, ih.2]
    refine ⟨rfl, ?_⟩
    split <;> rfl

theorem wholePart_other {c : Char} (hc : c ≠ '0') (cs : List Char) :
    wholePart (c :: cs) =
      if isDigit c then some ((c :: cs).takeWhile isDigit, (c :: cs).dropWhile isDigit)
      else none := by
  rw [wholePart.eq_def]
  split
  · contradiction
  · rename_i heq
    exact (hc (List.cons.inj heq).1).elim
  · rename_i heq
    cases heq
    rfl

theorem wholePart_append (ht : Ends t) (cs : List Char) :
    wholePart (cs ++ t) = (wholePart cs).map fun p => (p.1, p.2 ++ t) := by
  cases cs with
  | nil =>
    obtain ⟨c, rest, rfl, hc⟩ := ht
    rw [List.nil_append, wholePart_other (ne_of_isEnd hc rfl), not_isDigit_of_isEnd hc]
    rfl
  | cons c cs =>
    by_cases hc : c = '0'
    · subst hc
      rfl
    · obtain ⟨htake, hdrop⟩ := digits_append ht (c :: cs)
      rw [List.cons_append, wholePart_other hc, wholePart_other hc, ← List.cons_append, htake,
        hdrop]
      split <;> rfl

theorem fraction_other {c : Char} (hc : c ≠ '.') (cs : List Char) :
    fraction (c :: cs) = ([], c :: cs) := by
  rw [fraction.eq_def]
  split
  · rename_i heq
    exact (hc (List.cons.inj heq).1).elim
  · rfl

theorem fraction_append (ht : Ends t) (cs : List Char) :
    fraction (cs ++ t) = ((fraction cs).1, (fraction cs).2 ++ t) := by
  have hpoint (d : Char) (xs : List Char) : fraction ('.' :: d :: xs) =
      if isDigit d then ((d :: xs).takeWhile isDigit, (d :: xs).dropWhile isDigit)
      else ([], '.' :: d :: xs) := rfl
  cases cs with
  | nil =>
    obtain ⟨c, rest, rfl, hc⟩ := ht
    rw [List.nil_append, fraction_other (ne_of_isEnd hc rfl)]
    rfl
  | cons c cs =>
    by_cases hc : c = '.'
    · subst hc
      cases cs with
      | nil =>
        obtain ⟨d, rest, rfl, hd⟩ := ht
        rw [List.cons_append, List.nil_append, hpoint, not_isDigit_of_isEnd hd]
        rfl
      | cons d cs =>
        obtain ⟨htake, hdrop⟩ := digits_append ht (d :: cs)
        rw [List.cons_append, List.cons_append, hpoint, hpoint, ← List.cons_append, htake, hdrop]
        split <;> rfl
    · rw [List.cons_append, fraction_other hc, fraction_other hc]
      rfl

theorem exponentSign_other {c : Char} (hm : c ≠ '-') (hp : c ≠ '+') (cs : List Char) :
    exponentSign (c :: cs) = (false, c :: cs) := by
  rw [exponentSign.eq_def]
  split
  · rename_i heq
    exact (hm (List.cons.inj heq).1).elim
  · rename_i heq
    exact (hp (List.cons.inj heq).1).elim
  · rfl

theorem exponentSign_append (ht : Ends t) (cs : List Char) :
    exponentSign (cs ++ t) = ((exponentSign cs).1, (exponentSign cs).2 ++ t) := by
  cases cs with
  | nil =>
    obtain ⟨c, rest, rfl, hc⟩ := ht
    exact exponentSign_other (ne_of_isEnd hc rfl) (ne_of_isEnd hc rfl) rest
  | cons c cs =>
    by_cases hm : c = '-'
    · subst hm
      rfl
    · by_cases hp : c = '+'
      · subst hp
        rfl
      · rw [List.cons_append, exponentSign_other hm hp, exponentSign_other hm hp]
        rfl

theorem exponent_append (ht : Ends t) (cs : List Char) :
    exponent (cs ++ t) = ((exponent cs).1, (exponent cs).2 ++ t) := by
  cases cs with
  | nil =>
    obtain ⟨c, rest, rfl, hc⟩ := ht
    have hsmall : c ≠ 'e' := ne_of_isEnd hc rfl
    have hlarge : c ≠ 'E' := ne_of_isEnd hc rfl
    simp [exponent, hsmall, hlarge]
  | cons c cs =>
    obtain ⟨htake, hdrop⟩ := digits_append ht (exponentSign cs).2
    unfold exponent
    rw [List.cons_append]
    dsimp only
    rw [exponentSign_append ht]
    dsimp only
    rw [htake, hdrop]
    split <;> rfl

/-- A number is read alike whether it ends the text or something follows that ends
it. -/
theorem number_append (ht : Ends t) (negative : Bool) (cs : List Char) :
    number negative (cs ++ t) = (number negative cs).map fun p => (p.1, p.2 ++ t) := by
  unfold number
  rw [wholePart_append ht]
  cases wholePart cs with
  | none => rfl
  | some x =>
    obtain ⟨whole, rest⟩ := x
    simp only [Option.map_some, orMalformed, bind, Except.bind]
    rw [fraction_append ht]
    dsimp only
    rw [exponent_append ht]
    dsimp only
    split
    · split <;> rfl
    · rfl

/-- No word has a character in it that would end it. -/
theorem words_apart : ∀ x ∈ words, ∀ c ∈ x.1, isEnd c = false := by
  simp [words]
  decide

theorem isPrefixOf_append (ht : Ends t) {w : List Char} (hw : ∀ c ∈ w, isEnd c = false)
    (cs : List Char) : w.isPrefixOf (cs ++ t) = w.isPrefixOf cs := by
  induction w generalizing cs with
  | nil => simp
  | cons c w ih =>
    obtain ⟨hc, hw⟩ := List.forall_mem_cons.mp hw
    cases cs with
    | nil =>
      obtain ⟨d, rest, rfl, hd⟩ := ht
      simp [List.isPrefixOf, (ne_of_isEnd hd hc).symm]
    | cons d cs => simp [List.isPrefixOf, ih hw cs]

theorem word?_append (ht : Ends t) (cs : List Char) :
    word? (cs ++ t) = (word? cs).map fun x => (x.1, x.2 ++ t) := by
  have hfind : words.find? (fun w => w.1.isPrefixOf (cs ++ t)) =
      words.find? (fun w => w.1.isPrefixOf cs) :=
    List.find?_congr fun x hx => isPrefixOf_append ht (words_apart x hx) cs
  unfold word?
  rw [hfind]
  cases hw : words.find? (fun w => w.1.isPrefixOf cs) with
  | none => rfl
  | some x =>
    have hprefix := List.find?_some hw
    have hle : x.1.length ≤ cs.length := (List.isPrefixOf_iff_prefix.mp hprefix).length_le
    simp [List.drop_append_of_le_length hle]

theorem atom_other {c : Char} (hc : c ≠ '-') (hw : word? (c :: cs) = none) :
    atom (c :: cs) = number false (c :: cs) := by
  unfold atom
  rw [hw]
  dsimp only
  split
  · rename_i heq
    exact (hc (List.cons.inj heq).1).elim
  · rfl

/-- So is any value but a text, a list and an object. -/
theorem atom_append (ht : Ends t) (cs : List Char) :
    atom (cs ++ t) = (atom cs).map fun p => (p.1, p.2 ++ t) := by
  have hword := word?_append ht cs
  cases hw : word? cs with
  | some x =>
    rw [hw] at hword
    unfold atom
    rw [hw, hword]
    rfl
  | none =>
    rw [hw] at hword
    cases cs with
    | nil =>
      obtain ⟨c, rest, rfl, hc⟩ := ht
      rw [List.nil_append, atom_other (ne_of_isEnd hc rfl) hword]
      exact number_append ⟨c, rest, rfl, hc⟩ false []
    | cons c cs =>
      by_cases hc : c = '-'
      · subst hc
        unfold atom
        rw [hw, hword]
        exact number_append ht true cs
      · have hword' : word? (c :: (cs ++ t)) = none := hword
        rw [List.cons_append, atom_other hc hw, atom_other hc hword']
        exact number_append ht false (c :: cs)

/-! ## Values in a row -/

/-- A value that is read as it was written, by itself. -/
def ReadsBack (j : JsonValue) : Prop := ofChars (chars j) = .ok j

/-- A value that is read as it was written, whatever stop follows. -/
def Legible (j : JsonValue) : Prop :=
  ∀ (fuel room : Nat) {t : List Char}, Stops t →
    ∃ r, value (fuel + 1) room (skip (chars j ++ t)) = .ok (j, r) ∧ skip r = skip t

def isNumber : JsonValue → Bool
  | .int _ => true
  | .float _ => true
  | _ => false

/-- A quote begins a text. -/
theorem value_quoted (fuel room : Nat) (cs : List Char) : value (fuel + 1) room ('"' :: cs) =
    (orMalformed (textTail cs)).bind fun p => .ok (.text (String.ofList p.1), p.2) := rfl

theorem value_list (fuel room : Nat) (cs : List Char) : value (fuel + 1) room ('[' :: cs) =
    match room, skip cs with
    | 0, _ => .error .tooDeep
    | _ + 1, ']' :: rest => .ok (.list [], rest)
    | room + 1, rest => (itemsTail fuel room rest).bind fun p => .ok (.list p.1, p.2) := rfl

theorem value_braced (fuel room : Nat) (cs : List Char) : value (fuel + 1) room ('\x7b' :: cs) =
    match room, skip cs with
    | 0, _ => .error .tooDeep
    | _ + 1, '\x7d' :: rest => .ok (.object [], rest)
    | room + 1, rest => (membersTail fuel room [] rest).bind fun p => .ok (.object p.1, p.2) :=
  rfl

theorem value_atom {c : Char} (hq : c ≠ '"') (hl : c ≠ '[') (ho : c ≠ '\x7b') (fuel room : Nat)
    (cs : List Char) : value (fuel + 1) room (c :: cs) = atom (c :: cs) := by
  rw [value.eq_def]
  dsimp only
  split
  · rename_i heq
    exact (hq (List.cons.inj heq).1).elim
  · rename_i heq
    exact (hl (List.cons.inj heq).1).elim
  · rename_i heq
    exact (ho (List.cons.inj heq).1).elim
  · rfl

theorem value_text (h : textTail cs = some (w, r)) (fuel room : Nat) :
    value (fuel + 1) room ('"' :: cs) = .ok (.text (String.ofList w), r) := by
  rw [value_quoted, h]
  rfl

theorem atom_of_number (hj : j.isNumber = true) {fuel room : Nat}
    (h : value (fuel + 1) room cs = .ok (j, r)) :
    atom cs = .ok (j, r) ∧ ∀ c rest, cs = c :: rest → c ≠ '"' ∧ c ≠ '[' ∧ c ≠ '\x7b' := by
  rw [value.eq_def] at h
  dsimp only at h
  split at h
  · obtain ⟨x, _, h⟩ := bind_ok h
    cases h
    cases hj
  · split at h
    · cases h
    · cases h
      cases hj
    · obtain ⟨x, _, h⟩ := bind_ok h
      cases h
      cases hj
  · split at h
    · cases h
    · cases h
      cases hj
    · obtain ⟨x, _, h⟩ := bind_ok h
      cases h
      cases hj
  · rename_i hquote hlist hobject
    refine ⟨h, fun c rest hc => ⟨?_, ?_, ?_⟩⟩
    · rintro rfl
      exact hquote _ hc
    · rintro rfl
      exact hlist _ hc
    · rintro rfl
      exact hobject _ hc

theorem legible_text (s : String) : Legible (.text s) := by
  intro fuel room t _
  have hchars : skip (chars (.text s) ++ t) = '"' :: (s.toList.flatMap escape ++ '"' :: t) := by
    show skip ('"' :: (s.toList.flatMap escape ++ ['"']) ++ t) = _
    rw [List.cons_append, List.append_assoc]
    rfl
  refine ⟨t, ?_, rfl⟩
  rw [hchars, value_text (textTail_written _ _), String.ofList_toList]

theorem skip_append (cs t : List Char) :
    skip (cs ++ t) = if (skip cs).isEmpty then skip t else skip cs ++ t := List.dropWhile_append

theorem ReadsBack.legible (h : ReadsBack j) (hj : j.isNumber = true) : Legible j := by
  intro fuel room t ht
  obtain ⟨⟨j', r⟩, hvalue, hr⟩ := bind_ok h
  have hwhole : skip r = [] ∧ j' = j := by
    dsimp only at hr
    split at hr
    · rename_i hempty
      exact ⟨List.isEmpty_iff.mp hempty, Except.ok.inj hr⟩
    · cases hr
  obtain ⟨hempty, rfl⟩ := hwhole
  obtain ⟨hatom, hhead⟩ := atom_of_number hj hvalue
  refine ⟨r ++ t, ?_, by rw [skip_append, hempty]; rfl⟩
  have happend : atom (skip (chars j') ++ t) = .ok (j', r ++ t) := by
    rw [atom_append ht.ends, hatom]
    rfl
  rw [skip_append]
  cases hc : skip (chars j') with
  | nil =>
    rw [hc] at hatom
    cases hatom
  | cons c rest =>
    obtain ⟨hq, hl, ho⟩ := hhead c rest hc
    rw [hc] at happend
    rw [List.cons_append] at happend ⊢
    exact (value_atom hq hl ho _ _ _).trans happend

/-! ## Whole numbers -/

theorem isDigit_of_mem {n : Nat} {c : Char} (h : c ∈ Nat.toDigits 10 n) : isDigit c = true := by
  have hdigit := Nat.isDigit_of_mem_toDigits (by decide) (by decide) h
  unfold Char.isDigit at hdigit
  simp only [Bool.and_eq_true, decide_eq_true_eq] at hdigit
  unfold isDigit
  simp only [Bool.and_eq_true, decide_eq_true_eq]
  exact hdigit

theorem digitValue?_of_isDigit {c : Char} (h : isDigit c = true) :
    Text.digitValue? c = some (c.toNat - 0x30) := by
  unfold isDigit at h
  simp only [Bool.and_eq_true, decide_eq_true_eq] at h
  unfold Text.digitValue?
  rw [if_pos (by omega), if_pos h]

/-- The digits of a number give the number. -/
theorem digitsValue_toDigits (n : Nat) : Text.digitsValue (Nat.toDigits 10 n) = n := by
  have hsame : ∀ (cs : List Char) (k : Nat), (∀ c ∈ cs, isDigit c = true) →
      cs.foldl (fun n c => 10 * n + (Text.digitValue? c).getD 0) k = Nat.ofDigitChars 10 cs k := by
    intro cs
    induction cs with
    | nil => exact fun _ _ => rfl
    | cons c cs ih =>
      intro k hall
      rw [List.foldl_cons, ih _ fun d hd => hall d (List.mem_cons_of_mem _ hd),
        digitValue?_of_isDigit (hall c List.mem_cons_self)]
      rfl
  exact (hsame _ 0 fun _ => isDigit_of_mem).trans Nat.ofDigitChars_ten_toDigits

/-- The digits of a number start with a zero only if they are that zero. -/
theorem toDigits_head (n : Nat) :
    ∃ c cs, Nat.toDigits 10 n = c :: cs ∧ (c = '0' → cs = []) := by
  induction n using Nat.strongRecOn with
  | _ n ih =>
    by_cases hn : n < 10
    · exact ⟨_, [], Nat.toDigits_of_lt_base hn, fun _ => rfl⟩
    · obtain ⟨c, cs, hc, hzero⟩ := ih (n / 10) (by omega)
      refine ⟨c, cs ++ [(n % 10).digitChar], ?_, fun h => ?_⟩
      · rw [Nat.toDigits_of_base_le (by decide) (by omega), hc]
        rfl
      · have hvalue := digitsValue_toDigits (n / 10)
        rw [hc, h, hzero h] at hvalue
        have : n / 10 = 0 := hvalue.symm
        omega

theorem wholePart_toDigits (n : Nat) :
    wholePart (Nat.toDigits 10 n) = some (Nat.toDigits 10 n, []) := by
  obtain ⟨c, cs, hc, hzero⟩ := toDigits_head n
  have hall : ∀ d ∈ c :: cs, isDigit d = true := fun d hd => isDigit_of_mem (hc ▸ hd)
  rw [hc]
  by_cases h : c = '0'
  · rw [hzero h, h]
    rfl
  · rw [wholePart_other h, if_pos (hall c List.mem_cons_self),
      List.takeWhile_eq_self_iff.mpr hall, List.dropWhile_eq_nil_iff.mpr hall]

theorem number_toDigits {n : Nat} (hn : n < 10 ^ Text.digitLimit) (negative : Bool) :
    number negative (Nat.toDigits 10 n) = .ok (.int (if negative then -n else n), []) := by
  have hlength : ¬ Text.digitLimit < (Nat.toDigits 10 n).length :=
    Nat.not_lt.mpr ((Nat.length_toDigits_le_iff (by decide) (by decide)).mpr hn)
  unfold number
  rw [wholePart_toDigits]
  show (if Text.digitLimit < (Nat.toDigits 10 n).length then _ else _) = _
  rw [if_neg hlength, digitsValue_toDigits]
  rfl

theorem ne_of_isDigit {c d : Char} (hc : isDigit c = true) (hd : isDigit d = false) : c ≠ d := by
  rintro rfl
  rw [hc] at hd
  cases hd

theorem isSpace_digit {c : Char} (hc : isDigit c = true) : isSpace c = false := by
  have hapart {d : Char} (hd : isDigit d = false) : (c == d) = false :=
    beq_eq_false_iff_ne.mpr (ne_of_isDigit hc hd)
  unfold isSpace
  rw [hapart rfl, hapart rfl, hapart rfl, hapart rfl]
  rfl

theorem word?_digit {c : Char} (hc : isDigit c = true) (cs : List Char) :
    word? (c :: cs) = none ∧ word? ('-' :: c :: cs) = none := by
  have hapart {d : Char} (hd : isDigit d = false) : (d == c) = false :=
    beq_eq_false_iff_ne.mpr (ne_of_isDigit hc hd).symm
  have h1 := @hapart 'n' rfl
  have h2 := @hapart 't' rfl
  have h3 := @hapart 'f' rfl
  have h4 := @hapart 'N' rfl
  have h5 := @hapart 'I' rfl
  have h6 := @hapart '-' rfl
  simp [word?, words, List.isPrefixOf, h1, h2, h3, h4, h5, h6]

/-- What one atom is, is read back. -/
theorem readsBack_of_atom {c : Char} {rest : List Char} (hc : chars j = c :: rest)
    (hs : isSpace c = false) (hq : c ≠ '"') (hl : c ≠ '[') (ho : c ≠ '\x7b')
    (h : atom (c :: rest) = .ok (j, [])) : ReadsBack j := by
  unfold ReadsBack ofChars
  have hskip : skip (c :: rest) = c :: rest := by
    unfold skip
    rw [List.dropWhile_cons, hs]
    rfl
  rw [hc, hskip, value_atom hq hl ho, h]
  rfl

theorem readsBack_int {i : Int} (hi : i.natAbs < 10 ^ Text.digitLimit) : ReadsBack (.int i) := by
  cases i with
  | ofNat n =>
    obtain ⟨c, rest, hc, _⟩ := toDigits_head n
    have hchars : chars (.int (.ofNat n)) = c :: rest := by
      show (toString (Int.ofNat n)).toList = _
      rw [Int.toString_eq_repr]
      show n.repr.toList = _
      rw [Nat.toList_repr, hc]
    have hdigit : isDigit c = true := isDigit_of_mem (hc ▸ List.mem_cons_self)
    have hne {d : Char} (hd : isDigit d = false) : c ≠ d := ne_of_isDigit hdigit hd
    refine readsBack_of_atom hchars (isSpace_digit hdigit) (hne rfl) (hne rfl) (hne rfl) ?_
    rw [atom_other (hne rfl) (word?_digit hdigit rest).1, ← hc]
    exact number_toDigits hi false
  | negSucc n =>
    obtain ⟨c, rest, hc, _⟩ := toDigits_head (n + 1)
    have hchars : chars (.int (.negSucc n)) = '-' :: c :: rest := by
      show (toString (Int.negSucc n)).toList = _
      rw [Int.toString_eq_repr]
      show ("-" ++ (n + 1).repr).toList = _
      rw [String.toList_append, Nat.toList_repr, hc]
      rfl
    have hdigit : isDigit c = true := isDigit_of_mem (hc ▸ List.mem_cons_self)
    refine readsBack_of_atom hchars (by decide) (by decide) (by decide) (by decide) ?_
    unfold atom
    rw [(word?_digit hdigit rest).2]
    show number true (c :: rest) = _
    rw [← hc]
    exact number_toDigits hi true

/-! ## Floating-point numbers -/

theorem readsBack_of_not_finite {x : Float} (h : Number.isFinite x = false) :
    ReadsBack (.float x) := by
  unfold Number.isFinite at h
  cases hd : Number.datumOf x with
  | finite negative m e =>
    rw [hd] at h
    cases h
  | infinite negative =>
    have hx := Number.ofDatum_infinite hd
    have hchars : chars (.float x) =
        (if negative then "-Infinity" else "Infinity").toList := by
      show floatChars x = _
      unfold floatChars
      rw [hd]
    subst hx
    cases negative with
    | false => exact readsBack_of_atom hchars (by decide) (by decide) (by decide) (by decide) rfl
    | true => exact readsBack_of_atom hchars (by decide) (by decide) (by decide) (by decide) rfl
  | notNumber =>
    have hx := Number.ofDatum_notNumber hd
    have hchars : chars (.float x) = "NaN".toList := by
      show floatChars x = _
      unfold floatChars
      rw [hd]
    subst hx
    exact readsBack_of_atom hchars (by decide) (by decide) (by decide) (by decide) rfl

/-! ## Members -/

def memberChars (m : String × JsonValue) : List Char := textChars m.1 ++ ':' :: ' ' :: chars m.2

theorem skip_memberChars (m : String × JsonValue) (t : List Char) :
    skip (memberChars m ++ t) = '"' ::
      (m.1.toList.flatMap escape ++ '"' :: ':' :: ' ' :: (chars m.2 ++ t)) := by
  show skip ('"' :: (m.1.toList.flatMap escape ++ ['"']) ++ ':' :: ' ' :: chars m.2 ++ t) = _
  simp only [List.cons_append, List.append_assoc, List.nil_append]
  rfl

/-- A legible member is read, and what follows decides. -/
theorem membersTail_member {k : String} (hj : Legible j) {before : List (String × JsonValue)}
    (hk : k ∉ before.map (·.1)) (fuel room : Nat) (ht : Stops t) :
    membersTail (fuel + 2) room before (skip (memberChars (k, j) ++ t)) =
      (match skip t with
      | '\x7d' :: rest => .ok (before ++ [(k, j)], rest)
      | ',' :: rest => membersTail (fuel + 1) room (before ++ [(k, j)]) (skip rest)
      | _ => .error .malformedText) := by
  obtain ⟨r, hvalue, hr⟩ := hj fuel room ht
  rw [skip_memberChars]
  show (orMalformed (textTail _)).bind _ = _
  rw [textTail_written]
  show (value (fuel + 1) room (skip (chars j ++ t))).bind (fun x =>
    let ms := Table.put (String.ofList k.toList) x.1 before
    match skip x.2 with
    | '\x7d' :: rest => .ok (ms, rest)
    | ',' :: rest => membersTail (fuel + 1) room ms (skip rest)
    | _ => .error .malformedText) = _
  rw [hvalue, ← hr, ← Table.put_append hk, String.ofList_toList]
  rfl

theorem not_mem_before {before ms : List (String × JsonValue)} {k : String}
    (h : ((before ++ (k, j) :: ms).map (·.1)).Nodup) : k ∉ before.map (·.1) := by
  rw [List.map_append, List.nodup_append] at h
  exact fun hmem => h.2.2 k hmem k List.mem_cons_self rfl

/-- A text in which members stand one behind the other, up to the end of their
object, with any blanks between them. -/
inductive Laid : List (String × JsonValue) → List Char → Prop
  | last {m : String × JsonValue} {cs t : List Char} (hcs : skip cs = skip (memberChars m ++ t))
      (ht : Stops t) (hend : skip t = ['\x7d']) : Laid [m] cs
  | more {m : String × JsonValue} {ms : List (String × JsonValue)} {cs t rest : List Char}
      (hcs : skip cs = skip (memberChars m ++ t)) (ht : Stops t) (hnext : skip t = ',' :: rest)
      (hrest : Laid ms rest) : Laid (m :: ms) cs

/-- Legible members of distinct names are read as they stand, behind those
that came before. -/
theorem Laid.membersTail {ms : List (String × JsonValue)} (h : Laid ms cs) (room : Nat) :
    ∀ (fuel : Nat) (before : List (String × JsonValue)), (∀ n ∈ ms, Legible n.2) →
      ((before ++ ms).map (·.1)).Nodup →
        membersTail (fuel + ms.length + 1) room before (skip cs) = .ok (before ++ ms, []) := by
  induction h with
  | @last m cs t hcs ht hend =>
    intro fuel before hall hdistinct
    obtain ⟨k, j⟩ := m
    have hk := not_mem_before hdistinct
    have hj : Legible j := hall (k, j) List.mem_cons_self
    show JsonValue.membersTail (fuel + 2) room before _ = _
    rw [hcs, membersTail_member hj hk fuel room ht, hend]
    rfl
  | @more m ms cs t rest hcs ht hnext _ ih =>
    intro fuel before hall hdistinct
    obtain ⟨k, j⟩ := m
    have hk := not_mem_before hdistinct
    have hsplit : before ++ (k, j) :: ms = (before ++ [(k, j)]) ++ ms := by
      rw [List.append_assoc]
      rfl
    rw [hsplit] at hdistinct ⊢
    have hrest := ih fuel _ (fun n hn => hall n (List.mem_cons_of_mem _ hn)) hdistinct
    have hj : Legible j := hall (k, j) List.mem_cons_self
    show JsonValue.membersTail (fuel + ms.length + 2) room before _ = _
    rw [hcs, membersTail_member hj hk _ room ht, hnext]
    exact hrest

theorem length_skip_le (cs : List Char) : (skip cs).length ≤ cs.length :=
  (List.dropWhile_sublist _).length_le

/-- Members may stand behind a blank. -/
theorem Laid.blank {ms : List (String × JsonValue)} (h : Laid ms cs) : Laid ms (' ' :: cs) := by
  cases h with
  | last hcs ht hend => exact .last hcs ht hend
  | more hcs ht hnext hrest => exact .more hcs ht hnext hrest

/-- Every member takes at least a character, and so does the end. -/
theorem Laid.length_le {ms : List (String × JsonValue)} (h : Laid ms cs) :
    ms.length + 1 ≤ cs.length := by
  have hlong {m : String × JsonValue} {cs t : List Char}
      (hcs : skip cs = skip (memberChars m ++ t)) : t.length + 1 ≤ cs.length := by
    have hskip := length_skip_le cs
    rw [hcs, skip_memberChars] at hskip
    simp only [List.length_cons, List.length_append] at hskip
    omega
  induction h with
  | @last m cs t hcs _ hend =>
    have hle := hlong hcs
    have hskip := length_skip_le t
    simp only [hend, List.length_cons, List.length_nil] at hskip ⊢
    omega
  | @more m ms cs t rest hcs _ hnext _ ih =>
    have hle := hlong hcs
    have hskip := length_skip_le t
    simp only [hnext, List.length_cons] at hskip ⊢
    omega

theorem Laid.opens {ms : List (String × JsonValue)} (h : Laid ms cs) :
    ∃ rest, skip cs = '"' :: rest := by
  cases h with
  | last hcs _ _ => exact ⟨_, hcs.trans (skip_memberChars _ _)⟩
  | more hcs _ _ _ => exact ⟨_, hcs.trans (skip_memberChars _ _)⟩

theorem value_object {fuel room : Nat} {rest : List Char} {ms : List (String × JsonValue)}
    (hopen : skip cs = '"' :: rest) (h : membersTail fuel room [] (skip cs) = .ok (ms, r)) :
    value (fuel + 1) (room + 1) ('\x7b' :: cs) = .ok (.object ms, r) := by
  rw [value_braced]
  rw [hopen] at h ⊢
  show (membersTail fuel room [] ('"' :: rest)).bind _ = _
  rw [h]
  rfl

theorem Laid.ofChars {ms : List (String × JsonValue)} (h : Laid ms cs)
    (hall : ∀ n ∈ ms, Legible n.2) (hdistinct : (ms.map (·.1)).Nodup) :
    ofChars ('\x7b' :: cs) = .ok (.object ms) := by
  obtain ⟨rest, hopen⟩ := h.opens
  have hlength := h.length_le
  obtain ⟨f, hf⟩ : ∃ f, 2 * ('\x7b' :: cs).length + 1 = f + ms.length + 1 := by
    refine ⟨2 * ('\x7b' :: cs).length - ms.length, ?_⟩
    simp only [List.length_cons]
    omega
  have hmembers := h.membersTail 989 f [] hall hdistinct
  rw [← hf] at hmembers
  have hvalue := value_object hopen hmembers
  unfold JsonValue.ofChars
  rw [show skip ('\x7b' :: cs) = '\x7b' :: cs from rfl]
  show (value _ 990 _).bind _ = _
  rw [hvalue]
  rfl

theorem laid_lines (m : String × JsonValue) (ms : List (String × JsonValue)) :
    Laid (m :: ms) ('\n' :: (((m :: ms).map memberLine).intersperse [',', '\n']).flatten ++
      ['\n', '\x7d']) := by
  induction ms generalizing m with
  | nil => exact .last (t := ['\n', '\x7d']) (by simp; rfl) (.line _) rfl
  | cons m' ms ih => exact .more (by simp; rfl) (.comma _) rfl (ih m')

theorem ofChars_lines {m : String × JsonValue} {ms : List (String × JsonValue)}
    (hall : ∀ n ∈ m :: ms, Legible n.2) (hdistinct : ((m :: ms).map (·.1)).Nodup) :
    ofChars (linesChars (m :: ms)) = .ok (.object (m :: ms)) :=
  (laid_lines m ms).ofChars hall hdistinct

end Minimize.JsonValue

namespace Minimize

theorem Text.isWritable_iff {i : Int} :
    Text.isWritable i = true ↔ i.natAbs < 10 ^ Text.digitLimit := by
  unfold Text.isWritable
  rw [decide_eq_true_iff, Nat.pow_eq]

/-- A number of more digits than can be written. -/
@[irreducible] def vast : Int := (10 ^ Text.digitLimit : Nat)

theorem vast_unwritable : Text.isWritable vast = false := by
  rw [← Bool.not_eq_true, Text.isWritable_iff]
  unfold vast
  rw [Int.natAbs_natCast]
  exact Nat.lt_irrefl _

end Minimize

namespace Minimize.Checkpoint.Directory

/-! ## Files of information -/

/-- Information is read as it was written if all that it says is legible. -/
theorem Info.ofText_text {i : Info} (h : ∀ m ∈ i.named, m.2.Legible) :
    Info.ofText i.text = .ok i := by
  have hread : JsonValue.ofChars i.text.toList = .ok (.object i.named) := by
    unfold Info.text
    rw [String.toList_ofList]
    exact JsonValue.ofChars_lines h (by simp)
  unfold Info.ofText
  rw [hread]
  rfl

end Minimize.Checkpoint.Directory
