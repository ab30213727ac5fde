-- Numbers of different precisions. A number that takes part in a comparison is
-- rounded to a type that has room for both, and rounding keeps the order. So two
-- numbers may come out equal in a comparison, but never in the wrong order.
import Mathlib
import Minimize.Proofs.Iteration
import Minimize.Proofs.Order
import Minimize.Proofs.Rounding

namespace Minimize.Number

/-! ## Floating-point numbers -/

/-- The fields of a word are those that the format reads off it. -/
theorem toNat_unpackExponent (b : BitVec 64) :
    (@Float.Model.UnpackedFloat.unpackExponent .binary64 b).toNat =
      Format.binary64.exponentField b.toNat := by
  unfold Float.Model.UnpackedFloat.unpackExponent
  rw [BitVec.toNat_cast, BitVec.extractLsb_toNat]
  rfl

theorem toNat_unpackMantissa (b : BitVec 64) :
    (@Float.Model.UnpackedFloat.unpackMantissa .binary64 b).toNat =
      Format.binary64.fractionField b.toNat := by
  unfold Float.Model.UnpackedFloat.unpackMantissa
  rw [BitVec.toNat_cast, BitVec.extractLsb_toNat]
  rfl

/-- A word that stands for a number or an infinity is that of the number. -/
theorem datumOf_ofWord {w : Nat} (hw : w < twoTo 64)
    (h : Format.binary64.datum w ≠ .notNumber) : datumOf (ofWord w) = Format.binary64.datum w := by
  have hword : (UInt64.ofNat w).toBitVec.toNat = w := Nat.mod_eq_of_lt hw
  have hexponent := toNat_unpackExponent (UInt64.ofNat w).toBitVec
  have hmantissa := toNat_unpackMantissa (UInt64.ofNat w).toBitVec
  rw [hword] at hexponent hmantissa
  have hnumber : ¬ @Float.Model.UnpackedFloat.isNaNBits .binary64
      (UInt64.ofNat w).toBitVec = true := by
    intro hbits
    obtain ⟨he, hm⟩ := of_decide_eq_true hbits
    rw [← BitVec.toNat_inj, hexponent] at he
    rw [ne_eq, ← BitVec.toNat_inj, hmantissa] at hm
    have htop : Format.binary64.exponentField w = Format.binary64.top := he
    have hrest : Format.binary64.fractionField w ≠ 0 := hm
    unfold Format.datum at h
    dsimp only at h
    rw [if_pos htop, if_neg hrest] at h
    exact h rfl
  have hpack : Float.Model.UnpackedFloat.pack .binary64
      (Float.Model.UnpackedFloat.unpack .binary64 (UInt64.ofNat w).toBitVec) =
        (UInt64.ofNat w).toBitVec := by
    rw [Float.Model.UnpackedFloat.pack_unpack, if_neg hnumber]
  have hbits : (ofWord w).toBits.toNat = w := by
    show (Float.Model.UnpackedFloat.pack .binary64 _).toNat = w
    rw [hpack, hword]
  unfold datumOf
  rw [hbits]

/-- The place of the number of a word with a sign. -/
theorem place_ofWord (negative : Bool) (w : Nat) :
    Place.ofFloat (ofWord (Format.binary64.signWord negative +
      min w (Format.binary64.top * twoTo Format.binary64.fractionBits))) =
        some ((Format.binary64.height w).signed negative) := by
  have hplace := Format.place_of_word (f := Format.binary64) (by decide) negative w
  have hlt : Format.binary64.signWord negative +
      min w (Format.binary64.top * twoTo Format.binary64.fractionBits) < twoTo 64 := by
    have htop := Format.top_word (f := Format.binary64)
    have hsum : twoTo 64 = twoTo 63 + twoTo 63 := by decide
    have hsign : Format.binary64.signWord negative ≤ twoTo 63 := by cases negative <;> decide
    have hfields : twoTo (Format.binary64.fractionBits + Format.binary64.exponentBits) = twoTo 63 :=
      rfl
    omega
  unfold Place.ofFloat
  rw [datumOf_ofWord hlt, hplace]
  intro hnone
  rw [hnone] at hplace
  cases hplace

theorem place_ofQuotient (negative : Bool) (n : Nat) {d : Nat} (hd : 0 < d) :
    Place.ofFloat (ofQuotient negative n d) = some
      ((Format.binary64.height (Format.binary64.rank (n * twoTo 1074) d)).signed negative) := by
  unfold ofQuotient
  rw [Format.nearest_eq (a := 1074) (by decide) negative hd, place_ofWord]

theorem units_binary64 : Format.binary64.units = 1 := by decide

theorem point_mul (i : Int) (k : Nat) :
    Place.point (i * k) = (Place.point (i.natAbs * k : Nat)).signed (i < 0) := by
  by_cases hi : i < 0
  · rw [decide_eq_true hi]
    show Place.point (i * k) = .point (-(i.natAbs * k : Nat))
    rw [Int.natCast_mul, ← Int.neg_mul, show -(i.natAbs : Int) = i by omega]
  · rw [decide_eq_false hi]
    show Place.point (i * k) = .point (i.natAbs * k : Nat)
    rw [Int.natCast_mul, show (i.natAbs : Int) = i by omega]

theorem place_ofInt (i : Int) :
    Place.ofFloat (ofInt i) = some (Format.binary64.round (.ofInt i)) := by
  unfold ofInt Place.ofInt
  rw [place_ofQuotient _ _ Nat.one_pos, point_mul, Format.round_signed (by decide), units_binary64]

theorem Place.ofInt_lt {i j : Int} : Place.ofInt i < Place.ofInt j ↔ i < j :=
  Place.point_lt.trans (Int.mul_lt_mul_right (Int.natCast_pos.mpr (twoTo_pos 1074)))

theorem place_whole {i : Int} (hi : i.natAbs < twoTo 53) :
    Place.ofFloat (ofInt i) = some (.ofInt i) := by
  have hlt : i.natAbs * twoTo 1074 < twoTo (1074 + Format.binary64.fractionBits + 1) := by
    show _ < twoTo (1074 + 53)
    rw [twoTo_add, Nat.mul_comm]
    exact Nat.mul_lt_mul_of_pos_left hi (twoTo_pos 1074)
  have hrange : i.natAbs * twoTo 1074 <
      twoTo (Format.binary64.top - 1 + Format.binary64.fractionBits) :=
    Nat.lt_of_lt_of_le hlt (twoTo_le (by decide))
  rw [place_ofInt, Place.ofInt, point_mul, Format.round_signed (by decide), units_binary64,
    Format.height_rank (Nat.dvd_mul_left _ _) hlt hrange (by decide), units_binary64, Nat.mul_one]

theorem less_whole {i j : Int} (hi : i.natAbs < twoTo 53) (hj : j.natAbs < twoTo 53) :
    less (ofInt i) (ofInt j) = decide (i < j) := by
  unfold less
  rw [place_whole hi, place_whole hj]
  exact Bool.eq_iff_iff.mpr (Place.ofInt_lt.trans decide_eq_true_iff.symm)

theorem atMost_whole {i j : Int} (hi : i.natAbs < twoTo 53) (hj : j.natAbs < twoTo 53) :
    atMost (ofInt i) (ofInt j) = decide (i ≤ j) := by
  have hturned : atMost (ofInt i) (ofInt j) = !less (ofInt j) (ofInt i) := by
    unfold atMost less
    rw [place_whole hi, place_whole hj]
    rfl
  rw [hturned, less_whole hj hi, ← decide_not]
  exact decide_eq_decide.mpr Int.not_lt

theorem place_finite (negative : Bool) (m : Nat) (e : Int) :
    Place.ofDatum (.finite negative m e) =
      some ((Place.point (m * twoTo (e + 1074).toNat : Nat)).signed negative) := by
  cases negative <;> rfl

theorem round_ofFloat {x : Float} {p : Place} (h : Place.ofFloat x = some p) :
    Format.binary64.round p = p := by
  unfold Place.ofFloat datumOf at h
  cases hd : Format.binary64.datum x.toBits.toNat with
  | notNumber =>
    rw [hd] at h
    cases h
  | infinite negative =>
    rw [hd] at h
    cases negative <;> cases h <;> rfl
  | finite negative m e =>
    obtain ⟨hm, hleast, htop⟩ := Format.datum_finite (by decide) hd
    rw [hd, place_finite] at h
    obtain rfl := Option.some.inj h
    have hleast' : -1074 ≤ e := hleast
    have htop' : e + 2 ≤ -1074 + 2047 := htop
    have hpos := twoTo_pos (e + 1074).toNat
    have hlt : m * twoTo (e + 1074).toNat <
        twoTo ((e + 1074).toNat + Format.binary64.fractionBits + 1) := by
      rw [Nat.add_assoc, twoTo_add, Nat.mul_comm]
      exact Nat.mul_lt_mul_of_pos_left hm hpos
    rw [Format.round_signed (by decide), units_binary64,
      Format.height_rank (Nat.dvd_mul_left _ _) hlt ?_ (by decide), units_binary64, Nat.mul_one]
    apply Nat.lt_of_lt_of_le hlt
    apply twoTo_le
    show (e + 1074).toNat + 52 + 1 ≤ 2047 - 1 + 52
    omega

/-- The number of a single-precision word has the place of the word. -/
theorem place_ofDatum {w : Nat} {p : Place}
    (h : Place.ofDatum (Format.binary32.datum w) = some p) :
    Place.ofFloat (Number.ofDatum (Format.binary32.datum w)) = some p := by
  cases hd : Format.binary32.datum w with
  | notNumber =>
    rw [hd] at h
    cases h
  | infinite negative =>
    rw [hd] at h
    cases negative <;> cases h <;> decide +kernel
  | finite negative m e =>
    obtain ⟨hm, hleast, htop⟩ := Format.datum_finite (by decide) hd
    rw [hd, place_finite] at h
    rw [← h]
    have hleast' : -149 ≤ e := hleast
    have htop' : e + 2 ≤ -149 + 255 := htop
    have hword : Number.ofDatum (.finite negative m e) =
        ofWord (if e ≥ 0 then Format.binary64.nearest negative (m <<< e.toNat) 1
          else Format.binary64.nearest negative m (twoTo (-e).toNat)) := by
      unfold Number.ofDatum ofQuotient
      exact (apply_ite ofWord _ _ _).symm
    have hpos := twoTo_pos (e + 1074).toNat
    have hlt : m * twoTo (e + 1074).toNat < twoTo ((e + 1074).toNat + 24) := by
      rw [twoTo_add, Nat.mul_comm]
      exact Nat.mul_lt_mul_of_pos_left hm hpos
    have hplaces : twoTo ((e + 1074).toNat + 24) ≤
        twoTo ((e + 1074).toNat + Format.binary64.fractionBits + 1) := by
      apply twoTo_le
      show _ ≤ (e + 1074).toNat + 52 + 1
      omega
    have hrange : twoTo ((e + 1074).toNat + 24) ≤
        twoTo (Format.binary64.top - 1 + Format.binary64.fractionBits) := by
      apply twoTo_le
      show _ ≤ 2047 - 1 + 52
      omega
    rw [hword, Format.nearest_scaled (a := 1074) (by decide) (by omega) negative m (by omega),
      place_ofWord, units_binary64, Format.height_rank (Nat.dvd_mul_left _ _)
        (Nat.lt_of_lt_of_le hlt hplaces) (Nat.lt_of_lt_of_le hlt hrange) (by decide),
      units_binary64, Nat.mul_one]

/-- In single precision a number is rounded. -/
theorem place_single (x : Float) :
    Place.ofFloat (single x) = (Place.ofFloat x).map Format.binary32.round := by
  cases hd : datumOf x with
  | notNumber =>
    have hnone : Place.ofFloat x = none := by
      unfold Place.ofFloat
      rw [hd]
      rfl
    unfold single singleWord
    rw [hnone, hd]
    decide +kernel
  | infinite negative =>
    have hsome : Place.ofFloat x = some (Place.above.signed negative) := by
      unfold Place.ofFloat
      rw [hd]
      cases negative <;> rfl
    unfold single singleWord
    rw [hsome, hd]
    cases negative <;> decide +kernel
  | finite negative m e =>
    obtain ⟨_, hleast, _⟩ := Format.datum_finite (f := .binary64) (by decide) hd
    have hleast' : -1074 ≤ e := hleast
    have hword : singleWord x = Format.binary32.signWord negative +
        min (Format.binary32.rank (m * twoTo (e + 1074).toNat) Format.binary32.units)
          (Format.binary32.top * twoTo Format.binary32.fractionBits) := by
      unfold singleWord
      rw [hd]
      exact Format.nearest_scaled (a := 149) (by decide) (by omega) negative m hleast'
    have hplace := Format.place_of_word (f := .binary32) (by decide) negative
      (Format.binary32.rank (m * twoTo (e + 1074).toNat) Format.binary32.units)
    rw [← hword] at hplace
    have hsome : Place.ofFloat x =
        some ((Place.point (m * twoTo (e + 1074).toNat : Nat)).signed negative) := by
      unfold Place.ofFloat
      rw [hd, place_finite]
    unfold single
    rw [place_ofDatum hplace, hsome, Option.map_some, Format.round_signed (by decide)]

end Minimize.Number

namespace Minimize

open Number

/-! ## Numbers in comparisons -/

/-- Numbers that are in order after rounding were in it before. -/
theorem less_of_map {p q : Option Place} {r : Place → Place}
    (hr : ∀ {a b : Place}, r a < r b → a < b) (h : Place.less (p.map r) (q.map r) = true) :
    Place.less p q = true := by
  cases p with
  | none => cases h
  | some a =>
    cases q with
    | none => cases h
    | some b => exact hr h

/-- An operand that has a place to be rounded. -/
structure Operand.StandsAt (a : Operand) (p : Option Place) : Prop where
  parts : ∀ z, a.parts = .ok z → Place.ofFloat z.1 = p.map Format.binary64.round ∧ z.2 = ofInt 0
  whole : ∀ i, a.whole? = some i → p = some (.ofInt i)
  plain : a.type? = none → Relation.place? a = some p

/-- A whole number takes part in operations as the number that it is rounded to. -/
theorem Operand.standsAt_whole {a : Operand} {i : Int}
    (hparts : ∀ z, a.parts = .ok z → z = (ofInt i, ofInt 0)) (hwhole : a.whole? = some i)
    (hplain : a.type? = none → Relation.place? a = some (some (.ofInt i))) :
    a.StandsAt (some (.ofInt i)) where
  parts z hz := by
    rw [hparts z hz]
    exact ⟨place_ofInt i, rfl⟩
  whole j hj := by
    rw [hwhole] at hj
    cases hj
    rfl
  plain := hplain

/-- A number in floating point takes part in operations as it is. -/
theorem Operand.standsAt_float {a : Operand} {x : Float} (hparts : a.parts = .ok (x, ofInt 0))
    (hwhole : a.whole? = none)
    (hplain : a.type? = none → Relation.place? a = some (Place.ofFloat x)) :
    a.StandsAt (Place.ofFloat x) where
  parts z hz := by
    rw [hparts] at hz
    cases hz
    refine ⟨?_, rfl⟩
    cases hx : Place.ofFloat x with
    | none => rfl
    | some q => rw [Option.map_some, round_ofFloat hx]
  whole i hi := by
    rw [hwhole] at hi
    cases hi
  plain := hplain

variable {x y : Operand} {p q : Option Place} {t : ElementType} {c d : Cell}

theorem Operand.whole_of_cast (hc : x.cast t = .ok c) (ht : t = .truth ∨ ∃ w, t = .whole w) :
    ∃ i, x.whole? = some i := by
  unfold cast at hc
  cases hw : x.whole? with
  | some i => exact ⟨i, rfl⟩
  | none =>
    rw [hw] at hc
    rcases ht with rfl | ⟨w, rfl⟩ <;> cases hc

theorem Operand.StandsAt.less_of_floats (hx : x.StandsAt p) (hy : y.StandsAt q)
    {z w : Float × Float} (hz : x.parts = .ok z) (hw : y.parts = .ok w)
    (h : Relation.below.onFloats z.1 w.1 = true) : Place.less p q = true := by
  unfold Relation.onFloats at h
  rw [(hx.parts z hz).1, (hy.parts w hw).1] at h
  exact less_of_map Format.lt_of_round h

/-- What comes out in order in single precision was in order before. -/
theorem Operand.StandsAt.less_of_singles (hx : x.StandsAt p) (hy : y.StandsAt q)
    {z w : Float × Float} (hz : x.parts = .ok z) (hw : y.parts = .ok w)
    (h : Relation.below.onFloats (Number.single z.1) (Number.single w.1) = true) :
    Place.less p q = true := by
  unfold Relation.onFloats at h
  rw [place_single, place_single, (hx.parts z hz).1, (hy.parts w hw).1] at h
  exact less_of_map Format.lt_of_round (less_of_map Format.lt_of_round h)

/-- Complex numbers with one second part are in the order of the first. -/
theorem below_of_complex {z w : Float × Float} (hsecond : z.2 = w.2)
    (h : Relation.below.onComplex z w = true) : Relation.below.onFloats z.1 w.1 = true := by
  have hself : Relation.below.onFloats z.2 w.2 = false := by
    rw [hsecond]
    unfold Relation.onFloats
    cases Place.ofFloat w.2 with
    | none => rfl
    | some a => exact Bool.not_eq_true _ ▸ Place.lt_irrefl a
  unfold Relation.onComplex at h
  simp only [hself, Bool.and_false, Bool.or_false, Bool.and_eq_true] at h
  exact h.1.1

/-- Two operands that are compared in a common type do not come out in the wrong
order. -/
theorem Operand.StandsAt.less_of_cells (hx : x.StandsAt p) (hy : y.StandsAt q)
    (hc : x.cast t = .ok c) (hd : y.cast t = .ok d) (h : Relation.below.onCells c d = true)
    (hw : ∀ i j, x.whole? = some i → y.whole? = some j → False) : Place.less p q = true := by
  cases t with
  | truth =>
    obtain ⟨i, hi⟩ := Operand.whole_of_cast hc (.inl rfl)
    obtain ⟨j, hj⟩ := Operand.whole_of_cast hd (.inl rfl)
    exact (hw i j hi hj).elim
  | whole w =>
    obtain ⟨i, hi⟩ := Operand.whole_of_cast hc (.inr ⟨w, rfl⟩)
    obtain ⟨j, hj⟩ := Operand.whole_of_cast hd (.inr ⟨w, rfl⟩)
    exact (hw i j hi hj).elim
  | single =>
    obtain ⟨z, hz, rfl⟩ := map_ok hc
    obtain ⟨v, hv, rfl⟩ := map_ok hd
    exact hx.less_of_singles hy hz hv h
  | double =>
    obtain ⟨z, hz, rfl⟩ := map_ok hc
    obtain ⟨v, hv, rfl⟩ := map_ok hd
    exact hx.less_of_floats hy hz hv h
  | complex =>
    obtain ⟨z, hz, rfl⟩ := map_ok hc
    obtain ⟨v, hv, rfl⟩ := map_ok hd
    have hsecond : z.2 = v.2 := (hx.parts z hz).2.trans (hy.parts v hv).2.symm
    have hfirst := @below_of_complex (Number.single z.1, Number.single z.2)
      (Number.single v.1, Number.single v.2) (congrArg Number.single hsecond) h
    exact hx.less_of_singles hy hz hv hfirst
  | wideComplex =>
    obtain ⟨z, hz, rfl⟩ := map_ok hc
    obtain ⟨v, hv, rfl⟩ := map_ok hd
    have hsecond : z.2 = v.2 := (hx.parts z hz).2.trans (hy.parts v hv).2.symm
    have hfirst := @below_of_complex z v hsecond h
    exact hx.less_of_floats hy hz hv hfirst

/-- Two operands of which the order puts one below the other stand so. -/
theorem Operand.StandsAt.less_of_operands (hx : x.StandsAt p) (hy : y.StandsAt q)
    (h : Relation.below.onOperands x y = .ok true) : Place.less p q = true := by
  unfold Relation.onOperands at h
  split at h
  · rename_i hcommon
    unfold Operand.common? at hcommon
    split at hcommon
    · cases hcommon
    · cases hcommon
    · rename_i htx hty
      unfold Relation.onPlain at h
      rw [hx.plain htx, hy.plain hty] at h
      exact Except.ok.inj h
  · split at h
    · rename_i i j hi hj
      rw [hx.whole i hi, hy.whole j hj]
      exact Except.ok.inj h
    · rename_i hboth
      obtain ⟨c, hc, h⟩ := bind_ok h
      obtain ⟨d, hd, h⟩ := bind_ok h
      exact hx.less_of_cells hy hc hd (Except.ok.inj h) hboth

namespace Value

/-- A number takes part in operations where it stands. -/
theorem standsAt {v : Value} (h : v.place? = some p) :
    ∃ a, v.operand? = some a ∧ a.StandsAt p := by
  have rounded {i : Int} {z : Float × Float} (hz : (floatOfInt i).map (·, ofInt 0) = .ok z) :
      z = (ofInt i, ofInt 0) := by
    unfold floatOfInt at hz
    dsimp only at hz
    split at hz
    · cases hz
      rfl
    · cases hz
  have same {z w : Float × Float} (hz : (.ok w : Except Slip (Float × Float)) = .ok z) : z = w :=
    (Except.ok.inj hz).symm
  cases v with
  | bool b =>
    cases h
    exact ⟨_, rfl, Operand.standsAt_whole (fun _ => same) rfl fun _ => rfl⟩
  | int i =>
    cases h
    exact ⟨_, rfl, Operand.standsAt_whole (fun _ => rounded) rfl fun _ => rfl⟩
  | float x =>
    cases h
    exact ⟨_, rfl, Operand.standsAt_float rfl rfl fun _ => rfl⟩
  | cell c =>
    cases c with
    | whole w i =>
      cases h
      exact ⟨_, rfl, Operand.standsAt_whole (fun _ => rounded) rfl fun ht => (nomatch ht)⟩
    | truth b =>
      cases h
      exact ⟨_, rfl, Operand.standsAt_whole (fun _ => same) rfl fun ht => (nomatch ht)⟩
    | single x =>
      cases h
      exact ⟨_, rfl, Operand.standsAt_float rfl rfl fun ht => (nomatch ht)⟩
    | double x =>
      cases h
      exact ⟨_, rfl, Operand.standsAt_float rfl rfl fun ht => (nomatch ht)⟩
    | _ => cases h
  | _ => cases h

/-- A number that the order puts below another is below it. -/
theorem below_of_less {a b : Value} (ha : a.place?.isSome = true) (hb : b.place?.isSome = true)
    (h : a.less b = .ok true) : a.Below b := by
  obtain ⟨p, hp⟩ := Option.isSome_iff_exists.mp ha
  obtain ⟨q, hq⟩ := Option.isSome_iff_exists.mp hb
  obtain ⟨x, hx, hxp⟩ := standsAt hp
  obtain ⟨y, hy, hyq⟩ := standsAt hq
  rw [less_of_operands hx hy] at h
  have hless := hxp.less_of_operands hyq h
  cases p with
  | none => cases hless
  | some a' =>
    cases q with
    | none => cases hless
    | some b' => exact ⟨a', b', hp, hq, hless⟩

end Value

/-- A number as a cost: a plain one, or one of a typed array that has its type's
width. -/
inductive Value.IsNumber : Value → Prop
  | bool (b : Bool) : IsNumber (.bool b)
  | int (i : Int) : IsNumber (.int i)
  | float (x : Float) : IsNumber (.float x)
  | whole {w : Width} {i : Int} (h : w.holds i = true) : IsNumber (.cell (.whole w i))
  | single (x : Float) : IsNumber (.cell (.single x))
  | double (x : Float) : IsNumber (.cell (.double x))
  | truth (b : Bool) : IsNumber (.cell (.truth b))

theorem isFinite_of_place {x : Float} {s : Int} (h : Place.ofFloat x = some (.point s)) :
    isFinite x = true := by
  unfold Place.ofFloat at h
  unfold isFinite
  cases hd : datumOf x with
  | finite negative m e => rfl
  | infinite negative =>
    rw [hd] at h
    cases negative <;> cases h
  | notNumber =>
    rw [hd] at h
    cases h

theorem floatOfInt_ok {i : Int} (hlow : -(twoTo 64 : Int) < i) (hhigh : i < twoTo 64) :
    floatOfInt i = .ok (ofInt i) := by
  have hplace := place_ofInt i
  have hupper := Format.round_mono (f := .binary64) (Place.ofInt_lt.mpr hhigh)
  have hlower := Format.round_mono (f := .binary64) (Place.ofInt_lt.mpr hlow)
  unfold floatOfInt
  dsimp only
  cases hr : Format.binary64.round (.ofInt i) with
  | point s =>
    rw [hr] at hplace
    rw [if_pos (isFinite_of_place hplace)]
  | above =>
    rw [hr] at hupper
    exact absurd (by decide +kernel) hupper
  | below =>
    rw [hr] at hlower
    exact absurd (by decide +kernel) hlower

theorem Width.bounds {w : Width} {i : Int} (h : w.holds i = true) :
    -(twoTo 64 : Int) < i ∧ i < twoTo 64 := by
  have hwrap : w.wrap i = i := eq_of_beq h
  have hlarge : twoTo 64 = 18446744073709551616 := rfl
  unfold Width.wrap at hwrap
  cases w <;> simp [Width.least, Width.isSigned, Width.bits, twoTo] at hwrap <;> omega

/-! ## Targets -/

theorem atMost_trans {a b c : Option Place} (hab : Place.atMost a b = true)
    (hbc : Place.atMost b c = true) : Place.atMost a c = true := by
  cases a with
  | none => cases hab
  | some a =>
    cases b with
    | none => cases hab
    | some b =>
      cases c with
      | none => cases hbc
      | some c =>
        have hba : ¬ b < a := by simpa [Place.atMost, LT.lt] using hab
        have hcb : ¬ c < b := by simpa [Place.atMost, LT.lt] using hbc
        have hca : ¬ c < a := by
          intro hlt
          rcases Place.lt_or_eq_or_gt a b with h | h | h
          · exact hcb (Place.lt_trans hlt h)
          · exact hcb (h ▸ hlt)
          · exact hba h
        simpa [Place.atMost, LT.lt] using hca

/-- Rounding keeps numbers in order. -/
theorem atMost_map {p q : Option Place} {r : Place → Place}
    (hr : ∀ {a b : Place}, r a < r b → a < b) (h : Place.atMost p q = true) :
    Place.atMost (p.map r) (q.map r) = true := by
  cases p with
  | none => cases h
  | some a =>
    cases q with
    | none => cases h
    | some b =>
      have hba : ¬ b < a := by simpa [Place.atMost, LT.lt] using h
      have hrba : ¬ r b < r a := fun hlt => hba (hr hlt)
      simpa [Place.atMost, LT.lt] using hrba

/-- A number is held against a target by their places, of which that of the
target may be rounded. -/
theorem Value.IsNumber.atMost_eq {v : Value} (h : v.IsNumber) :
    ∃ (p : Option Place) (r : Place → Place), (∀ {a b : Place}, r a < r b → a < b) ∧
      ∀ t : Float, v.atMost (.float t) = .ok (Place.atMost p ((Place.ofFloat t).map r)) := by
  have plain (t : Float) : (Place.ofFloat t).map id = Place.ofFloat t := Option.map_id_apply
  cases h with
  | bool b => exact ⟨_, id, fun h => h, fun t => by rw [plain]; rfl⟩
  | int i => exact ⟨_, id, fun h => h, fun t => by rw [plain]; rfl⟩
  | float x => exact ⟨_, id, fun h => h, fun t => by rw [plain]; rfl⟩
  | double x => exact ⟨Place.ofFloat x, id, fun h => h, fun t => by rw [plain]; rfl⟩
  | truth b =>
    exact ⟨Place.ofFloat (ofInt (truthNumber b)), id, fun h => h, fun t => by rw [plain]; rfl⟩
  | single x =>
    refine ⟨Place.ofFloat (Number.single x), Format.binary32.round, Format.lt_of_round, fun t => ?_⟩
    rw [← place_single]
    rfl
  | @whole w i hw =>
    obtain ⟨hlow, hhigh⟩ := Width.bounds hw
    have hcast : (Operand.typed (.whole w i)).cast .double = .ok (.double (ofInt i)) := by
      unfold Operand.cast Operand.parts
      dsimp only
      rw [floatOfInt_ok hlow hhigh]
      rfl
    refine ⟨Place.ofFloat (ofInt i), id, fun h => h, fun t => ?_⟩
    rw [plain]
    unfold Value.atMost
    rw [relates_of_operands rfl rfl]
    show Except.bind ((Operand.typed (.whole w i)).cast .double) _ = _
    rw [hcast]
    rfl

theorem Value.IsNumber.atMost {v : Value} (h : v.IsNumber) (t : Float) :
    ∃ met, v.atMost (.float t) = .ok met := by
  obtain ⟨p, r, _, heq⟩ := h.atMost_eq
  exact ⟨_, heq t⟩

/-- A number that has reached a target has reached every higher one. -/
theorem Value.IsNumber.reaches {v : Value} (h : v.IsNumber) {t t' : Float}
    (hv : v.atMost (.float t) = .ok true) (ht : Number.atMost t t' = true) :
    v.atMost (.float t') = .ok true := by
  obtain ⟨p, r, hr, heq⟩ := h.atMost_eq
  rw [heq] at hv ⊢
  exact congrArg Except.ok (atMost_trans (Except.ok.inj hv) (atMost_map hr ht))

theorem Value.IsNumber.place {v : Value} (h : v.IsNumber) : v.place?.isSome = true := by
  cases h <;> rfl

/-! ## Numbers that can be compared -/

def ElementType.isFloating : ElementType → Bool
  | .truth => false
  | .whole _ => false
  | _ => true

theorem Operand.cast_ok {x : Operand} {t : ElementType} (ht : t.isFloating = true)
    (hx : ∃ z, x.parts = .ok z) : ∃ c, x.cast t = .ok c := by
  obtain ⟨z, hz⟩ := hx
  unfold Operand.cast
  cases t with
  | truth => cases ht
  | whole w => cases ht
  | _ =>
    rw [hz]
    exact ⟨_, rfl⟩

/-- How two numbers meet: both are plain, both are whole, or they have a type of
floating point in common. -/
inductive Operand.Meets (x y : Operand) : Prop
  | plain {p q : Option Place} (hc : x.common? y = none) (hx : Relation.place? x = some p)
      (hy : Relation.place? y = some q)
  | whole {t : ElementType} {i j : Int} (hc : x.common? y = some t) (hx : x.whole? = some i)
      (hy : y.whole? = some j)
  | floating {t : ElementType} (hc : x.common? y = some t) (ht : t.isFloating = true)

/-- A number takes part in comparisons with its parts, if it is in range. -/
theorem Value.IsNumber.parts {v : Value} (h : v.IsNumber) {x : Float} (hx : v.toFloat = .ok x)
    {a : Operand} (ha : v.operand? = some a) : ∃ z, a.parts = .ok z := by
  have inRange {i : Int} (h : floatOfInt i = .ok x) :
      ∃ z, (floatOfInt i).map (·, ofInt 0) = .ok z := by
    rw [h]
    exact ⟨_, rfl⟩
  cases h <;> cases ha
  case int i => exact inRange hx
  case whole w i _ => exact inRange hx
  all_goals exact ⟨_, rfl⟩

theorem Value.IsNumber.meets {a b : Value} (ha : a.IsNumber) (hb : b.IsNumber) {x y : Operand}
    (hx : a.operand? = some x) (hy : b.operand? = some y) : x.Meets y := by
  cases ha <;> cases hb <;> cases hx <;> cases hy
  case whole.single w _ _ _ => cases w <;> exact .floating rfl rfl
  case whole.double w _ _ _ => cases w <;> exact .floating rfl rfl
  case single.whole w _ _ => cases w <;> exact .floating rfl rfl
  all_goals first
    | exact .plain rfl rfl rfl
    | exact .whole rfl rfl rfl
    | exact .floating rfl rfl

/-- Numbers in the range of floating point can be held against each other. -/
theorem Value.IsNumber.less {a b : Value} (ha : a.IsNumber) (hb : b.IsNumber) {s t : Float}
    (hs : a.toFloat = .ok s) (ht : b.toFloat = .ok t) : ∃ better, a.less b = .ok better := by
  obtain ⟨p, hp⟩ := Option.isSome_iff_exists.mp ha.place
  obtain ⟨q, hq⟩ := Option.isSome_iff_exists.mp hb.place
  obtain ⟨x, hx, _⟩ := Value.standsAt hp
  obtain ⟨y, hy, _⟩ := Value.standsAt hq
  rw [less_of_operands hx hy]
  unfold Relation.onOperands
  cases ha.meets hb hx hy with
  | plain hc hpx hpy =>
    unfold Relation.onPlain
    rw [hc, hpx, hpy]
    exact ⟨_, rfl⟩
  | whole hc hwx hwy =>
    rw [hc, hwx, hwy]
    exact ⟨_, rfl⟩
  | floating hc hf =>
    obtain ⟨c, hcx⟩ := Operand.cast_ok hf (ha.parts hs hx)
    obtain ⟨d, hdy⟩ := Operand.cast_ok hf (hb.parts ht hy)
    rw [hc]
    dsimp only
    split
    · exact ⟨_, rfl⟩
    · rw [hcx, hdy]
      exact ⟨_, rfl⟩
end Minimize
