-- Rounding keeps the order. A quotient is rounded by its rank among the words of
-- a format, and the rank grows with the quotient. A number of no more places than
-- the format has is its own rank, and what is below another after rounding was
-- below it before.
import Minimize.Number.Place

namespace Minimize.Number

/-! ## Powers of two -/

theorem twoTo_pos (k : Nat) : 0 < twoTo k := Nat.pow_pos (by omega)

theorem twoTo_add (i j : Nat) : twoTo (i + j) = twoTo i * twoTo j := Nat.pow_add 2 i j

theorem twoTo_le {i j : Nat} (h : i ≤ j) : twoTo i ≤ twoTo j :=
  Nat.pow_le_pow_right (by omega) h

/-! ## Places -/

namespace Place

variable {a b : Place}

theorem point_lt {s t : Int} : (.point s : Place) < .point t ↔ s < t :=
  ⟨fun h => of_decide_eq_true h, fun h => decide_eq_true h⟩

theorem not_lt_below (a : Place) : ¬ a < .below := by
  cases a <;> exact Bool.false_ne_true

theorem not_above_lt (a : Place) : ¬ .above < a := Bool.false_ne_true

def opposite : Place → Place
  | .below => .above
  | .point s => .point (-s)
  | .above => .below

def signed (negative : Bool) (a : Place) : Place := if negative then a.opposite else a

theorem opposite_lt : a.opposite < b.opposite ↔ b < a := by
  cases a with
  | point s =>
    cases b with
    | point t =>
      rw [opposite, opposite, point_lt, point_lt]
      omega
    | _ => exact Iff.rfl
  | _ => cases b <;> exact Iff.rfl

end Place

/-! ## Quotients -/

variable {n n' d d' c k : Nat}

theorem roundedQuotient_bounds (n d : Nat) :
    n / d ≤ roundedQuotient n d ∧ roundedQuotient n d ≤ n / d + 1 := by
  unfold roundedQuotient
  dsimp only
  split
  · exact ⟨Nat.le_succ _, Nat.le_refl _⟩
  · exact ⟨Nat.le_refl _, Nat.le_succ _⟩

theorem div_le_div_of_cross (hd : 0 < d) (hd' : 0 < d') (h : n * d' ≤ n' * d) :
    n / d ≤ n' / d' := by
  apply (Nat.le_div_iff_mul_le hd').mpr
  have hq : n / d * d ≤ n := Nat.div_mul_le_self n d
  have hcross : n / d * d' * d ≤ n' * d :=
    calc n / d * d' * d = n / d * d * d' := Nat.mul_right_comm _ _ _
      _ ≤ n * d' := Nat.mul_le_mul_right d' hq
      _ ≤ n' * d := h
  exact Nat.le_of_mul_le_mul_right hcross hd

theorem roundedQuotient_mono (hd : 0 < d) (hd' : 0 < d') (h : n * d' ≤ n' * d) :
    roundedQuotient n d ≤ roundedQuotient n' d' := by
  have hle := div_le_div_of_cross hd hd' h
  have hb := roundedQuotient_bounds n d
  have hb' := roundedQuotient_bounds n' d'
  by_cases hlt : n / d < n' / d'
  · omega
  · have hsame : n / d = n' / d' := by omega
    -- the rests of equal quotients are in the order of the quotients
    have hn := Nat.div_add_mod n d
    have hn' := Nat.div_add_mod n' d'
    have hrest : (n % d) * d' ≤ (n' % d') * d := by
      rw [← hn, ← hn', ← hsame, Nat.add_mul, Nat.add_mul] at h
      have hcross : d * (n / d) * d' = d' * (n / d) * d := by
        rw [Nat.mul_right_comm, Nat.mul_comm d d', Nat.mul_right_comm]
      omega
    have hhalf : d ≤ 2 * (n % d) → d' ≤ 2 * (n' % d') := by
      intro hr
      have h1 : d' * d ≤ 2 * (n' % d') * d :=
        calc d' * d = d * d' := Nat.mul_comm _ _
          _ ≤ 2 * (n % d) * d' := Nat.mul_le_mul_right d' hr
          _ = 2 * ((n % d) * d') := Nat.mul_assoc _ _ _
          _ ≤ 2 * ((n' % d') * d) := Nat.mul_le_mul_left 2 hrest
          _ = 2 * (n' % d') * d := (Nat.mul_assoc _ _ _).symm
      exact Nat.le_of_mul_le_mul_right h1 hd
    have hmore : d < 2 * (n % d) → d' < 2 * (n' % d') := by
      intro hr
      have h1 : d' * d < 2 * (n' % d') * d :=
        calc d' * d = d * d' := Nat.mul_comm _ _
          _ < 2 * (n % d) * d' := Nat.mul_lt_mul_of_pos_right hr hd'
          _ = 2 * ((n % d) * d') := Nat.mul_assoc _ _ _
          _ ≤ 2 * ((n' % d') * d) := Nat.mul_le_mul_left 2 hrest
          _ = 2 * (n' % d') * d := (Nat.mul_assoc _ _ _).symm
      exact Nat.lt_of_mul_lt_mul_right h1
    unfold roundedQuotient
    dsimp only
    rw [← hsame]
    by_cases hup : 2 * (n % d) > d ∨ (2 * (n % d) = d ∧ n / d % 2 = 1)
    · have hup' : 2 * (n' % d') > d' ∨ (2 * (n' % d') = d' ∧ n / d % 2 = 1) := by
        rcases hup with hr | ⟨hr, hodd⟩
        · exact .inl (hmore hr)
        · have := hhalf (by omega)
          omega
      exact Nat.le_of_eq (by rw [if_pos hup, if_pos hup'])
    · rw [if_neg hup]
      split <;> omega

theorem roundedQuotient_exact (hd : 0 < d) (k : Nat) : roundedQuotient (k * d) d = k := by
  unfold roundedQuotient
  dsimp only
  rw [Nat.mul_mod_left, Nat.mul_div_cancel k hd]
  rw [if_neg (by omega)]

/-- The nearest whole number goes by the quotient alone. -/
theorem roundedQuotient_same (hd : 0 < d) (hd' : 0 < d') (h : n * d' = n' * d) :
    roundedQuotient n d = roundedQuotient n' d' :=
  Nat.le_antisymm (roundedQuotient_mono hd hd' (Nat.le_of_eq h))
    (roundedQuotient_mono hd' hd (Nat.le_of_eq h.symm))

theorem roundedQuotient_le (hd : 0 < d) (h : n ≤ k * d) : roundedQuotient n d ≤ k := by
  have hmono := roundedQuotient_mono hd hd (Nat.mul_le_mul_right d h)
  rw [roundedQuotient_exact hd] at hmono
  exact hmono

theorem le_roundedQuotient (hd : 0 < d) (h : k * d ≤ n) : k ≤ roundedQuotient n d := by
  have hmono := roundedQuotient_mono hd hd (Nat.mul_le_mul_right d h)
  rw [roundedQuotient_exact hd] at hmono
  exact hmono

/-! ## Ranks -/

namespace Format

variable {f : Format}

/-- How many binary places of a quotient of least steps are cut off. -/
def cut (f : Format) (n d : Nat) : Nat := (n / d).log2 - f.fractionBits

/-- The word, without its sign, that is nearest to a quotient of least steps, if
it is in the range. -/
def rank (f : Format) (n d : Nat) : Nat :=
  f.cut n d * twoTo f.fractionBits + roundedQuotient n (d * twoTo (f.cut n d))

theorem cut_upper (hd : 0 < d) : n < 2 * twoTo f.fractionBits * (d * twoTo (f.cut n d)) := by
  have hlog : n / d < twoTo ((n / d).log2 + 1) := Nat.lt_log2_self
  have hn : n < twoTo ((n / d).log2 + 1) * d := (Nat.div_lt_iff_lt_mul hd).mp hlog
  have hexp : (n / d).log2 + 1 ≤ 1 + f.fractionBits + f.cut n d := by
    unfold cut
    omega
  calc n < twoTo ((n / d).log2 + 1) * d := hn
    _ ≤ twoTo (1 + f.fractionBits + f.cut n d) * d := Nat.mul_le_mul_right d (twoTo_le hexp)
    _ = 2 * twoTo f.fractionBits * twoTo (f.cut n d) * d := by
      rw [twoTo_add, twoTo_add]
      rfl
    _ = 2 * twoTo f.fractionBits * (d * twoTo (f.cut n d)) := by
      rw [Nat.mul_assoc _ (twoTo (f.cut n d)), Nat.mul_comm (twoTo (f.cut n d)) d]

theorem cut_lower (hd : 0 < d) (hc : 0 < f.cut n d) :
    twoTo f.fractionBits * (d * twoTo (f.cut n d)) ≤ n := by
  have hexp : f.fractionBits + f.cut n d = (n / d).log2 := by
    unfold cut at hc ⊢
    omega
  have hne : n / d ≠ 0 := by
    intro hz
    unfold cut at hc
    rw [hz] at hc
    simp at hc
  have hlog : twoTo (n / d).log2 ≤ n / d := Nat.log2_self_le hne
  calc twoTo f.fractionBits * (d * twoTo (f.cut n d))
      = twoTo (n / d).log2 * d := by
        rw [← hexp, twoTo_add, Nat.mul_comm d, Nat.mul_assoc]
    _ ≤ n := (Nat.le_div_iff_mul_le hd).mp hlog

theorem cut_mono (h : n / d ≤ n' / d') : f.cut n d ≤ f.cut n' d' := by
  unfold cut
  by_cases hz : n / d = 0
  · rw [hz]
    simp
  · have hz' : n' / d' ≠ 0 := Nat.ne_of_gt (Nat.lt_of_lt_of_le (Nat.pos_of_ne_zero hz) h)
    have hle : (n / d).log2 ≤ (n' / d').log2 :=
      (Nat.le_log2 hz').mpr (Nat.le_trans (Nat.log2_self_le hz) h)
    omega

theorem rank_mono (hd : 0 < d) (hd' : 0 < d') (h : n * d' ≤ n' * d) :
    f.rank n d ≤ f.rank n' d' := by
  have hle : f.cut n d ≤ f.cut n' d' := cut_mono (div_le_div_of_cross hd hd' h)
  have hpos := Nat.mul_pos hd (twoTo_pos (f.cut n d))
  have hpos' := Nat.mul_pos hd' (twoTo_pos (f.cut n' d'))
  unfold rank
  by_cases hlt : f.cut n d < f.cut n' d'
  · -- a carry is no more than the next cut
    have hup : roundedQuotient n (d * twoTo (f.cut n d)) ≤ 2 * twoTo f.fractionBits :=
      roundedQuotient_le hpos (Nat.le_of_lt (cut_upper hd))
    have hlow : twoTo f.fractionBits ≤ roundedQuotient n' (d' * twoTo (f.cut n' d')) :=
      le_roundedQuotient hpos' (cut_lower hd' (by omega))
    have hstep : (f.cut n d + 1) * twoTo f.fractionBits ≤ f.cut n' d' * twoTo f.fractionBits :=
      Nat.mul_le_mul_right _ hlt
    rw [Nat.add_mul] at hstep
    omega
  · have hsame : f.cut n d = f.cut n' d' := by omega
    rw [← hsame] at hpos' ⊢
    apply Nat.add_le_add_left
    apply roundedQuotient_mono hpos hpos'
    calc n * (d' * twoTo (f.cut n d)) = n * d' * twoTo (f.cut n d) := (Nat.mul_assoc _ _ _).symm
      _ ≤ n' * d * twoTo (f.cut n d) := Nat.mul_le_mul_right _ h
      _ = n' * (d * twoTo (f.cut n d)) := Nat.mul_assoc _ _ _

theorem rank_same (hd : 0 < d) (hd' : 0 < d') (h : n * d' = n' * d) :
    f.rank n d = f.rank n' d' :=
  Nat.le_antisymm (rank_mono hd hd' (Nat.le_of_eq h)) (rank_mono hd' hd (Nat.le_of_eq h.symm))

end Format

/-! ## Words -/

/-- Twice as much on both sides, so many times over. -/
theorem scaled_le {x y z w : Nat} (h : x + w = z + y) :
    d * twoTo x ≤ n * twoTo y ↔ d * twoTo z ≤ n * twoTo w := by
  have hl : d * twoTo x * twoTo w = d * twoTo z * twoTo y := by
    rw [Nat.mul_assoc, Nat.mul_assoc, ← twoTo_add, ← twoTo_add, h]
  have hr : n * twoTo y * twoTo w = n * twoTo w * twoTo y := Nat.mul_right_comm _ _ _
  constructor
  · intro hle
    have hscaled := Nat.mul_le_mul_right (twoTo w) hle
    rw [hl, hr] at hscaled
    exact Nat.le_of_mul_le_mul_right hscaled (twoTo_pos y)
  · intro hle
    have hscaled := Nat.mul_le_mul_right (twoTo y) hle
    rw [← hl, ← hr] at hscaled
    exact Nat.le_of_mul_le_mul_right hscaled (twoTo_pos w)

theorem quotientLog_eq (n d : Nat) :
    quotientLog n d = if d * twoTo n.log2 ≤ n * twoTo d.log2 then (n.log2 : Int) - d.log2
      else (n.log2 : Int) - d.log2 - 1 := by
  have hfits : (if (n.log2 : Int) - d.log2 ≥ 0 then d <<< ((n.log2 : Int) - d.log2).toNat ≤ n
      else d ≤ n <<< (-((n.log2 : Int) - d.log2)).toNat) ↔
        d * twoTo n.log2 ≤ n * twoTo d.log2 := by
    split
    · have hscaled := scaled_le (d := d) (n := n) (x := ((n.log2 : Int) - d.log2).toNat) (y := 0)
        (z := n.log2) (w := d.log2) (by omega)
      rw [show n * twoTo 0 = n from Nat.mul_one n] at hscaled
      rw [Nat.shiftLeft_eq]
      exact hscaled
    · have hscaled := scaled_le (d := d) (n := n) (x := 0)
        (y := (-((n.log2 : Int) - d.log2)).toNat) (z := n.log2) (w := d.log2) (by omega)
      rw [show d * twoTo 0 = d from Nat.mul_one d] at hscaled
      rw [Nat.shiftLeft_eq]
      exact hscaled
  unfold quotientLog
  simp only [hfits]

/-- A quotient lies between two to its logarithm and twice that. -/
theorem quotientLog_bounds (hn : 0 < n) (hd : 0 < d) {x y : Nat}
    (h : (x : Int) - y = quotientLog n d) :
    d * twoTo x ≤ n * twoTo y ∧ n * twoTo y < d * twoTo (x + 1) := by
  have hn1 : twoTo n.log2 ≤ n := Nat.log2_self_le (by omega)
  have hn2 : n < twoTo (n.log2 + 1) := Nat.lt_log2_self
  have hd1 : twoTo d.log2 ≤ d := Nat.log2_self_le (by omega)
  have hd2 : d < twoTo (d.log2 + 1) := Nat.lt_log2_self
  rw [quotientLog_eq] at h
  by_cases hfits : d * twoTo n.log2 ≤ n * twoTo d.log2
  · rw [if_pos hfits] at h
    have hupper : n * twoTo d.log2 < d * twoTo (n.log2 + 1) :=
      calc n * twoTo d.log2 < twoTo (n.log2 + 1) * twoTo d.log2 :=
          Nat.mul_lt_mul_of_pos_right hn2 (twoTo_pos _)
        _ ≤ twoTo (n.log2 + 1) * d := Nat.mul_le_mul_left _ hd1
        _ = d * twoTo (n.log2 + 1) := Nat.mul_comm _ _
    refine ⟨(scaled_le (by omega)).mp hfits, Nat.lt_of_not_le fun hle => ?_⟩
    have hback : d * twoTo (n.log2 + 1) ≤ n * twoTo d.log2 := (scaled_le (by omega)).mp hle
    omega
  · rw [if_neg hfits] at h
    have hlower : d * twoTo n.log2 ≤ n * twoTo (d.log2 + 1) :=
      calc d * twoTo n.log2 ≤ twoTo (d.log2 + 1) * n := Nat.mul_le_mul (Nat.le_of_lt hd2) hn1
        _ = n * twoTo (d.log2 + 1) := Nat.mul_comm _ _
    refine ⟨(scaled_le (by omega)).mp hlower, Nat.lt_of_not_le fun hle => ?_⟩
    exact hfits ((scaled_le (by omega)).mp hle)

namespace Format

variable {f : Format}

/-- In steps of `2 ^ -a`, the logarithm of a quotient is cut by the places of a
number. -/
theorem cut_eq {a : Nat} (hn : 0 < n) (hd : 0 < d) :
    (f.cut (n * twoTo a) d : Int) = max (quotientLog n d - f.fractionBits) (-a) + a := by
  unfold cut
  by_cases h : 0 ≤ quotientLog n d + a
  · obtain ⟨hlow, hhigh⟩ := quotientLog_bounds hn hd (x := (quotientLog n d + a).toNat) (y := a)
      (by omega)
    have hle : twoTo (quotientLog n d + a).toNat ≤ n * twoTo a / d := by
      apply (Nat.le_div_iff_mul_le hd).mpr
      rw [Nat.mul_comm]
      exact hlow
    have hlt : n * twoTo a / d < twoTo ((quotientLog n d + a).toNat + 1) := by
      apply (Nat.div_lt_iff_lt_mul hd).mpr
      rw [Nat.mul_comm (twoTo _)]
      exact hhigh
    have hpos := twoTo_pos (quotientLog n d + a).toNat
    have hlog : (n * twoTo a / d).log2 = (quotientLog n d + a).toNat :=
      (Nat.log2_eq_iff (by omega)).mpr ⟨hle, hlt⟩
    rw [hlog]
    omega
  · obtain ⟨_, hhigh⟩ := quotientLog_bounds hn hd (x := 0) (y := (-quotientLog n d).toNat)
      (by omega)
    have hlt : n * twoTo a < d := by
      have hexp : a + 1 ≤ (-quotientLog n d).toNat := by omega
      have hle := Nat.mul_le_mul_left n (twoTo_le hexp)
      have htwice : twoTo (a + 1) = 2 * twoTo a := by
        rw [twoTo_add, Nat.mul_comm]
        rfl
      rw [htwice, Nat.mul_left_comm] at hle
      rw [show twoTo (0 + 1) = 2 from rfl] at hhigh
      omega
    rw [Nat.div_eq_of_lt hlt]
    simp
    omega

/-- The word nearest to a quotient is its rank, up to the infinity. -/
theorem nearest_eq {a : Nat} (ha : f.least = -a) (negative : Bool) (hd : 0 < d) :
    f.nearest negative n d =
      f.signWord negative + min (f.rank (n * twoTo a) d) (f.top * twoTo f.fractionBits) := by
  unfold nearest
  by_cases hn : n = 0
  · have hz : f.rank (n * twoTo a) d = 0 := by
      unfold rank cut roundedQuotient
      rw [hn]
      simp
    rw [if_pos (.inl hn), hz, Nat.zero_min, Nat.add_zero]
  · have hcut := cut_eq (f := f) (a := a) (Nat.pos_of_ne_zero hn) hd
    rw [if_neg (by omega), ha]
    dsimp only
    generalize hstep : max (quotientLog n d - f.fractionBits) (-(a : Int)) = step at hcut
    have hmost : -(a : Int) ≤ step := by omega
    have hshift : (step - -(a : Int)).toNat = f.cut (n * twoTo a) d := by omega
    have hrounded : (if step ≥ 0 then roundedQuotient n (d <<< step.toNat)
        else roundedQuotient (n <<< (-step).toNat) d) =
          roundedQuotient (n * twoTo a) (d * twoTo (f.cut (n * twoTo a) d)) := by
      generalize f.cut (n * twoTo a) d = k at hcut
      have hpos := Nat.mul_pos hd (twoTo_pos k)
      split
      · rw [Nat.shiftLeft_eq]
        apply roundedQuotient_same (Nat.mul_pos hd (twoTo_pos _)) hpos
        rw [show k = a + step.toNat by omega, twoTo_add]
        show _ = n * twoTo a * (d * twoTo step.toNat)
        ac_rfl
      · rw [Nat.shiftLeft_eq]
        apply roundedQuotient_same hd hpos
        rw [show a = (-step).toNat + k by omega, twoTo_add]
        show n * twoTo (-step).toNat * _ = _
        ac_rfl
    rw [hshift, hrounded]
    show (if f.rank (n * twoTo a) d ≥ _ then _
      else f.signWord negative + f.rank (n * twoTo a) d) = _
    split
    · rw [Nat.min_eq_right (by omega)]
      rfl
    · rw [Nat.min_eq_left (by omega)]


/-- How many least steps a word stands for, its sign apart. -/
def steps (f : Format) (w : Nat) : Nat :=
  if w / twoTo f.fractionBits = 0 then w
  else (twoTo f.fractionBits + w % twoTo f.fractionBits) * twoTo (w / twoTo f.fractionBits - 1)

theorem steps_mono {w w' : Nat} (h : w ≤ w') : f.steps w ≤ f.steps w' := by
  have hpos := twoTo_pos f.fractionBits
  have hw := Nat.div_add_mod w (twoTo f.fractionBits)
  have hw' := Nat.div_add_mod w' (twoTo f.fractionBits)
  have hm := Nat.mod_lt w hpos
  have hdiv : w / twoTo f.fractionBits ≤ w' / twoTo f.fractionBits := Nat.div_le_div_right h
  unfold steps
  generalize twoTo f.fractionBits = b at *
  generalize w / b = e at *
  generalize w' / b = e' at *
  by_cases h0 : e' = 0
  · have h0' : e = 0 := by omega
    rw [if_pos h0', if_pos h0]
    exact h
  · rw [if_neg h0]
    have hone : b + w' % b ≤ (b + w' % b) * twoTo (e' - 1) :=
      Nat.le_mul_of_pos_right _ (twoTo_pos _)
    by_cases h1 : e = 0
    · rw [if_pos h1]
      rw [h1] at hw
      omega
    · rw [if_neg h1]
      by_cases hsame : e = e'
      · rw [hsame] at hw ⊢
        apply Nat.mul_le_mul_right
        omega
      · have hexp : twoTo (e - 1 + 1) ≤ twoTo (e' - 1) := twoTo_le (by omega)
        calc (b + w % b) * twoTo (e - 1) ≤ (b * 2) * twoTo (e - 1) := by
              apply Nat.mul_le_mul_right
              omega
          _ = b * twoTo (e - 1 + 1) := by
              rw [Nat.mul_assoc, twoTo_add, Nat.mul_comm 2]
              rfl
          _ ≤ b * twoTo (e' - 1) := Nat.mul_le_mul_left b hexp
          _ ≤ (b + w' % b) * twoTo (e' - 1) := Nat.mul_le_mul_right _ (Nat.le_add_right _ _)

/-- A word of a significand and its cut. -/
theorem steps_of_cut {k r : Nat} (hr : r < 2 * twoTo f.fractionBits)
    (hk : 0 < k → twoTo f.fractionBits ≤ r) :
    f.steps (k * twoTo f.fractionBits + r) = r * twoTo k := by
  have hpos := twoTo_pos f.fractionBits
  unfold steps
  by_cases hlow : r < twoTo f.fractionBits
  · have hk0 : k = 0 := by omega
    rw [hk0, Nat.zero_mul, Nat.zero_add, Nat.div_eq_of_lt hlow, if_pos rfl]
    exact (Nat.mul_one r).symm
  · have hsum : k * twoTo f.fractionBits + r =
        (r - twoTo f.fractionBits) + (k + 1) * twoTo f.fractionBits := by
      rw [Nat.add_mul]
      omega
    have hrest : r - twoTo f.fractionBits < twoTo f.fractionBits := by omega
    rw [hsum, Nat.add_mul_div_right _ _ hpos, Nat.add_mul_mod_self_right, Nat.div_eq_of_lt hrest,
      Nat.mod_eq_of_lt hrest, if_neg (by omega)]
    congr 1
    · omega
    · congr 1
      omega

/-- A number of no more places than the format has is its own rank. -/
theorem steps_rank {s k : Nat} (hs : twoTo k ∣ s) (hlt : s < twoTo (k + f.fractionBits + 1)) :
    f.steps (f.rank s 1) = s := by
  have hcut : f.cut s 1 = s.log2 - f.fractionBits := by
    unfold cut
    rw [Nat.div_one]
  have hlog : f.cut s 1 ≤ k := by
    rw [hcut]
    by_cases hz : s = 0
    · rw [hz]
      simp
    · have := (Nat.log2_lt hz).mpr hlt
      omega
  obtain ⟨r, hr⟩ : twoTo (f.cut s 1) ∣ s := Nat.dvd_trans (Nat.pow_dvd_pow 2 hlog) hs
  have hpos := twoTo_pos (f.cut s 1)
  have hupper := cut_upper (f := f) (n := s) (d := 1) (by omega)
  have hlower := cut_lower (f := f) (n := s) (d := 1) (by omega)
  unfold rank
  generalize f.cut s 1 = c at *
  rw [Nat.one_mul] at *
  rw [show roundedQuotient s (twoTo c) = r by
    rw [hr, Nat.mul_comm]
    exact roundedQuotient_exact hpos r]
  rw [hr, Nat.mul_comm (twoTo c)] at hupper hlower
  have hsteps : f.steps (c * twoTo f.fractionBits + r) = r * twoTo c := by
    apply steps_of_cut
    · exact Nat.lt_of_mul_lt_mul_right hupper
    · intro hc
      exact Nat.le_of_mul_le_mul_right (hlower hc) hpos
  rw [hsteps, hr, Nat.mul_comm]


theorem top_word : f.top * twoTo f.fractionBits < twoTo (f.fractionBits + f.exponentBits) := by
  have hpos := twoTo_pos f.exponentBits
  rw [twoTo_add, Nat.mul_comm]
  apply Nat.mul_lt_mul_of_pos_left _ (twoTo_pos _)
  unfold top
  omega

theorem rank_in_range {s k : Nat} (hs : twoTo k ∣ s) (hlt : s < twoTo (k + f.fractionBits + 1))
    (hrange : s < twoTo (f.top - 1 + f.fractionBits)) (htop : 0 < f.top) :
    f.rank s 1 < f.top * twoTo f.fractionBits := by
  apply Nat.lt_of_not_le
  intro hle
  have hmono := steps_mono (f := f) hle
  have hpos := twoTo_pos f.fractionBits
  have hinfinity : f.steps (f.top * twoTo f.fractionBits) = twoTo (f.top - 1 + f.fractionBits) := by
    unfold steps
    rw [Nat.mul_div_cancel _ hpos, Nat.mul_mod_left, if_neg (by omega), Nat.add_zero, twoTo_add,
      Nat.mul_comm]
  rw [steps_rank hs hlt, hinfinity] at hmono
  omega

/-! ## Rounding -/

/-- How many steps of the line there are in a least step. -/
def units (f : Format) : Nat := twoTo (f.least + 1074).toNat

/-- The place of a word, its sign apart. -/
def height (f : Format) (w : Nat) : Place :=
  if w < f.top * twoTo f.fractionBits then .point (f.steps w * f.units : Nat) else .above

theorem fields {w : Nat} (hw : w < twoTo (f.fractionBits + f.exponentBits)) (negative : Bool) :
    f.exponentField (f.signWord negative + w) = w / twoTo f.fractionBits ∧
      f.fractionField (f.signWord negative + w) = w % twoTo f.fractionBits ∧
      f.isNegative (f.signWord negative + w) = negative := by
  have hpos := twoTo_pos f.fractionBits
  have hdiv : w / twoTo f.fractionBits < twoTo f.exponentBits := by
    apply (Nat.div_lt_iff_lt_mul hpos).mpr
    rw [Nat.mul_comm, ← twoTo_add]
    exact hw
  have hsign : ∃ b : Nat, f.signWord negative = b * twoTo (f.fractionBits + f.exponentBits) ∧
      (b == 1) = negative ∧ b < 2 := by
    cases negative
    · exact ⟨0, by simp [signWord], rfl, by omega⟩
    · exact ⟨1, by simp [signWord], rfl, by omega⟩
  obtain ⟨b, hb, hnegative, hb2⟩ := hsign
  have hshift (n i : Nat) : n >>> i = n / twoTo i := Nat.shiftRight_eq_div_pow n i
  have hword : f.signWord negative + w =
      w + b * twoTo f.exponentBits * twoTo f.fractionBits := by
    rw [hb, twoTo_add]
    rw [Nat.add_comm, Nat.mul_assoc, Nat.mul_comm (twoTo f.exponentBits)]
  refine ⟨?_, ?_, ?_⟩
  · unfold exponentField
    rw [hshift, hword, Nat.add_mul_div_right _ _ hpos, Nat.add_mul_mod_self_right,
      Nat.mod_eq_of_lt hdiv]
  · unfold fractionField
    rw [hword, Nat.add_mul_mod_self_right]
  · unfold isNegative
    rw [hshift, hb, Nat.add_comm, Nat.add_mul_div_right _ _ (twoTo_pos _), Nat.div_eq_of_lt hw,
      Nat.zero_add, Nat.mod_eq_of_lt hb2, hnegative]

/-- The place of a word is that of its datum. -/
theorem place_of_word (hf : -1074 ≤ f.least) (negative : Bool) (w : Nat) :
    Place.ofDatum (f.datum (f.signWord negative + min w (f.top * twoTo f.fractionBits))) =
      some ((f.height w).signed negative) := by
  have hpos := twoTo_pos f.fractionBits
  have htop := top_word (f := f)
  unfold datum
  by_cases hw : w < f.top * twoTo f.fractionBits
  · rw [Nat.min_eq_left (Nat.le_of_lt hw)]
    obtain ⟨he, hm, hn⟩ := fields (f := f) (w := w) (by omega) negative
    have hbelow : w / twoTo f.fractionBits < f.top := (Nat.div_lt_iff_lt_mul hpos).mpr hw
    dsimp only
    rw [he, hm, hn, if_neg (by omega)]
    unfold height steps
    rw [if_pos hw]
    split
    · rename_i h0
      have hsmall : w % twoTo f.fractionBits = w := by
        apply Nat.mod_eq_of_lt
        have := Nat.div_add_mod w (twoTo f.fractionBits)
        have := Nat.mod_lt w hpos
        rw [h0] at *
        omega
      rw [hsmall]
      cases negative <;> rfl
    · rename_i h0
      have hexp : (f.least + (w / twoTo f.fractionBits - 1 : Nat) + 1074).toNat =
          w / twoTo f.fractionBits - 1 + (f.least + 1074).toNat := by omega
      unfold Place.ofDatum units
      dsimp only
      rw [hexp, twoTo_add]
      cases negative <;> simp [Nat.mul_assoc, Place.signed, Place.opposite]
  · rw [Nat.min_eq_right (by omega)]
    obtain ⟨he, hm, hn⟩ := fields (f := f) htop negative
    rw [Nat.mul_div_cancel _ hpos] at he
    rw [Nat.mul_mod_left] at hm
    dsimp only
    rw [he, hm, hn, if_pos rfl, if_pos rfl]
    unfold height
    rw [if_neg hw]
    cases negative <;> rfl

/-- The place to which a place is rounded. -/
def round (f : Format) : Place → Place
  | .point s => (f.height (f.rank s.natAbs f.units)).signed (decide (s < 0))
  | end' => end'

theorem height_cases (w : Nat) : (∃ n : Nat, f.height w = .point n) ∨ f.height w = .above := by
  unfold height
  split
  · exact .inl ⟨_, rfl⟩
  · exact .inr rfl

theorem height_mono {w w' : Nat} (h : w ≤ w') : ¬ f.height w' < f.height w := by
  have hsteps : f.steps w * f.units ≤ f.steps w' * f.units := Nat.mul_le_mul_right _ (steps_mono h)
  unfold height
  by_cases hw' : w' < f.top * twoTo f.fractionBits
  · rw [if_pos hw', if_pos (Nat.lt_of_le_of_lt h hw')]
    intro hlt
    have hlt' := Place.point_lt.mp hlt
    omega
  · rw [if_neg hw']
    exact Place.not_above_lt _

/-- Rounding keeps the order. -/
theorem round_mono {p q : Place} (h : p < q) : ¬ f.round q < f.round p := by
  have hunits : 0 < f.units := twoTo_pos _
  have hrank {m n : Nat} (hmn : m ≤ n) : f.rank m f.units ≤ f.rank n f.units :=
    rank_mono hunits hunits (Nat.mul_le_mul_right _ hmn)
  cases p with
  | below => exact Place.not_lt_below _
  | above => exact absurd h (Place.not_above_lt _)
  | point s =>
    cases q with
    | below => exact absurd h (Place.not_lt_below _)
    | above => exact Place.not_above_lt _
    | point t =>
      have hst := Place.point_lt.mp h
      unfold round
      dsimp only
      by_cases ht : t < 0
      · have hs : s < 0 := by omega
        rw [decide_eq_true ht, decide_eq_true hs]
        exact fun hlt => height_mono (hrank (by omega)) (Place.opposite_lt.mp hlt)
      · rw [decide_eq_false ht]
        by_cases hs : s < 0
        · rw [decide_eq_true hs]
          intro hlt
          rcases height_cases (f := f) (f.rank t.natAbs f.units) with ⟨n, hn⟩ | hn
          · rcases height_cases (f := f) (f.rank s.natAbs f.units) with ⟨m, hm⟩ | hm
            · rw [hn, hm] at hlt
              have hlt' := Place.point_lt.mp hlt
              omega
            · rw [hm] at hlt
              exact Place.not_lt_below _ hlt
          · rw [hn] at hlt
            exact Place.not_above_lt _ hlt
        · rw [decide_eq_false hs]
          exact height_mono (hrank (by omega))

theorem lt_of_round {p q : Place} (h : f.round p < f.round q) : p < q := by
  rcases Place.lt_or_eq_or_gt p q with hlt | heq | hgt
  · exact hlt
  · exact absurd (heq ▸ h) (Place.lt_irrefl _)
  · exact absurd h (round_mono hgt)

theorem height_rank {s k : Nat} (hs : twoTo k ∣ s) (hlt : s < twoTo (k + f.fractionBits + 1))
    (hrange : s < twoTo (f.top - 1 + f.fractionBits)) (htop : 0 < f.top) :
    f.height (f.rank s 1) = .point (s * f.units : Nat) := by
  unfold height
  rw [if_pos (rank_in_range hs hlt hrange htop), steps_rank hs hlt]

/-- Rounding goes by the sign and the number of steps. -/
theorem round_signed (htop : 0 < f.top) (negative : Bool) (s : Nat) :
    f.round ((Place.point s).signed negative) =
      (f.height (f.rank s f.units)).signed negative := by
  cases negative with
  | false =>
    show (f.height (f.rank (s : Int).natAbs f.units)).signed (decide ((s : Int) < 0)) = _
    rw [decide_eq_false (by omega)]
    rfl
  | true =>
    show (f.height (f.rank (-(s : Int)).natAbs f.units)).signed (decide (-(s : Int) < 0)) = _
    rw [Int.natAbs_neg]
    by_cases hs : s = 0
    · have hzero : f.height (f.rank 0 f.units) = .point 0 := by
        have hpos := Nat.mul_pos htop (twoTo_pos f.fractionBits)
        have hrank : f.rank 0 f.units = 0 := by
          unfold rank cut roundedQuotient
          simp
        unfold height steps
        rw [hrank, if_pos hpos]
        simp
      rw [hs]
      show (f.height (f.rank 0 f.units)).signed _ = (f.height (f.rank 0 f.units)).signed _
      rw [hzero]
      rfl
    · rw [decide_eq_true (by omega)]
      rfl

theorem datum_finite {w m : Nat} {negative : Bool} {e : Int} (htop : 2 ≤ f.top)
    (h : f.datum w = .finite negative m e) :
    m < twoTo (f.fractionBits + 1) ∧ f.least ≤ e ∧ e + 2 ≤ f.least + f.top := by
  have hm : f.fractionField w < twoTo f.fractionBits := Nat.mod_lt _ (twoTo_pos _)
  have he : f.exponentField w ≤ f.top := by
    have hlt : f.exponentField w < twoTo f.exponentBits := Nat.mod_lt _ (twoTo_pos _)
    unfold top
    omega
  have htwice : twoTo (f.fractionBits + 1) = twoTo f.fractionBits * 2 := twoTo_add _ 1
  unfold datum at h
  dsimp only at h
  split at h
  · split at h <;> cases h
  · split at h <;> cases h <;> omega

/-- The word nearest to a significand at an exponent. -/
theorem nearest_scaled {a : Nat} (ha : f.least = -a) (ha' : a ≤ 1074) (negative : Bool) (m : Nat)
    {e : Int} (he : -1074 ≤ e) :
    (if e ≥ 0 then f.nearest negative (m <<< e.toNat) 1
      else f.nearest negative m (twoTo (-e).toNat)) =
        f.signWord negative +
          min (f.rank (m * twoTo (e + 1074).toNat) f.units) (f.top * twoTo f.fractionBits) := by
  have hunits : 0 < f.units := twoTo_pos _
  have hstep : f.units = twoTo (1074 - a) := by
    unfold units
    congr 1
    omega
  split
  · rw [nearest_eq ha negative Nat.one_pos]
    have hexp : (e + 1074).toNat = e.toNat + a + (1074 - a) := by omega
    refine congrArg (fun r => f.signWord negative + min r (f.top * twoTo f.fractionBits))
      (rank_same Nat.one_pos hunits ?_)
    rw [hexp, hstep, Nat.shiftLeft_eq, twoTo_add, twoTo_add, Nat.mul_one]
    show m * twoTo e.toNat * _ * _ = _
    ac_rfl
  · rw [nearest_eq ha negative (twoTo_pos _)]
    have hexp : (e + 1074).toNat + (-e).toNat = a + (1074 - a) := by omega
    refine congrArg (fun r => f.signWord negative + min r (f.top * twoTo f.fractionBits))
      (rank_same (twoTo_pos _) hunits ?_)
    rw [hstep, Nat.mul_assoc, Nat.mul_assoc, ← twoTo_add, ← twoTo_add, hexp]

end Format

end Minimize.Number
