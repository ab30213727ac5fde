-- How low the function of Rosenbrock goes. A term asks two things of a coordinate,
-- that the next one be its square and that it be `a`, and in exact numbers it is
-- made of the squares of how far each is missed. So no value is below nought, and a
-- value is nought where everything is met. In the plane `a` and its square meet
-- both. In more dimensions the second coordinate is asked to be the square of `a`
-- and to be `a`, and only nought and one are their own squares.
import Mathlib.Algebra.GroupWithZero.Idempotent
import Mathlib.Algebra.Order.BigOperators.Group.Finset
import Mathlib.Algebra.Order.Ring.Rat
import Mathlib.Data.List.Iterate
import Minimize.Proofs.Slopes

namespace Minimize.Benchmark

/-! ## The point of repeated squares -/

/-- The point that begins with `a`, and in which every further coordinate is the
square of the one before. -/
def repeatedSquares (a : ℚ) (n : ℕ) : List ℚ := List.iterate (fun x => x ^ 2) a n

theorem length_repeatedSquares (a : ℚ) (n : ℕ) : (repeatedSquares a n).length = n :=
  List.length_iterate ..

theorem repeatedSquares_getD (a : ℚ) {n i : ℕ} (hi : i < n) :
    (repeatedSquares a n).getD i 0 = a ^ 2 ^ i := by
  unfold repeatedSquares
  rw [List.getD_eq_getElem?_getD, List.getElem?_iterate _ _ _ _ hi, pow_iterate]
  rfl

theorem eq_repeatedSquares {a : ℚ} {xs : List ℚ} (hfirst : xs ≠ [] → xs.getD 0 0 = a)
    (hnext : ∀ i, i + 1 < xs.length → xs.getD (i + 1) 0 = xs.getD i 0 ^ 2) :
    xs = repeatedSquares a xs.length := by
  have hpower : ∀ i, i < xs.length → xs.getD i 0 = a ^ 2 ^ i := by
    intro i
    induction i with
    | zero =>
      intro hi
      rw [hfirst (List.ne_nil_of_length_pos hi), pow_zero, pow_one]
    | succ i ih =>
      intro hi
      rw [hnext i hi, ih (Nat.lt_of_succ_lt hi), ← pow_mul, ← pow_succ]
  refine List.ext_getElem (length_repeatedSquares ..).symm fun i hi hi' => ?_
  rw [← List.getD_eq_getElem _ 0 hi, ← List.getD_eq_getElem _ 0 hi', hpower i hi,
    repeatedSquares_getD a hi]

/-! ## Terms -/

variable {a b : ℚ}

theorem rosenbrockTerm_nonneg (hb : 0 ≤ b) (l : ℚ × ℚ) : 0 ≤ rosenbrockTerm a b l :=
  add_nonneg (mul_nonneg hb (mul_self_nonneg _)) (mul_self_nonneg _)

/-- A term is nought where both things it asks are met; without weight, it does
not ask for the square. -/
theorem rosenbrockTerm_eq_zero_iff (hb : 0 ≤ b) (x y : ℚ) :
    rosenbrockTerm a b (x, y) = 0 ↔ (b = 0 ∨ y = x ^ 2) ∧ x = a := by
  unfold rosenbrockTerm rise
  rw [add_eq_zero_iff_of_nonneg (mul_nonneg hb (mul_self_nonneg _)) (mul_self_nonneg _),
    mul_eq_zero, mul_self_eq_zero, mul_self_eq_zero, sub_eq_zero, sub_eq_zero, sq, eq_comm (a := a)]

/-- Where a coordinate is followed by its square, the term is how far it is from
`a`, squared. -/
theorem rosenbrockTerm_square (a b x : ℚ) : rosenbrockTerm a b (x, x ^ 2) = (a - x) ^ 2 := by
  unfold rosenbrockTerm rise
  ring

/-! ## Points -/

/-- The function as a sum over all coordinates but the last. -/
theorem rosenbrock_eq_sum (a b : ℚ) (xs : List ℚ) :
    rosenbrock a b xs =
      ∑ i ∈ Finset.range (xs.length - 1), rosenbrockTerm a b (xs.getD i 0, xs.getD (i + 1) 0) := by
  induction xs with
  | nil => rfl
  | cons x xs ih =>
    cases xs with
    | nil => rfl
    | cons y xs =>
      rw [rosenbrock_cons_cons, ih, add_comm]
      exact (Finset.sum_range_succ' (fun i => rosenbrockTerm a b
        ((x :: y :: xs).getD i 0, (x :: y :: xs).getD (i + 1) 0)) xs.length).symm

theorem rosenbrock_nonneg (hb : 0 ≤ b) (xs : List ℚ) : 0 ≤ rosenbrock a b xs := by
  rw [rosenbrock_eq_sum]
  exact Finset.sum_nonneg fun i _ => rosenbrockTerm_nonneg hb _

theorem rosenbrock_eq_zero_iff (hb : 0 ≤ b) (xs : List ℚ) :
    rosenbrock a b xs = 0 ↔ ∀ i, i + 1 < xs.length →
      (b = 0 ∨ xs.getD (i + 1) 0 = xs.getD i 0 ^ 2) ∧ xs.getD i 0 = a := by
  rw [rosenbrock_eq_sum, Finset.sum_eq_zero_iff_of_nonneg fun i _ => rosenbrockTerm_nonneg hb _]
  refine forall_congr' fun i => ?_
  rw [Finset.mem_range, Nat.lt_sub_iff_add_lt, rosenbrockTerm_eq_zero_iff hb]

/-! ## The valley

Along repeated squares, every term has the next coordinate that it asks for, and
what is left of it is how far its own coordinate is from `a`. -/

theorem rosenbrock_repeatedSquares (a b : ℚ) (n : ℕ) :
    rosenbrock a b (repeatedSquares a n) = ∑ i ∈ Finset.range (n - 1), (a - a ^ 2 ^ i) ^ 2 := by
  rw [rosenbrock_eq_sum, length_repeatedSquares]
  refine Finset.sum_congr rfl fun i hi => ?_
  have hlt : i + 1 < n := Nat.lt_sub_iff_add_lt.mp (Finset.mem_range.mp hi)
  rw [repeatedSquares_getD a (Nat.lt_of_succ_lt hlt), repeatedSquares_getD a hlt, pow_succ 2 i,
    pow_mul, rosenbrockTerm_square]

/-- The second coordinate is the first of which two terms ask different things. -/
theorem rosenbrock_repeatedSquares_eq_zero_iff (a b : ℚ) {n : ℕ} (hn : 2 ≤ n) :
    rosenbrock a b (repeatedSquares a n) = 0 ↔ n = 2 ∨ a = 0 ∨ a = 1 := by
  rw [rosenbrock_repeatedSquares, Finset.sum_eq_zero_iff_of_nonneg fun i _ => sq_nonneg _]
  constructor
  · intro hmet
    refine (Nat.eq_or_lt_of_le hn).imp Eq.symm fun hlong => ?_
    have hsecond : (a - a ^ 2 ^ 1) ^ 2 = 0 :=
      hmet 1 (Finset.mem_range.mpr (Nat.lt_sub_of_add_lt hlong))
    rw [sq_eq_zero_iff, sub_eq_zero, pow_one, sq] at hsecond
    exact IsIdempotentElem.iff_eq_zero_or_one.mp hsecond.symm
  · rintro (rfl | hown) i hi
    · obtain rfl : i = 0 := Nat.lt_one_iff.mp (Finset.mem_range.mp hi)
      rw [pow_zero, pow_one, sub_self, sq, zero_mul]
    · have hpower : a ^ 2 ^ i = a :=
        (IsIdempotentElem.iff_eq_zero_or_one.mpr hown).pow_eq (pow_ne_zero i two_ne_zero)
      rw [hpower, sub_self, sq, zero_mul]

/-- With weight on the squares, only the point of repeated squares can have the
value nought. -/
theorem eq_repeatedSquares_of_rosenbrock_eq_zero (hb : 0 < b) {xs : List ℚ}
    (hlong : 2 ≤ xs.length) (hzero : rosenbrock a b xs = 0) :
    xs = repeatedSquares a xs.length := by
  have hmet := (rosenbrock_eq_zero_iff hb.le xs).mp hzero
  exact eq_repeatedSquares (fun _ => (hmet 0 hlong).2) fun i hi =>
    (hmet i hi).1.resolve_left hb.ne'

/-! ## The law -/

/-- How low the function of Rosenbrock goes, in exact numbers, in any dimension from
two on, for any `a` and any weight that is not negative. No value is below nought.
The value at the point of `a` and its repeated squares is the sum of the squares of
how far its coordinates but the last are from `a`, so that it is nought if there are
two coordinates only, or if `a` is nought or one, and only then; otherwise it is above
nought. Unless the weight is nought, no other point has the value nought, so that in
this last case there is none at all. -/
theorem the_squares_reach_nought_in_the_plane_or_from_two_numbers (a : ℚ) {b : ℚ} (hb : 0 ≤ b) :
    (∀ xs, 0 ≤ rosenbrock a b xs) ∧
      ∀ n, 2 ≤ n →
        rosenbrock a b (repeatedSquares a n) = ∑ i ∈ Finset.range (n - 1), (a - a ^ 2 ^ i) ^ 2 ∧
        (rosenbrock a b (repeatedSquares a n) = 0 ↔ n = 2 ∨ a = 0 ∨ a = 1) ∧
        (0 < b → ∀ xs, xs.length = n →
          (rosenbrock a b xs = 0 ↔ xs = repeatedSquares a n ∧ (n = 2 ∨ a = 0 ∨ a = 1))) := by
  refine ⟨rosenbrock_nonneg hb, fun n hn => ⟨rosenbrock_repeatedSquares a b n,
    rosenbrock_repeatedSquares_eq_zero_iff a b hn, ?_⟩⟩
  rintro hpos xs rfl
  constructor
  · intro hzero
    have hsquares := eq_repeatedSquares_of_rosenbrock_eq_zero hpos hn hzero
    rw [hsquares] at hzero
    exact ⟨hsquares, (rosenbrock_repeatedSquares_eq_zero_iff a b hn).mp hzero⟩
  · rintro ⟨hsquares, hreached⟩
    rw [hsquares]
    exact (rosenbrock_repeatedSquares_eq_zero_iff a b hn).mpr hreached

/-- The law at three, for which there is a point of value nought in the plane and
none in space. -/
theorem three_reaches_nought_in_the_plane_only :
    (0 : ℚ) < 100 ∧ rosenbrock (3 : ℚ) 100 [3, 9] = 0 ∧ rosenbrock (3 : ℚ) 100 [3, 9, 81] ≠ 0 ∧
      rosenbrock (3 : ℚ) 100 [3, 3, 9] ≠ 0 := by
  have hweight : (0 : ℚ) < 100 := by norm_num
  obtain ⟨-, hlaw⟩ := the_squares_reach_nought_in_the_plane_or_from_two_numbers 3 hweight.le
  have hplane : repeatedSquares 3 2 = [3, 9] := by norm_num [repeatedSquares, List.iterate]
  have hspace : ∀ xs : List ℚ, xs.length = 3 → rosenbrock 3 100 xs ≠ 0 := by
    intro xs hlength hzero
    have hreached := (((hlaw 3 (by decide)).2.2 hweight xs hlength).mp hzero).2
    norm_num at hreached
  refine ⟨hweight, ?_, hspace _ rfl, hspace _ rfl⟩
  rw [← hplane]
  exact (hlaw 2 le_rfl).2.1.mpr (.inl rfl)

/-- The point of two and its repeated squares in space has the value four. -/
theorem two_and_its_squares_lie_above_nought :
    repeatedSquares 2 3 = [2, 4, 16] ∧ rosenbrock (2 : ℚ) 100 [2, 4, 16] = 4 := by
  constructor
  · norm_num [repeatedSquares, List.iterate]
  · norm_num [rosenbrock, links, rosenbrockTerm, rise, sum]

end Minimize.Benchmark
