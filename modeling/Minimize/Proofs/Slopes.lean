-- The derivatives of the function of Rosenbrock are its derivatives. In exact
-- numbers, a point that is moved along one axis makes a polynomial of every
-- value, whose coefficient of first order is the slope there. Each term knows
-- its slopes and its curvatures, and every entry of the gradient and of the
-- Hessian is put together from those of the two terms that its coordinate
-- stands in.
import Mathlib.Algebra.CharZero.Infinite
import Mathlib.Algebra.Polynomial.Roots
import Mathlib.Data.List.GetD
import Mathlib.Tactic.NormNum
import Mathlib.Tactic.Ring
import Minimize.Benchmark.Basic

namespace Minimize.Benchmark

open Polynomial

/-! ## Terms in a row -/

section

variable {R S : Type}

theorem links_cons_cons (x y : R) (xs : List R) : links (x :: y :: xs) = (x, y) :: links (y :: xs) :=
  rfl

variable [CommRing R] [CommRing S] (a b : R)

theorem sum_eq (xs : List R) : sum xs = xs.sum := List.sum_eq_foldl.symm

theorem rosenbrock_cons_cons (x y : R) (xs : List R) :
    rosenbrock a b (x :: y :: xs) = rosenbrockTerm a b (x, y) + rosenbrock a b (y :: xs) := by
  unfold rosenbrock
  rw [links_cons_cons, List.map_cons, sum_eq, sum_eq, List.sum_cons]

/-- A coordinate put in front has the slope of its term, and the next one has
that of this term besides its own. -/
theorem rosenbrockGradient_cons_cons (x y : R) (xs : List R) :
    rosenbrockGradient a b (x :: y :: xs) = ownSlope a b (x, y) ::
      (rosenbrockGradient a b (y :: xs)).modifyHead (· + nextSlope b (x, y)) := by
  cases xs <;> rfl

theorem rosenbrockGradient_length (xs : List R) :
    (rosenbrockGradient a b xs).length = xs.length := by
  induction xs with
  | nil => rfl
  | cons x xs ih =>
    cases xs with
    | nil => rfl
    | cons y xs =>
      rw [rosenbrockGradient_cons_cons, List.length_cons, List.length_modifyHead, ih]
      rfl

/-! ## Other numbers -/

theorem rosenbrockTerm_map (f : R →+* S) (l : R × R) :
    rosenbrockTerm (f a) (f b) (Prod.map f f l) = f (rosenbrockTerm a b l) := by
  simp only [rosenbrockTerm, rise, Prod.map_fst, Prod.map_snd, map_add, map_sub, map_mul]

theorem ownSlope_map (f : R →+* S) (l : R × R) :
    ownSlope (f a) (f b) (Prod.map f f l) = f (ownSlope a b l) := by
  simp only [ownSlope, rise, Prod.map_fst, Prod.map_snd, map_sub, map_mul, map_neg, map_ofNat]

theorem nextSlope_map (f : R →+* S) (l : R × R) :
    nextSlope (f b) (Prod.map f f l) = f (nextSlope b l) := by
  simp only [nextSlope, rise, Prod.map_fst, Prod.map_snd, map_sub, map_mul, map_ofNat]

/-- The function is the same in numbers to which others are carried over. -/
theorem rosenbrock_map (f : R →+* S) (xs : List R) :
    rosenbrock (f a) (f b) (xs.map f) = f (rosenbrock a b xs) := by
  induction xs with
  | nil => exact (map_zero f).symm
  | cons x xs ih =>
    cases xs with
    | nil => exact (map_zero f).symm
    | cons y xs =>
      rw [List.map_cons, List.map_cons, rosenbrock_cons_cons, rosenbrock_cons_cons, map_add,
        ← rosenbrockTerm_map, ← ih]
      rfl

theorem rosenbrockGradient_map (f : R →+* S) (xs : List R) :
    rosenbrockGradient (f a) (f b) (xs.map f) = (rosenbrockGradient a b xs).map f := by
  induction xs with
  | nil => rfl
  | cons x xs ih =>
    cases xs with
    | nil => exact congrArg (fun z => [z]) (map_zero f).symm
    | cons y xs =>
      have hhead : ∀ zs : List R, (zs.map f).modifyHead (· + f (nextSlope b (x, y))) =
          (zs.modifyHead (· + nextSlope b (x, y))).map f := by
        intro zs
        cases zs with
        | nil => rfl
        | cons z zs => simp
      rw [List.map_cons, List.map_cons, rosenbrockGradient_cons_cons,
        rosenbrockGradient_cons_cons, List.map_cons, ← hhead, ← ih, ← ownSlope_map, ← nextSlope_map]
      rfl

/-! ## The entries -/

/-- The terms in which a coordinate stands first, if there is one, and in which
it stands second. -/
theorem links_getElem? (xs : List R) (i : ℕ) :
    (links xs)[i]? =
      if i + 1 < xs.length then some (xs.getD i 0, xs.getD (i + 1) 0) else none := by
  induction xs generalizing i with
  | nil => rfl
  | cons x xs ih =>
    cases xs with
    | nil => simp [links]
    | cons y xs =>
      rw [links_cons_cons]
      cases i with
      | zero => simp
      | succ i => simpa using ih i

/-- An entry of the gradient: the slope of the own term of the coordinate and
that of the term before, where there are such. -/
theorem rosenbrockGradient_getD (xs : List R) (i : ℕ) :
    (rosenbrockGradient a b xs).getD i 0 =
      (if i + 1 < xs.length then ownSlope a b (xs.getD i 0, xs.getD (i + 1) 0) else 0) +
        (if 0 < i ∧ i < xs.length then nextSlope b (xs.getD (i - 1) 0, xs.getD i 0) else 0) := by
  induction xs generalizing i with
  | nil => simp [rosenbrockGradient]
  | cons x xs ih =>
    cases xs with
    | nil =>
      have hone : rosenbrockGradient a b [x] = [0] := rfl
      rw [hone]
      cases i <;> simp
    | cons y xs =>
      obtain ⟨g, gs, hg⟩ : ∃ g gs, rosenbrockGradient a b (y :: xs) = g :: gs :=
        List.exists_cons_of_length_eq_add_one (rosenbrockGradient_length a b (y :: xs))
      rw [rosenbrockGradient_cons_cons, hg]
      rw [hg] at ih
      cases i with
      | zero => simp
      | succ i =>
        cases i with
        | zero =>
          have hfirst := ih 0
          simp only [List.getD_cons_zero, lt_irrefl, false_and, if_false, add_zero] at hfirst
          simp [hfirst]
        | succ i => simpa using ih (i + 1)

theorem rosenbrockHessian_length (xs : List R) : (rosenbrockHessian b xs).length = xs.length := by
  unfold rosenbrockHessian
  rw [List.length_map, List.length_range]

theorem rosenbrockHessian_row_length {xs row : List R} (h : row ∈ rosenbrockHessian b xs) :
    row.length = xs.length := by
  obtain ⟨i, -, rfl⟩ := List.mem_map.mp h
  rw [List.length_map, List.length_range]

/-- The entry of a matrix of rows; outside, there are noughts. -/
def entry (rows : List (List R)) (i j : ℕ) : R := (rows.getD i []).getD j 0

theorem entry_of_inside {xs : List R} {i j : ℕ} (hi : i < xs.length) (hj : j < xs.length) :
    entry (rosenbrockHessian b xs) i j = rosenbrockHessianEntry b xs i j := by
  unfold entry rosenbrockHessian
  simp [List.getD_eq_getElem?_getD, hi, hj]

theorem entry_of_outside {xs : List R} {i j : ℕ} (h : i < xs.length → ¬ j < xs.length) :
    entry (rosenbrockHessian b xs) i j = 0 := by
  unfold entry rosenbrockHessian
  by_cases hi : i < xs.length
  · simp [List.getD_eq_getElem?_getD, hi, h hi]
  · simp [List.getD_eq_getElem?_getD, hi]

/-- An entry of the Hessian: what the own term of the coordinate and the term
before give to it, where there are such. -/
theorem entry_rosenbrockHessian (xs : List R) (i j : ℕ) :
    entry (rosenbrockHessian b xs) i j =
      (if i + 1 < xs.length then
        (if i = j then ownCurvature b (xs.getD i 0, xs.getD (i + 1) 0) else 0) +
          (if i + 1 = j then -4 * b * xs.getD i 0 else 0) else 0) +
      (if 0 < i ∧ i < xs.length then
        (if i - 1 = j then -4 * b * xs.getD (i - 1) 0 else 0) + (if i = j then 2 * b else 0)
        else 0) := by
  by_cases hin : i < xs.length ∧ j < xs.length
  swap
  · rw [entry_of_outside b fun hi hj => hin ⟨hi, hj⟩]
    split_ifs <;> first | omega | simp
  obtain ⟨hi, hj⟩ := hin
  rw [entry_of_inside b hi hj]
  unfold rosenbrockHessianEntry
  rw [links_getElem?]
  rcases lt_trichotomy i j with hlt | rfl | hgt
  · by_cases hnext : j = i + 1
    · subst hnext
      simp [hj, show i - 1 ≠ i + 1 by omega]
    · simp [hlt.ne, hnext, Ne.symm hnext, show i ≠ j + 1 by omega, show i - 1 ≠ j by omega]
  · by_cases hlast : i + 1 < xs.length
    · simp only [if_pos hlast, if_true, Nat.succ_ne_self, if_false, add_zero]
      cases i with
      | zero => simp
      | succ i =>
        simp [hi]
        ring
    · simp only [if_neg hlast, if_true, zero_add]
      cases i with
      | zero => simp
      | succ i => simp [hi]
  · obtain ⟨k, rfl⟩ : ∃ k, i = k + 1 := Nat.exists_eq_add_one_of_ne_zero (by omega)
    by_cases hback : k = j
    · subst hback
      simp [hi, show ¬ k + 1 + 1 = k by omega, show ¬ k = k + 1 + 1 by omega]
    · simp [hgt.ne', hback, show ¬ j = k + 1 + 1 by omega, show ¬ k + 1 + 1 = j by omega]

/-- Beside the three middle diagonals, there are noughts. -/
theorem entry_apart (xs : List R) {i j : ℕ} (h : i + 1 < j ∨ j + 1 < i) :
    entry (rosenbrockHessian b xs) i j = 0 := by
  rw [entry_rosenbrockHessian]
  split_ifs <;> first | omega | simp

theorem entry_swapped (xs : List R) (i j : ℕ) :
    entry (rosenbrockHessian b xs) i j = entry (rosenbrockHessian b xs) j i := by
  have hnext : ∀ k, entry (rosenbrockHessian b xs) k (k + 1) =
      entry (rosenbrockHessian b xs) (k + 1) k := by
    intro k
    rw [entry_rosenbrockHessian, entry_rosenbrockHessian]
    simp [show ¬ k + 1 + 1 = k by omega, show ¬ k - 1 = k + 1 by omega]
  by_cases hapart : i + 1 < j ∨ j + 1 < i
  · rw [entry_apart b xs hapart, entry_apart b xs hapart.symm]
  · obtain rfl | rfl | rfl : i = j ∨ j = i + 1 ∨ i = j + 1 := by omega
    · rfl
    · exact hnext i
    · exact (hnext j).symm

end

/-! ## Slopes -/

/-- The value of a function of one number has this slope at nought: it is a
polynomial with that coefficient of first order. -/
def IsSlope (f : ℚ → ℚ) (c : ℚ) : Prop := ∃ p : ℚ[X], (∀ t, f t = p.eval t) ∧ p.coeff 1 = c

/-- There is no more than one slope. -/
theorem IsSlope.unique {f : ℚ → ℚ} {c d : ℚ} (hc : IsSlope f c) (hd : IsSlope f d) : c = d := by
  obtain ⟨p, hp, rfl⟩ := hc
  obtain ⟨q, hq, rfl⟩ := hd
  rw [Polynomial.funext fun t => (hp t).symm.trans (hq t)]

/-- A point moved along an axis. -/
def moved {R : Type} [Add R] (xs : List R) (i : ℕ) (t : R) : List R := xs.modify i (· + t)

theorem moved_map {R S : Type} [Semiring R] [Semiring S] (f : R →+* S) (xs : List R) (i : ℕ)
    (t : R) : (moved xs i t).map f = moved (xs.map f) i (f t) := by
  unfold moved
  induction xs generalizing i with
  | nil => cases i <;> rfl
  | cons x xs ih => cases i <;> simp [ih]

theorem length_moved {R : Type} [Add R] (xs : List R) (i : ℕ) (t : R) :
    (moved xs i t).length = xs.length := List.length_modify ..

/-- The point with its coordinates as constants, moved along an axis by the
variable. -/
noncomputable def path (xs : List ℚ) (i : ℕ) : List ℚ[X] := moved (xs.map C) i X

theorem length_path (xs : List ℚ) (i : ℕ) : (path xs i).length = xs.length := by
  unfold path
  rw [length_moved, List.length_map]

theorem path_eval (xs : List ℚ) (i : ℕ) (t : ℚ) :
    (path xs i).map (evalRingHom t) = moved xs i t := by
  unfold path
  rw [moved_map, List.map_map]
  simp [Function.comp_def]

theorem path_getD (xs : List ℚ) (i k : ℕ) :
    (path xs i).getD k 0 = C (xs.getD k 0) + if k = i ∧ k < xs.length then X else 0 := by
  unfold path moved
  rw [List.getD_eq_getElem?_getD, List.getElem?_modify]
  by_cases hk : k < xs.length
  · by_cases hi : i = k
    · simp [hk, hi]
    · simp [hk, hi, Ne.symm hi]
  · simp [hk]

theorem path_coeff_zero (xs : List ℚ) (i k : ℕ) :
    ((path xs i).getD k 0).coeff 0 = xs.getD k 0 := by
  rw [path_getD, coeff_add, coeff_C_zero]
  split <;> simp

theorem path_coeff_one (xs : List ℚ) (i k : ℕ) :
    ((path xs i).getD k 0).coeff 1 = if k = i ∧ k < xs.length then 1 else 0 := by
  rw [path_getD, coeff_add, coeff_C_succ]
  split <;> simp

section

variable (a b : ℚ) (xs : List ℚ)

/-! ## Slopes of a term -/

theorem coeff_rosenbrockTerm (p q : ℚ[X]) :
    (rosenbrockTerm (C a) (C b) (p, q)).coeff 1 =
      ownSlope a b (p.coeff 0, q.coeff 0) * p.coeff 1 +
        nextSlope b (p.coeff 0, q.coeff 0) * q.coeff 1 := by
  simp only [rosenbrockTerm, ownSlope, nextSlope, rise, coeff_add, coeff_sub, mul_coeff_one,
    mul_coeff_zero, coeff_C_zero, coeff_C_succ]
  ring

theorem coeff_ownSlope (p q : ℚ[X]) :
    (ownSlope (C a) (C b) (p, q)).coeff 1 =
      ownCurvature b (p.coeff 0, q.coeff 0) * p.coeff 1 + -4 * b * p.coeff 0 * q.coeff 1 := by
  simp only [ownSlope, ownCurvature, rise, coeff_neg, coeff_sub, mul_coeff_one, mul_coeff_zero,
    coeff_C_zero, coeff_C_succ, coeff_ofNat_zero, coeff_ofNat_succ]
  ring

theorem coeff_nextSlope (p q : ℚ[X]) :
    (nextSlope (C b) (p, q)).coeff 1 = -4 * b * p.coeff 0 * p.coeff 1 + 2 * b * q.coeff 1 := by
  simp only [nextSlope, rise, coeff_sub, mul_coeff_one, mul_coeff_zero, coeff_C_zero,
    coeff_C_succ, coeff_ofNat_zero, coeff_ofNat_succ]
  ring

theorem coeff_rosenbrock_const : (rosenbrock (C a) (C b) (xs.map C)).coeff 1 = 0 := by
  rw [rosenbrock_map a b C, coeff_C_succ]

/-- Along an axis, the function has the slope that the gradient says. The first
coordinate stands in one term only, and the second in that and in those that follow. -/
theorem coeff_rosenbrock_path (i : ℕ) :
    (rosenbrock (C a) (C b) (path xs i)).coeff 1 = (rosenbrockGradient a b xs).getD i 0 := by
  induction xs generalizing i with
  | nil => cases i <;> rfl
  | cons x xs ih =>
    cases xs with
    | nil =>
      obtain ⟨p, hp⟩ := List.length_eq_one_iff.mp (length_path [x] i)
      have hnone : rosenbrock (C a) (C b) [p] = 0 := rfl
      have hone : rosenbrockGradient a b [x] = [0] := rfl
      rw [hp, hnone, hone, coeff_zero]
      cases i <;> simp
    | cons y xs =>
      obtain ⟨g, gs, hg⟩ : ∃ g gs, rosenbrockGradient a b (y :: xs) = g :: gs :=
        List.exists_cons_of_length_eq_add_one (rosenbrockGradient_length a b (y :: xs))
      rw [rosenbrockGradient_cons_cons, hg]
      rw [hg] at ih
      match i with
      | 0 =>
        have hpath : path (x :: y :: xs) 0 = (C x + X) :: C y :: xs.map C := rfl
        have hrest := coeff_rosenbrock_const a b (y :: xs)
        rw [List.map_cons] at hrest
        rw [hpath, rosenbrock_cons_cons, coeff_add, hrest, coeff_rosenbrockTerm]
        simp
      | 1 =>
        have hpath : path (x :: y :: xs) 1 = C x :: (C y + X) :: xs.map C := rfl
        have hrest : (rosenbrock (C a) (C b) ((C y + X) :: xs.map C)).coeff 1 = g := ih 0
        rw [hpath, rosenbrock_cons_cons, coeff_add, hrest, coeff_rosenbrockTerm]
        simp [add_comm]
      | i + 2 =>
        have hpath : path (x :: y :: xs) (i + 2) = C x :: C y :: path xs i := rfl
        have hrest : (rosenbrock (C a) (C b) (C y :: path xs i)).coeff 1 =
            (g :: gs).getD (i + 1) 0 := ih (i + 1)
        rw [hpath, rosenbrock_cons_cons, coeff_add, hrest, coeff_rosenbrockTerm]
        simp

/-- Along an axis, an entry of the gradient has the slope that the Hessian says. -/
theorem coeff_rosenbrockGradient_path (i j : ℕ) :
    ((rosenbrockGradient (C a) (C b) (path xs j)).getD i 0).coeff 1 =
      entry (rosenbrockHessian b xs) i j := by
  rw [entry_rosenbrockHessian, rosenbrockGradient_getD, length_path, coeff_add,
    apply_ite (fun p : ℚ[X] => p.coeff 1), apply_ite (fun p : ℚ[X] => p.coeff 1), coeff_ownSlope,
    coeff_nextSlope]
  simp only [path_coeff_zero, path_coeff_one, coeff_zero, mul_ite, mul_one, mul_zero]
  congr 1
  · refine if_ctx_congr Iff.rfl (fun hnext => ?_) fun _ => rfl
    simp only [hnext, Nat.lt_of_succ_lt hnext, and_true]
  · refine if_ctx_congr Iff.rfl (fun hbefore => ?_) fun _ => rfl
    simp only [hbefore.2, Nat.lt_of_le_of_lt (Nat.sub_le i 1) hbefore.2, and_true]

/-! ## The law -/

/-- The gradient and the Hessian of the function of Rosenbrock, in exact numbers
and in any dimension. The gradient has an entry for each coordinate, and the
Hessian a row of as many. Each entry of the gradient is the slope of the function
as its coordinate moves, and each entry of the Hessian is the slope of the entry of
the gradient in its row as the coordinate of its column moves. So the Hessian is the
same when rows and columns change places, and has noughts beside its three middle
diagonals. -/
theorem the_derivatives_are_the_slopes :
    (rosenbrockGradient a b xs).length = xs.length ∧
      (rosenbrockHessian b xs).length = xs.length ∧
      (∀ row ∈ rosenbrockHessian b xs, row.length = xs.length) ∧
      (∀ i, IsSlope (fun t => rosenbrock a b (moved xs i t))
        ((rosenbrockGradient a b xs).getD i 0)) ∧
      (∀ i j, IsSlope (fun t => (rosenbrockGradient a b (moved xs j t)).getD i 0)
        (entry (rosenbrockHessian b xs) i j)) ∧
      (∀ i j, entry (rosenbrockHessian b xs) i j = entry (rosenbrockHessian b xs) j i) ∧
      ∀ i j, i + 1 < j ∨ j + 1 < i → entry (rosenbrockHessian b xs) i j = 0 := by
  refine ⟨rosenbrockGradient_length a b xs, rosenbrockHessian_length b xs,
    fun row hrow => rosenbrockHessian_row_length b hrow, fun i => ?_, fun i j => ?_, fun i j => ?_,
    fun i j hapart => ?_⟩
  · refine ⟨rosenbrock (C a) (C b) (path xs i), fun t => ?_, coeff_rosenbrock_path a b xs i⟩
    have hcarried := rosenbrock_map (C a) (C b) (evalRingHom t) (path xs i)
    rw [path_eval] at hcarried
    simpa using hcarried
  · refine ⟨(rosenbrockGradient (C a) (C b) (path xs j)).getD i 0, fun t => ?_,
      coeff_rosenbrockGradient_path a b xs i j⟩
    have hcarried := rosenbrockGradient_map (C a) (C b) (evalRingHom t) (path xs j)
    rw [path_eval] at hcarried
    have hread : ((rosenbrockGradient (C a) (C b) (path xs j)).map (evalRingHom t)).getD i 0 =
        eval t ((rosenbrockGradient (C a) (C b) (path xs j)).getD i 0) := by
      rw [← map_zero (evalRingHom t), List.getD_map, coe_evalRingHom]
    rw [← hread, ← hcarried]
    simp
  · exact entry_swapped b xs i j
  · exact entry_apart b xs hapart

end

/-- The law for a point of three coordinates: its middle one stands in two terms. -/
theorem the_middle_of_three_stands_in_two_terms :
    IsSlope (fun t => rosenbrock 1 100 [2, 3 + t, 5]) 4604 ∧
      IsSlope (fun t => (rosenbrockGradient 1 100 [2, 3, 5 + t]).getD 1 0) (-1200) ∧
      entry (rosenbrockHessian (100 : ℚ) [2, 3, 5]) 0 2 = 0 := by
  obtain ⟨-, -, -, hslope, hcurve, -, hapart⟩ := the_derivatives_are_the_slopes 1 100 [2, 3, 5]
  have hmiddle : (rosenbrockGradient (1 : ℚ) 100 [2, 3, 5]).getD 1 0 = 4604 := by
    norm_num [rosenbrockGradient, links, ownSlope, nextSlope, rise]
  have hentry : entry (rosenbrockHessian (100 : ℚ) [2, 3, 5]) 1 2 = -1200 := by
    norm_num [entry_rosenbrockHessian]
  refine ⟨?_, ?_, hapart 0 2 (.inl (by decide))⟩
  · rw [← hmiddle]
    exact hslope 1
  · rw [← hentry]
    exact hcurve 1 2

end Minimize.Benchmark
