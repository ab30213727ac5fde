-- The order of costs. Numbers of one kind are compared by where they stand on
-- the line, so the order of the values is that of the numbers.
import Minimize.Value.Compare

namespace Minimize

open Number

namespace Value

/-- Numbers that the order compares exactly: plain numbers, floating-point
numbers of one precision, or whole numbers of any width. Numbers of different
precisions are compared in a common one, and may come out equal there. -/
inductive Commensurable (vs : List Value) : Prop
  | plain (h : ∀ v ∈ vs, v.isRanked = true)
  | double (h : ∀ v ∈ vs, ∃ x, (v = .float x ∨ v = .cell (.double x)) ∧
      (Place.ofFloat x).isSome = true)
  | single (h : ∀ v ∈ vs, ∃ x, v = .cell (.single x) ∧ Number.single x = x ∧
      (Place.ofFloat x).isSome = true)
  | whole (h : ∀ v ∈ vs, ∃ i, v = .int i ∨ ∃ w, v = .cell (.whole w i))

/-- Whether a number stands below another on the line. -/
def Below (a b : Value) : Prop :=
  ∃ p q, a.place? = some (some p) ∧ b.place? = some (some q) ∧ p < q

/-- Numbers that the order compares by their places. -/
def Compares (a b : Value) : Prop :=
  ∃ p q, a.place? = some (some p) ∧ b.place? = some (some q) ∧ a.less b = .ok (p.before q)

theorem Compares.less {a b : Value} (h : a.Compares b) :
    ∃ better, a.less b = .ok better ∧ (better = true ↔ a.Below b) := by
  obtain ⟨p, q, hp, hq, hl⟩ := h
  refine ⟨_, hl, fun hb => ⟨p, q, hp, hq, hb⟩, ?_⟩
  rintro ⟨p', q', hp', hq', hlt⟩
  rw [hp] at hp'
  rw [hq] at hq'
  cases hp'
  cases hq'
  exact hlt

theorem Below.irrefl {a : Value} : ¬ a.Below a := by
  rintro ⟨p, q, hp, hq, hlt⟩
  rw [hp] at hq
  cases hq
  exact Place.lt_irrefl p hlt

theorem Below.trans {a b c : Value} (hab : a.Below b) (hbc : b.Below c) : a.Below c := by
  obtain ⟨p, q, hp, hq, hlt⟩ := hab
  obtain ⟨q', r, hq', hr, hlt'⟩ := hbc
  rw [hq] at hq'
  cases hq'
  exact ⟨p, r, hp, hr, Place.lt_trans hlt hlt'⟩

/-- What is below a number that another is not below is below the other. -/
theorem Below.trans_not {a b c : Value} (hab : a.Below b) (hcb : ¬ c.Below b)
    (hc : ∃ r, c.place? = some (some r)) : a.Below c := by
  obtain ⟨p, q, hp, hq, hlt⟩ := hab
  obtain ⟨r, hr⟩ := hc
  refine ⟨p, r, hp, hr, ?_⟩
  rcases Place.lt_or_eq_or_gt q r with h | h | h
  · exact Place.lt_trans hlt h
  · exact h ▸ hlt
  · exact absurd ⟨r, q, hr, hq, h⟩ hcb

theorem text?_of_operand {a : Value} {x : Operand} (ha : a.operand? = some x) :
    a.text? = none := by
  cases a with
  | cell c => cases c <;> first | rfl | cases ha
  | _ => first | rfl | cases ha

theorem relates_of_operands {a b : Value} {x y : Operand} (ha : a.operand? = some x)
    (hb : b.operand? = some y) (r : Relation) (otherwise : Except Slip Bool) :
    relates r otherwise a b = r.onOperands x y := by
  unfold relates
  rw [ha, hb]

theorem less_of_operands {a b : Value} {x y : Operand} (ha : a.operand? = some x)
    (hb : b.operand? = some y) : a.less b = Relation.below.onOperands x y := by
  have hl : a.less b = relates .below (.error (disorder "<" a b)) a b := by
    have ht := text?_of_operand ha
    have ht' := text?_of_operand hb
    cases a with
    | list vs => cases ha
    | tuple vs => cases ha
    | bytes bs => cases ha
    | _ => simp only [less, ht, ht']
  rw [hl, relates_of_operands ha hb]

/-- Two numbers that every relation puts as they stand on the line. -/
def Placed (a b : Value) : Prop :=
  ∃ x y p q, a.operand? = some x ∧ b.operand? = some y ∧ a.place? = some (some p) ∧
    b.place? = some (some q) ∧ ∀ r : Relation, r.onOperands x y = .ok (r.onPlaces (some p) (some q))

theorem Placed.compares {a b : Value} (h : a.Placed b) : a.Compares b := by
  obtain ⟨x, y, p, q, ha, hb, hp, hq, hr⟩ := h
  exact ⟨p, q, hp, hq, (less_of_operands ha hb).trans (hr .below)⟩

theorem Placed.atMost {a b : Value} (h : a.Placed b) :
    ∃ met, a.atMost b = .ok met ∧ (met = false ↔ b.Below a) := by
  obtain ⟨x, y, p, q, ha, hb, hp, hq, hr⟩ := h
  refine ⟨!q.before p, (relates_of_operands ha hb _ _).trans (hr .atMost), ?_⟩
  constructor
  · intro hmet
    have hbefore : q.before p = true := by simpa using hmet
    exact ⟨q, p, hq, hp, hbefore⟩
  · rintro ⟨q', p', hq', hp', hlt⟩
    rw [hq] at hq'
    rw [hp] at hp'
    cases hq'
    cases hp'
    have hbefore : q.before p = true := hlt
    simp [hbefore]

/-- Plain numbers are related by their places. -/
theorem placed_of_plain {a b : Value} (ha : a.isRanked = true) (hb : b.isRanked = true) :
    a.Placed b := by
  have plain : ∀ v : Value, v.isRanked = true → ∃ x p, v.operand? = some x ∧ x.type? = none ∧
      Relation.place? x = some (some p) ∧ v.place? = some (some p) := by
    intro v hv
    cases v with
    | bool b => exact ⟨_, _, rfl, rfl, rfl, rfl⟩
    | int i => exact ⟨_, _, rfl, rfl, rfl, rfl⟩
    | float x =>
      obtain ⟨p, hp⟩ := Option.isSome_iff_exists.mp hv
      exact ⟨.real x, p, rfl, rfl, congrArg some hp, congrArg some hp⟩
    | _ => cases hv
  obtain ⟨x, p, hx, htx, hpx, hpa⟩ := plain a ha
  obtain ⟨y, q, hy, hty, hqy, hqb⟩ := plain b hb
  refine ⟨x, y, p, q, hx, hy, hpa, hqb, fun r => ?_⟩
  unfold Relation.onOperands Operand.common? Relation.onPlain
  simp only [htx, hty, hpx, hqy]

theorem compares_of_plain {a b : Value} (ha : a.isRanked = true) (hb : b.isRanked = true) :
    a.Compares b := (placed_of_plain ha hb).compares

theorem Commensurable.placed {vs : List Value} (h : Commensurable vs) {a b : Value}
    (ha : a ∈ vs) (hb : b ∈ vs) : a.Placed b := by
  cases h with
  | plain h => exact placed_of_plain (h a ha) (h b hb)
  | double h =>
    obtain ⟨x, hx, hpx⟩ := h a ha
    obtain ⟨y, hy, hpy⟩ := h b hb
    obtain ⟨p, hp⟩ := Option.isSome_iff_exists.mp hpx
    obtain ⟨q, hq⟩ := Option.isSome_iff_exists.mp hpy
    have hfloats (r : Relation) : r.onFloats x y = r.onPlaces (some p) (some q) := by
      unfold Relation.onFloats
      rw [hp, hq]
    rcases hx with rfl | rfl <;> rcases hy with rfl | rfl <;>
      exact ⟨_, _, p, q, rfl, rfl, congrArg some hp, congrArg some hq,
        fun r => congrArg Except.ok (hfloats r)⟩
  | single h =>
    obtain ⟨x, rfl, hx, hpx⟩ := h a ha
    obtain ⟨y, rfl, hy, hpy⟩ := h b hb
    obtain ⟨p, hp⟩ := Option.isSome_iff_exists.mp hpx
    obtain ⟨q, hq⟩ := Option.isSome_iff_exists.mp hpy
    have hfloats (r : Relation) : r.onFloats (Number.single x) (Number.single y) =
        r.onPlaces (some p) (some q) := by
      unfold Relation.onFloats
      rw [hx, hy, hp, hq]
    exact ⟨_, _, p, q, rfl, rfl, congrArg some hp, congrArg some hq,
      fun r => congrArg Except.ok (hfloats r)⟩
  | whole h =>
    obtain ⟨i, hi⟩ := h a ha
    obtain ⟨j, hj⟩ := h b hb
    rcases hi with rfl | ⟨v, rfl⟩ <;> rcases hj with rfl | ⟨w, rfl⟩ <;>
      exact ⟨_, _, .ofInt i, .ofInt j, rfl, rfl, rfl, rfl, fun r => rfl⟩

theorem Commensurable.compares {vs : List Value} (h : Commensurable vs) {a b : Value}
    (ha : a ∈ vs) (hb : b ∈ vs) : a.Compares b := (h.placed ha hb).compares

end Value

end Minimize
