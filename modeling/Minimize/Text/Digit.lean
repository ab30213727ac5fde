-- Decimal digits in every script. A script's ten digits stand in a row, so
-- the code point of its zero gives the value of each.

namespace Minimize.Text

/-- The code points of the zeros. -/
def zeroPoints : List Nat :=
  [0x30, 0x660, 0x6f0, 0x7c0, 0x966, 0x9e6, 0xa66, 0xae6, 0xb66, 0xbe6, 0xc66, 0xce6, 0xd66,
   0xde6, 0xe50, 0xed0, 0xf20, 0x1040, 0x1090, 0x17e0, 0x1810, 0x1946, 0x19d0, 0x1a80, 0x1a90,
   0x1b50, 0x1bb0, 0x1c40, 0x1c50, 0xa620, 0xa8d0, 0xa900, 0xa9d0, 0xa9f0, 0xaa50, 0xabf0,
   0xff10, 0x104a0, 0x10d30, 0x11066, 0x110f0, 0x11136, 0x111d0, 0x112f0, 0x11450, 0x114d0,
   0x11650, 0x116c0, 0x11730, 0x118e0, 0x11950, 0x11c50, 0x11d50, 0x11da0, 0x16a60, 0x16ac0,
   0x16b50, 0x1d7ce, 0x1d7d8, 0x1d7e2, 0x1d7ec, 0x1d7f6, 0x1e140, 0x1e2f0, 0x1e950, 0x1fbf0]

/-- The value of a decimal digit of any script. -/
def digitValue? (c : Char) : Option Nat :=
  if c.toNat < 0x80 then
    if 0x30 ≤ c.toNat ∧ c.toNat ≤ 0x39 then some (c.toNat - 0x30) else none
  else (zeroPoints.find? (fun z => z ≤ c.toNat ∧ c.toNat ≤ z + 9)).map (c.toNat - ·)

def isDigit (c : Char) : Bool := (digitValue? c).isSome

/-- The digits that a whole number may be written with at most. -/
def digitLimit : Nat := 4300

/-- Whether a whole number can be written. It cannot if it has too many
digits. -/
@[irreducible]
def isWritable (i : Int) : Bool := i.natAbs < Nat.pow 10 digitLimit

theorem isWritable_of_digit {i : Int} (h : i.natAbs < 10) : isWritable i = true := by
  have hpow (k : Nat) (hk : 0 < k) : 10 ≤ Nat.pow 10 k :=
    Nat.pow_le_pow_right (Nat.succ_pos 9) hk
  unfold isWritable
  exact decide_eq_true (Nat.lt_of_lt_of_le h (hpow digitLimit (by decide)))

/-- The value of a row of digits, read from the left. -/
def digitsValue (cs : List Char) : Nat :=
  cs.foldl (fun n c => 10 * n + (digitValue? c).getD 0) 0

end Minimize.Text
