-- The abort flag, and the interrupts that it can stand for. While a frame
-- is open, an interrupt raises the flag; with no frame open, it goes past
-- the flag to whoever handled interrupts before.

namespace Minimize

/-- An abort flag with the number of open frames. -/
structure Interrupt where
  raised : Bool
  frames : Nat
  deriving DecidableEq, Repr

namespace Interrupt

def clear : Interrupt := ⟨false, 0⟩

def abort (f : Interrupt) : Interrupt := { f with raised := true }

def lower (f : Interrupt) : Interrupt := { f with raised := false }

def enter (f : Interrupt) : Interrupt := { f with frames := f.frames + 1 }

/-- The flag with one frame less, if one is open. -/
def leave? (f : Interrupt) : Option Interrupt :=
  if f.frames = 0 then none else some { f with frames := f.frames - 1 }

/-- An interrupt, if a frame is open to take it. -/
def interrupt? (f : Interrupt) : Option Interrupt :=
  if f.frames = 0 then none else some f.abort

end Interrupt

end Minimize
