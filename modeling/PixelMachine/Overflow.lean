/-!
# Overflow

Coordinates and moves are machine words. An operation on words has a result if its exact result is a
word again; otherwise it overflows.
-/

set_option autoImplicit false

namespace PixelMachine

/-- The operations that can overflow. -/
inductive Overflow where
  /-- A sum is no word. -/
  | add
  /-- A product is no word. -/
  | multiply
  /-- The negative of a word is no word. -/
  | negate
  deriving DecidableEq

namespace Overflow

/-- The verb for an operation. -/
def verb : Overflow → String
  | add => "add"
  | multiply => "multiply"
  | negate => "negate"

/-- What is reported of an operation that overflows. -/
def message (o : Overflow) : String := s!"attempt to {o.verb} with overflow"

end Overflow

/-- A signed 64-bit word. -/
def IsSignedWord (n : Int) : Prop := Int64.minValue.toInt ≤ n ∧ n ≤ Int64.maxValue.toInt

instance (n : Int) : Decidable (IsSignedWord n) :=
  inferInstanceAs (Decidable (_ ∧ _))

/-- An unsigned 64-bit word. -/
def IsWord (n : Nat) : Prop := n < UInt64.size

instance (n : Nat) : Decidable (IsWord n) :=
  inferInstanceAs (Decidable (_ < _))

end PixelMachine
