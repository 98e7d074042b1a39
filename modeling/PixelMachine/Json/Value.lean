/-!
# JSON values

A JSON document as a value. A number that is written as an integer and fits in 64 bits, signed or
unsigned, is kept as that integer; any other number is kept as it is written, because nothing in this
library reads fractions. An object keeps its members in their order.
-/

set_option autoImplicit false

namespace PixelMachine.Json

/-- A JSON document. -/
inductive Value where
  | null
  | bool (b : Bool)
  /-- A number that is written as an integer of at most 64 bits. -/
  | int (n : Int)
  /-- Any other number, as it is written. -/
  | decimal (text : String)
  | string (s : String)
  | list (items : List Value)
  /-- The members in their order. -/
  | object (members : List (String × Value))
  deriving Inhabited

namespace Value

/-- A natural number as a document. -/
def nat (n : Nat) : Value := .int n

/-- A byte as a document. -/
def byte (b : UInt8) : Value := .nat b.toNat

/-- The member of an object with a key. -/
def member? (key : String) : Value → Option Value
  | .object members => members.lookup key
  | _ => none

/-- The natural number below `bound` that a number is written as. -/
def natBelow? (bound : Nat) : Value → Option Nat
  | .int (.ofNat n) => if n < bound then some n else none
  | _ => none

/-- The byte that a number is written as. -/
def byte? (v : Value) : Option UInt8 :=
  (v.natBelow? 256).map UInt8.ofNat

/-- The 64-bit word that a number is written as. -/
def word? (v : Value) : Option Nat := v.natBelow? UInt64.size

/-- The signed byte that a number is written as. -/
def signedByte? : Value → Option Int8
  | .int n => if -128 ≤ n ∧ n < 128 then some (Int8.ofInt n) else none
  | _ => none

/-- The text of a string. -/
def string? : Value → Option String
  | .string s => some s
  | _ => none

/-- The items of a list. -/
def list? : Value → Option (List Value)
  | .list items => some items
  | _ => none

/-- A byte is read back from its document. -/
@[simp] theorem byte?_byte (b : UInt8) : (byte b).byte? = some b := by
  have h := b.toNat_lt
  simp [byte, nat, byte?, natBelow?, show b.toNat < 256 from h]

/-- A 64-bit word is read back from its document. -/
theorem word?_nat {n : Nat} (h : n < UInt64.size) : (nat n).word? = some n := by
  unfold nat word? natBelow?
  exact if_pos h

end Value

end PixelMachine.Json
