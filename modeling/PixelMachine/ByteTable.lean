/-!
# Tables with one entry for each byte

Registers and functions are numbered by bytes, so there are 256 of each. A table answers every byte,
and two tables with the same answers are the same table (`ByteTable.ext_get`).
-/

set_option autoImplicit false

namespace PixelMachine

/-- A table with one entry for each byte. -/
structure ByteTable (α : Type) where
  /-- The entries, by byte. -/
  entries : Vector α 256
  deriving DecidableEq

namespace ByteTable

variable {α : Type}

/-- A byte is below 256. -/
theorem toNat_lt (i : UInt8) : i.toNat < 256 := i.toNat_lt

/-- The table with the same entry for every byte. -/
def fill (a : α) : ByteTable α := ⟨Vector.replicate 256 a⟩

/-- The entry of a byte. -/
def get (t : ByteTable α) (i : UInt8) : α :=
  have := toNat_lt i
  t.entries[i.toNat]

/-- The table with another entry for one byte. -/
def set (t : ByteTable α) (i : UInt8) (a : α) : ByteTable α :=
  have := toNat_lt i
  ⟨t.entries.set i.toNat a⟩

/-- All entries, from byte 0 to byte 255. -/
def toList (t : ByteTable α) : List α := t.entries.toList

/-- All bytes with their entries, in the order of the bytes. -/
def pairs (t : ByteTable α) : List (UInt8 × α) :=
  (List.range 256).map fun n => (n.toUInt8, t.get n.toUInt8)

/-- The filled table answers every byte alike. -/
@[simp] theorem get_fill (a : α) (i : UInt8) : (fill a).get i = a := by
  simp [get, fill]

/-- A byte that was set has its new entry. -/
@[simp] theorem get_set_self (t : ByteTable α) (i : UInt8) (a : α) : (t.set i a).get i = a := by
  simp [get, set]

/-- Setting one byte leaves the others alone. -/
theorem get_set_of_ne (t : ByteTable α) {i j : UInt8} (a : α) (h : i ≠ j) :
    (t.set i a).get j = t.get j := by
  have hne : i.toNat ≠ j.toNat := fun heq => h (UInt8.toNat_inj.1 heq)
  simp [get, set, Vector.getElem_set_ne, hne]

/-- Every byte after one was set. -/
theorem get_set (t : ByteTable α) (i j : UInt8) (a : α) :
    (t.set i a).get j = if i = j then a else t.get j := by
  split
  · next h => subst h; exact get_set_self t i a
  · next h => exact get_set_of_ne t a h

/-- Tables with the same answers are equal. -/
theorem ext_get {s t : ByteTable α} (h : ∀ i, s.get i = t.get i) : s = t := by
  obtain ⟨s⟩ := s
  obtain ⟨t⟩ := t
  congr 1
  apply Vector.ext
  intro i hi
  have := h (UInt8.ofNat i)
  simpa [get, UInt8.toNat_ofNat_of_lt' (show i < UInt8.size from hi)] using this

end ByteTable

end PixelMachine
