/-!
# Pixels

A painted program is made of pixels: three bytes, one for each colour channel. The red byte of a
pixel says which instruction it is; its green and blue bytes, and the channels of the pixel that
follows it, are what the instruction works on. Channels are numbered from one.
-/

set_option autoImplicit false

namespace PixelMachine

/-- One colour cell: a red, a green and a blue byte. -/
@[ext] structure Pixel where
  /-- The red byte. -/
  red : UInt8
  /-- The green byte. -/
  green : UInt8
  /-- The blue byte. -/
  blue : UInt8
  deriving DecidableEq, Inhabited

/-- A colour channel of a pixel. -/
inductive Channel where
  | red
  | green
  | blue
  deriving DecidableEq

namespace Channel

/-- The number under which a channel is selected: red is 1, green is 2, blue is 3. -/
def number : Channel → UInt8
  | red => 1
  | green => 2
  | blue => 3

/-- The channel that a number selects, if it is one of 1, 2 and 3. -/
def ofNumber? (n : UInt8) : Option Channel :=
  if n = 1 then some red
  else if n = 2 then some green
  else if n = 3 then some blue
  else none

/-- Every channel is the one that its own number selects. -/
theorem ofNumber?_number (c : Channel) : ofNumber? c.number = some c := by
  cases c <;> rfl

/-- A number selects a channel exactly if it is that channel's number. -/
theorem ofNumber?_eq_some_iff {n : UInt8} {c : Channel} : ofNumber? n = some c ↔ n = c.number := by
  constructor
  · intro h
    unfold ofNumber? at h
    split at h
    · cases h; assumption
    · split at h
      · cases h; assumption
      · split at h
        · cases h; assumption
        · cases h
  · rintro rfl
    exact ofNumber?_number c

end Channel

namespace Pixel

/-- The byte of one channel. -/
def get (p : Pixel) : Channel → UInt8
  | .red => p.red
  | .green => p.green
  | .blue => p.blue

/-- The byte of the channel with a number, if there is such a channel. -/
def channel? (p : Pixel) (n : UInt8) : Option UInt8 :=
  (Channel.ofNumber? n).map p.get

/-- The three bytes, in the order red, green, blue. -/
def toList (p : Pixel) : List UInt8 :=
  [p.red, p.green, p.blue]

end Pixel

end PixelMachine
