import PixelMachine.Proofs.StraightLine
import Mathlib.Data.Int.ModEq

/-!
# Chains of calculations

A chain sets a register and then calculates with it, one link after another. Its cells are those of a
straight-line program, so what the machine makes of it is a fold over a store, and this fold only ever writes
to the one register (`Link.foldlM_items`). What the register holds is the fold of the operations over whole
numbers, with the remainder by 256 taken after each of them.

For sums, differences and products it makes no difference when the remainder is taken (`Link.residue_modEq`);
for quotients it does. The main result is `Machine.drive_chain`.
-/

set_option autoImplicit false

namespace PixelMachine

/-- One link of a chain: an operation, and the channel of a pixel that it takes its operand from. -/
structure Link where
  op : Arithmetic
  channel : Channel
  operand : Pixel
  deriving DecidableEq

namespace Link

/-- The byte that the register is combined with. -/
def value (a : Link) : UInt8 := a.operand.get a.channel

/-- The link as an item that works on a register. -/
def item (register : UInt8) (a : Link) : Item :=
  .calculate (a.op.encode a.channel.number) register a.operand

/-- What links make of a whole number. -/
def total (links : List Link) (x : ℤ) : ℤ :=
  links.foldl (fun x a => a.op.exact x a.value.toNat) x

/-- What links make of a whole number when the remainder by 256 is taken after each of them. -/
def residue (links : List Link) (x : ℤ) : ℤ :=
  links.foldl (fun x a => a.op.exact x a.value.toNat % 256) x

end Link

/-- The items that set a register to a channel of a pixel and take it through links. -/
def chain (register : UInt8) (channel : Channel) (operand : Pixel) (links : List Link) : List Item :=
  .setVar channel.number register operand :: links.map (Link.item register)

/-! ## Exact results and remainders -/

/-- Sums, differences and products of congruent numbers are congruent. -/
theorem Arithmetic.exact_modEq {op : Arithmetic} {n x y : ℤ} (hop : op ≠ .div) (h : x ≡ y [ZMOD n])
    (z : ℤ) : op.exact x z ≡ op.exact y z [ZMOD n] := by
  cases op with
  | add => exact h.add_right z
  | sub => exact h.sub_right z
  | mul => exact h.mul_right z
  | div => exact absurd rfl hop

/-- Without divisions, taking the remainder after each link is no different from taking it once. -/
theorem Link.residue_modEq {links : List Link} {x y : ℤ} (hlinks : ∀ a ∈ links, a.op ≠ .div)
    (h : x ≡ y [ZMOD 256]) : residue links x ≡ total links y [ZMOD 256] := by
  induction links generalizing x y with
  | nil => exact h
  | cons a links ih =>
    have hfirst : a.op.exact x a.value.toNat % 256 ≡ a.op.exact y a.value.toNat [ZMOD 256] :=
      (Int.mod_modEq _ _).trans (Arithmetic.exact_modEq (hlinks a List.mem_cons_self) h _)
    exact ih (fun b hb => hlinks b (List.mem_cons_of_mem a hb)) hfirst

/-! ## Links are items -/

/-- A calculation's operand names its operation. -/
theorem Arithmetic.ofBits?_encode_div (op : Arithmetic) (c : Channel) :
    ofBits? (op.encode c.number / 32) = some op := by
  cases op <;> cases c <;> rfl

/-- A calculation's operand names its channel. -/
theorem Pixel.channel?_encode_mod (p : Pixel) (op : Arithmetic) (c : Channel) :
    p.channel? (op.encode c.number % 4) = some (p.get c) := by
  cases op <;> cases c <;> rfl

/-- Of two values for one register the latter stays. -/
theorem Store.set_set (a : Store) (register x y : UInt8) :
    (a.set register x).set register y = a.set register y := by
  have hregisters : (a.registers.set register x).set register y = a.registers.set register y := by
    apply ByteTable.ext_get
    intro i
    simp only [ByteTable.get_set]
    split <;> rfl
  unfold set
  rw [hregisters]

namespace Link

variable {register : UInt8} {links : List Link}

/-- A link is the item that applies its operation to the register. -/
theorem apply_item (a : Link) (store : Store) :
    store.apply (a.item register) =
      (a.op.apply (store.registers.get register) a.value).map (store.set register) := by
  unfold item Store.apply
  simp only [Arithmetic.ofBits?_encode_div, Pixel.channel?_encode_mod]
  rfl

/-- Unless it divides by zero, a link has a value: its exact result modulo 256. -/
theorem exists_apply (a : Link) (x : UInt8) (hdiv : a.op = .div → a.value ≠ 0) :
    ∃ y, a.op.apply x a.value = .ok y ∧ (y.toNat : ℤ) = a.op.exact x.toNat a.value.toNat % 256 := by
  cases happly : a.op.apply x a.value with
  | ok y => exact ⟨y, rfl, (Arithmetic.apply_eq_ok_iff.1 happly).2⟩
  | error fault =>
    obtain ⟨hop, hzero, -⟩ := Arithmetic.apply_eq_error_iff.1 happly
    exact absurd hzero (hdiv hop)

/-- Links that do not divide by zero write to the register and nowhere else. -/
theorem foldlM_items (register : UInt8) (store : Store) (x : UInt8)
    (hdiv : ∀ a ∈ links, a.op = .div → a.value ≠ 0) :
    ∃ y, (links.map (item register)).foldlM Store.apply (store.set register x) =
        .ok (store.set register y) ∧ (y.toNat : ℤ) = residue links x.toNat := by
  induction links generalizing x with
  | nil => exact ⟨x, rfl, rfl⟩
  | cons a links ih =>
    obtain ⟨z, hz, hexact⟩ := a.exists_apply x (hdiv a List.mem_cons_self)
    obtain ⟨y, hy, hrest⟩ := ih z fun b hb => hdiv b (List.mem_cons_of_mem a hb)
    have hfirst : (store.set register x).apply (a.item register) = .ok (store.set register z) := by
      have hregister : (store.set register x).registers.get register = x :=
        ByteTable.get_set_self _ _ _
      rw [apply_item, hregister, hz, Except.map, Store.set_set]
    refine ⟨y, Store.foldlM_cons_eq_ok_iff.2 ⟨_, hfirst, hy⟩, ?_⟩
    rw [hrest, hexact]
    rfl

end Link

/-- A chain that does not divide by zero leaves the store as it was, but for the register. -/
theorem Store.foldlM_chain {register : UInt8} {channel : Channel} {operand : Pixel}
    {links : List Link} (a : Store) (hdiv : ∀ a ∈ links, a.op = .div → a.value ≠ 0) :
    ∃ y, (chain register channel operand links).foldlM apply a = .ok (a.set register y) ∧
      (y.toNat : ℤ) = Link.residue links (operand.get channel).toNat := by
  obtain ⟨y, hy, hresidue⟩ := Link.foldlM_items register a (operand.get channel) hdiv
  have hfirst : a.apply (.setVar channel.number register operand) =
      .ok (a.set register (operand.get channel)) := by
    simp only [apply, Pixel.channel?, Channel.ofNumber?_number, Option.map_some]
  exact ⟨y, foldlM_cons_eq_ok_iff.2 ⟨_, hfirst, hy⟩, hresidue⟩

namespace Machine

/-- Calculations are modulo 256. Take a register that is set to a channel of a pixel, and a chain of links on
it, none of which divides by zero, in a row with a halt after it. The row is a grid unless a word cannot count
it, and on this grid, with any input, the machine is driven to the halt in one step for the set, one for each
link and one for the halt, by any limit that allows them. It is left with all other registers zero, and with
the register at what the links make of its first value when the remainder by 256 is taken after each of them.
If there is no division, that is what they make of it as whole numbers, and the remainder of this. -/
theorem drive_chain (register : UInt8) (channel : Channel) (operand : Pixel) (links : List Link)
    (green blue : UInt8) (hdiv : ∀ a ∈ links, a.op = .div → a.value ≠ 0) :
    let row := layout (chain register channel operand links) ++ [⟨0, green, blue⟩]
    let first : ℤ := (operand.get channel).toNat
    (row.length < UInt64.size → ∃ g, Grid.ofRows [row] = .ok g) ∧
    ∀ g, Grid.ofRows [row] = .ok g → ∀ input limit, limit = 0 ∨ links.length + 2 ≤ limit →
      ∃ d, (new g input).drive limit = some d ∧
      d.result = .ok ⟨links.length + 2, ""⟩ ∧
      d.machine.status = .halted ∧
      ((d.machine.state.register register).toNat : ℤ) = Link.residue links first ∧
      ((∀ a ∈ links, a.op ≠ .div) →
        ((d.machine.state.register register).toNat : ℤ) = Link.total links first % 256) ∧
      ∀ r, r ≠ register → d.machine.state.register r = 0 := by
  intro row first
  refine ⟨Grid.exists_ofRows_singleton (by simp [row]), ?_⟩
  intro g hg input limit hlimit
  have hrow : g.IsRow row := Grid.isRow_of_ofRows hg
  have hlength : (chain register channel operand links).length = links.length + 1 := by simp [chain]
  obtain ⟨y, hitems, hresidue⟩ := (Store.start input).foldlM_chain hdiv
  have hallowed : limit = 0 ∨ (chain register channel operand links).length < limit := by rwa [hlength]
  obtain ⟨d, hd, hresult, hmachine⟩ := drive_of_foldlM hrow hitems hallowed
  have hregister : ∀ r, d.machine.state.register r = if register = r then y else 0 := by
    intro r
    have hstate : d.machine.state = _ := congrArg Machine.state hmachine
    rw [hstate]
    refine (ByteTable.get_set _ register r y).trans ?_
    rw [Store.start, ByteTable.get_fill]
  have hvalue : d.machine.state.register register = y := by rw [hregister, if_pos rfl]
  rw [hlength] at hresult
  refine ⟨d, hd, hresult, congrArg Machine.status hmachine, ?_, ?_, ?_⟩
  · rw [hvalue, hresidue]
  · intro hlinks
    have hmod : (y.toNat : ℤ) ≡ Link.total links first [ZMOD 256] :=
      hresidue ▸ Link.residue_modEq hlinks rfl
    have hlt := y.toNat_lt
    unfold Int.ModEq at hmod
    rw [hvalue]
    omega
  · intro r hr
    rw [hregister, if_neg (Ne.symm hr)]

/-- Two hundred, plus one hundred, divided by seven. -/
def dividedSum : List Link := [⟨.add, .red, ⟨100, 0, 0⟩⟩, ⟨.div, .blue, ⟨0, 0, 7⟩⟩]

/-- Two hundred, plus one hundred, times three, minus seven. -/
def scaledSum : List Link :=
  [⟨.add, .red, ⟨100, 0, 0⟩⟩, ⟨.mul, .green, ⟨0, 3, 0⟩⟩, ⟨.sub, .blue, ⟨0, 0, 7⟩⟩]

/-- Without a division the register holds the remainder of 893. With the division it holds the quotient of 44,
the remainder of the sum, and not that of the sum. -/
theorem drive_chain_sums :
    (∃ g d, Grid.ofRows [layout (chain 9 .green ⟨0, 200, 0⟩ scaledSum) ++ [⟨0, 5, 5⟩]] = .ok g ∧
      (new g .empty).drive 5 = some d ∧ d.result = .ok ⟨5, ""⟩ ∧
      (d.machine.state.register 9).toNat = (893 % 256 : ℤ) ∧ d.machine.state.register 0 = 0) ∧
    ∃ g d, Grid.ofRows [layout (chain 9 .green ⟨0, 200, 0⟩ dividedSum) ++ [⟨0, 5, 5⟩]] = .ok g ∧
      (new g .empty).drive 0 = some d ∧
      (d.machine.state.register 9).toNat = (44 / 7 : ℤ) := by
  obtain ⟨hgrid, hdrive⟩ := drive_chain 9 .green ⟨0, 200, 0⟩ scaledSum 5 5 (by decide)
  obtain ⟨hgrid', hdrive'⟩ := drive_chain 9 .green ⟨0, 200, 0⟩ dividedSum 5 5 (by decide)
  constructor
  · obtain ⟨g, hg⟩ := hgrid (by decide)
    obtain ⟨d, hd, hresult, -, -, htotal, hothers⟩ := hdrive g hg .empty 5 (.inr (by decide))
    exact ⟨g, d, hg, hd, hresult, htotal (by decide), hothers 0 (by decide)⟩
  · obtain ⟨g, hg⟩ := hgrid' (by decide)
    obtain ⟨d, hd, -, -, hresidue, -⟩ := hdrive' g hg .empty 0 (.inl rfl)
    exact ⟨g, d, hg, hd, hresidue⟩

end Machine

end PixelMachine
