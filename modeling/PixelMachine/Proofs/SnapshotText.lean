import PixelMachine.Proofs.Documents
import PixelMachine.Proofs.DocumentText
import PixelMachine.Proofs.Driving
import PixelMachine.Proofs.Growth
import PixelMachine.Proofs.Snapshots

/-!
# The text of a snapshot

The document of a snapshot is plain if the numbers in it are 64-bit words (`Json.plain_snapshot`), so it can be
written and read back. They are words for a machine that was driven with a limit that is one: its places are on
a grid whose cells a word can count, and neither its calls nor the codes that it has read outnumber its steps
(`Machine.fits_snapshot_drive`).
-/

set_option autoImplicit false

namespace PixelMachine

namespace Json

open Codec

variable {α : Type} [Codec α]

/-! ## Plain documents -/

/-- The document of a byte is plain. -/
theorem plain_byte (b : UInt8) : (encode b).Plain := by
  have hlt := b.toNat_lt
  exact .int (by omega) (by omega)

/-- The document of a signed byte is plain. -/
theorem plain_signedByte (n : Int8) : (encode n).Plain := by
  have hle := n.le_toInt
  have hlt := n.toInt_lt
  exact .int (by omega) (by omega)

/-- The document of a number is plain if it is a word. -/
theorem plain_word {n : Nat} (h : IsWord n) : (encode n).Plain := by
  have hlt : n < 2 ^ 64 := h
  exact .int (by omega) (by omega)

/-- The document of a list is plain if those of its items are. -/
theorem plain_list {items : List α} (h : ∀ a ∈ items, (encode a).Plain) : (encode items).Plain := by
  refine .list fun v hv => ?_
  obtain ⟨a, ha, rfl⟩ := List.mem_map.1 hv
  exact h a ha

/-- The document of a value that may be absent is plain if that of the value is. -/
theorem plain_option {o : Option α} (h : ∀ a ∈ o, (encode a).Plain) : (encode o).Plain := by
  cases o with
  | none => exact .null
  | some a => exact h a rfl

/-- The document of a place is plain if the coordinates are words. -/
theorem plain_location {l : Location} (h : l.Fits) : (encode l).Plain := by
  refine .object (by simp) ?_
  simpa using ⟨plain_word h.1, plain_word h.2⟩

/-- The document of a direction is plain. -/
theorem plain_direction (d : Direction) : (encode d).Plain := by
  refine .object (by simp) ?_
  simpa using ⟨plain_signedByte d.dx, plain_signedByte d.dy⟩

/-- The document of a status is plain. -/
theorem plain_status (status : Status) : (encode status).Plain := by
  cases status with
  | faulted code =>
    refine .object (by simp) ?_
    simpa using Value.Plain.object (by simp) (by simpa using plain_byte code)
  | _ => exact .string _

/-- The document of a bound function is plain if its place is in words. -/
theorem plain_boundFunction {f : BoundFunction} (h : f.Fits) : (encode f).Plain := by
  refine .object (by simp) ?_
  simpa using ⟨plain_byte f.id, plain_location h, plain_byte f.slot.param⟩

/-- The document of a handler is plain if its place is in words. -/
theorem plain_tryHandler {handler : TryHandler} (h : handler.Fits) : (encode handler).Plain := by
  refine .object (by simp) ?_
  simpa using ⟨plain_location h, plain_byte handler.dest⟩

/-- The document of a snapshot is plain if its numbers are words. -/
theorem plain_snapshot {s : Snapshot} (h : s.Fits) : (encode s).Plain := by
  have hregisters : (encode s.registers).Plain := plain_list fun b _ => plain_byte b
  have hfunctions : (encode s.functions).Plain := plain_list fun f hf => plain_boundFunction (h.functions f hf)
  have htry : (encode s.tryHandler).Plain :=
    plain_option fun handler hhandler => plain_tryHandler (h.tryHandler handler hhandler)
  refine .object (by simp) ?_
  simpa using ⟨plain_status s.status, plain_word h.steps, plain_location h.location,
    plain_direction s.direction, hregisters, hfunctions, htry, plain_word h.callDepth,
    plain_word h.inputPosition, Value.Plain.string s.output⟩

end Json

/-! ## Snapshots of driven machines -/

/-- A place on a grid is in words, for a word can count the cells. -/
theorem Grid.Contains.fits {g : Grid} {l : Location} (h : g.Contains l) : l.Fits := by
  have hsize := g.size_lt
  have hwidth : g.width ≤ g.width * g.height := Nat.le_mul_of_pos_right _ g.height_pos
  have hheight : g.height ≤ g.width * g.height := Nat.le_mul_of_pos_left _ g.width_pos
  exact ⟨Nat.lt_of_lt_of_le h.1 (by omega), Nat.lt_of_lt_of_le h.2 (by omega)⟩

namespace Machine

variable {m : Machine}

/-- All numbers in the snapshot of a machine are words after a number of steps that is one. -/
theorem fits_snapshot_stepN (m : Machine) {k : Nat} (hk : IsWord k) : (m.run.stepN k).snapshot.Fits := by
  have hplaced := m.placed_run_stepN k
  have hsteps : (m.run.stepN k).steps ≤ 0 + k := steps_stepN_le m.run k
  have hword : k < UInt64.size := hk
  have hweight := weight_run_stepN_le m k
  unfold State.weight at hweight
  exact {
    steps := show (m.run.stepN k).steps < UInt64.size by omega
    location := hplaced.cursor.fits
    functions := fun f hf => (hplaced.functions f.id f.slot (State.mem_boundFunctions_iff.1 hf)).1.fits
    tryHandler := fun handler hhandler => (hplaced.tryHandler handler hhandler).1.fits
    callDepth := show (m.run.stepN k).state.callStack.depth < UInt64.size by omega
    inputPosition := show (m.run.stepN k).state.input.position < UInt64.size by omega }

/-- So they are at the end of a drive with a limit that is a word. -/
theorem fits_snapshot_drive {limit : Nat} {d : Drive} (hlimit : limit ≠ 0) (hword : IsWord limit)
    (h : m.drive limit = some d) : d.machine.snapshot.Fits := by
  obtain ⟨k, hk, hmachine⟩ := drive_machine h
  rw [hmachine]
  exact m.fits_snapshot_stepN (Nat.lt_of_le_of_lt (hk.resolve_left hlimit) hword)

end Machine

end PixelMachine
