import PixelMachine.Json.Codec
import PixelMachine.Snapshot

/-!
# Documents of machine values

The codecs of pixels, places, instructions, faults, statuses and snapshots.
-/

set_option autoImplicit false

namespace PixelMachine.Json

open Codec

/-- A pixel is the list of its three bytes. -/
instance : Codec Pixel where
  encode p := .list (p.toList.map encode)
  decode
    | .list [r, g, b] => do some ⟨← decode r, ← decode g, ← decode b⟩
    | _ => none

instance : Codec Location where
  encode l := .object [("x", encode l.x), ("y", encode l.y)]
  decode v := do
    match ← allFields? ["x", "y"] v with
    | [x, y] => some ⟨← needed x, ← needed y⟩
    | _ => none

instance : Codec Direction where
  encode d := .object [("dx", encode d.dx), ("dy", encode d.dy)]
  decode v := do
    match ← allFields? ["dx", "dy"] v with
    | [dx, dy] => some ⟨← needed dx, ← needed dy⟩
    | _ => none

instance : Codec Opcode where
  encode k := .string k.name
  decode v := do Opcode.ofName? (← unitCase? v)

instance : Codec Instruction where
  encode i := .object [("kind", encode i.kind), ("g", encode i.g), ("b", encode i.b)]
  decode v := do
    match ← allFields? ["kind", "g", "b"] v with
    | [kind, g, b] => some ⟨← needed kind, ← needed g, ← needed b⟩
    | _ => none

instance : Codec Arithmetic where
  encode op := .string op.name
  decode v := do Arithmetic.ofName? (← unitCase? v)

instance : Codec FaultKind where
  encode kind := .string kind.name
  decode v := do FaultKind.ofName? (← unitCase? v)

instance : Codec Fault where
  encode
    | .builtin kind => .object [("Builtin", encode kind)]
    | .user code => .object [("User", encode code)]
  decode v := do
    match ← contentCase? v with
    | ("Builtin", content) => (decode content).map .builtin
    | ("User", content) => (decode content).map .user
    | _ => none

/-- The status of a machine. The code of a stopped one is a member of an object, which cannot be
written as a list. -/
instance : Codec Status where
  encode
    | .idle => .string "Idle"
    | .running => .string "Running"
    | .halted => .string "Halted"
    | .faulted code => .object [("Faulted", .object [("code", encode code)])]
  decode v :=
    match v with
    | .object [("Faulted", .object members)] => (needed (members.lookup "code")).map .faulted
    | v =>
      match unitCase? v with
      | some "Idle" => some .idle
      | some "Running" => some .running
      | some "Halted" => some .halted
      | _ => none

instance : Codec FunctionSlot where
  encode slot := .object [("location", encode slot.location), ("param", encode slot.param)]
  decode v := do
    match ← allFields? ["location", "param"] v with
    | [location, param] => some ⟨← needed location, ← needed param⟩
    | _ => none

instance : Codec TryHandler where
  encode handler := .object [("location", encode handler.location), ("dest", encode handler.dest)]
  decode v := do
    match ← allFields? ["location", "dest"] v with
    | [location, dest] => some ⟨← needed location, ← needed dest⟩
    | _ => none

/-- A bound function is written as one object with the members of its slot; it is not read from a
list. -/
instance : Codec BoundFunction where
  encode f :=
    .object [("id", encode f.id), ("location", encode f.slot.location),
      ("param", encode f.slot.param)]
  decode
    | .object members => do
      some ⟨← needed (members.lookup "id"), ← needed (members.lookup "location"),
        ← needed (members.lookup "param")⟩
    | _ => none

instance : Codec Snapshot where
  encode s :=
    .object [("status", encode s.status), ("steps", encode s.steps),
      ("location", encode s.location), ("direction", encode s.direction),
      ("registers", encode s.registers), ("functions", encode s.functions),
      ("try_handler", encode s.tryHandler), ("call_depth", encode s.callDepth),
      ("input_position", encode s.inputPosition), ("output", encode s.output)]
  decode v := do
    match ← allFields? ["status", "steps", "location", "direction", "registers", "functions",
      "try_handler", "call_depth", "input_position", "output"] v with
    | [status, steps, location, direction, registers, functions, tryHandler, callDepth,
        inputPosition, output] =>
      some ⟨← needed status, ← needed steps, ← needed location, ← needed direction,
        ← needed registers, ← needed functions, ← maybe tryHandler, ← needed callDepth,
        ← needed inputPosition, ← needed output⟩
    | _ => none

end PixelMachine.Json
