import PixelMachine.Event
import PixelMachine.Grid
import PixelMachine.State

/-!
# Handlers

A handler carries out one kind of instruction. It answers with the state after it, with what there is
to report, and with either the control for the machine or the fault that kept it from being carried
out. A handler decides whether it can succeed before it changes anything, so the state after a fault
is the state before it.

Moving the cursor on is not a handler's work; only a call and a return move the cursor, to the place
that it moves on from.
-/

set_option autoImplicit false

namespace PixelMachine

/-- What a machine does after an instruction. -/
inductive Control where
  /-- Move on and keep running. -/
  | continue
  /-- Move on and stop. -/
  | halt
  deriving DecidableEq

/-- What carrying out an instruction comes to. -/
structure Effect where
  /-- The state after it. -/
  state : State
  /-- What there is to report. -/
  events : List Event
  /-- How the machine goes on, or the fault that was raised. -/
  outcome : Except Fault Control

namespace Effect

/-- The instruction was carried out. -/
def done (state : State) (events : List Event) : Effect := ⟨state, events, .ok .continue⟩

/-- The instruction could not be carried out. -/
def raise (state : State) (fault : Fault) : Effect := ⟨state, [], .error fault⟩

/-- The instruction could not be carried out, for a built-in reason. -/
def fail (state : State) (kind : FaultKind) : Effect := raise state (.builtin kind)

end Effect

/-- How one kind of instruction is carried out: with its operands, in a state, on a grid. -/
abbrev Handler : Type := Instruction → State → Grid → Effect

namespace Handler

/-- Stops the run. -/
def halt : Handler := fun _ s _ => ⟨s, [], .ok .halt⟩

/-- Does nothing. -/
def nop : Handler := fun _ s _ => .done s []

/-- The byte of a channel of the pixel that follows the cursor. -/
def lookahead (s : State) (g : Grid) (c : Channel) : UInt8 :=
  (g.read s.location s.direction 1).get c

/-- Copies the channel of the next pixel that the green operand selects into register `b`. -/
def setVar : Handler := fun i s g =>
  match Channel.ofNumber? i.g with
  | some c => .done (s.setRegister i.b (lookahead s g c)) []
  | none => .fail s .invalidParameter

/-- Combines register `b` with a channel of the next pixel and writes the result back. The green
operand holds the operation in its upper three bits and the channel in its lower two. -/
def calculate : Handler := fun i s g =>
  match Arithmetic.ofBits? (i.g >>> 5), Channel.ofNumber? (i.g &&& 3) with
  | some op, some c =>
    match op.apply (s.register i.b) (lookahead s g c) with
    | .ok value => .done (s.setRegister i.b value) []
    | .error fault => .raise s fault
  | _, _ => .fail s .invalidParameter

/-- Binds function `b` to the place of the cursor, with parameter register `g`. -/
def defineFunction : Handler := fun i s _ =>
  .done (s.bindFunction i.b ⟨s.location, i.g⟩) [.functionBound i.b i.g s.location]

/-- Installs a try-handler at the place of the cursor, with destination register `b`. -/
def defineTry : Handler := fun i s _ =>
  .done { s with tryHandler := some ⟨s.location, i.b⟩ }
    [if s.tryHandler.isSome then .tryReplaced s.location else .tryInstalled s.location i.b]

/-- Takes the cursor back to where the latest call was made. -/
def ret : Handler := fun _ s _ =>
  match s.callStack.pop? with
  | some (caller, rest) =>
    .done { s with location := caller, callStack := rest } [.returned caller rest.depth]
  | none => .fail s .noFunctionCalled

/-- Turns a quarter turn if registers `g` and `b` are equal. -/
def branch : Handler := fun i s _ =>
  if s.register i.g = s.register i.b then .done { s with direction := s.direction.rotated } []
  else .done s []

/-- Raises the code in register `g`. -/
def throw : Handler := fun i s _ => .raise s (.user (s.register i.g))

/-- Prints register `b`. -/
def output : Handler := fun i s _ =>
  match s.output.push (s.register i.b) with
  | .ok printed => .done { s with output := printed } []
  | .error fault => .raise s fault

/-- Reads the next input byte into register `b`. -/
def input : Handler := fun i s _ =>
  match s.input.next with
  | .ok (code, rest) => .done ({ s with input := rest }.setRegister i.b code) []
  | .error fault => .raise s fault

/-- Calls function `b`: hands it register `g`, remembers the place of the cursor, and takes the cursor
to the function. -/
def call : Handler := fun i s _ =>
  match s.function? i.b with
  | some slot =>
    let calls := s.callStack.push s.location
    .done
      { s.setRegister slot.param (s.register i.g) with location := slot.location, callStack := calls }
      [.called i.b slot.location calls.depth]
  | none => .fail s .functionUndefined

/-- The handler of a kind of instruction. -/
def ofOpcode : Opcode → Handler
  | .halt => halt
  | .setVar => setVar
  | .calculate => calculate
  | .defineFunction => defineFunction
  | .defineTry => defineTry
  | .ret => ret
  | .branch => branch
  | .throw => throw
  | .output => output
  | .input => input
  | .call => call
  | .nop => nop

/-- All handlers, by the dense index of their kind. -/
def table : Vector Handler Opcode.count := Opcode.all.map ofOpcode

/-- The handler that the table holds for a kind. -/
def lookup (k : Opcode) : Handler :=
  have := k.index.isLt
  table[k.index.val]

/-- The table holds for each kind the handler of that kind. -/
theorem lookup_eq (k : Opcode) : lookup k = ofOpcode k := by
  have h : Opcode.all[k.index.val] = k := Opcode.all_get_index k
  simp [lookup, table, h]

/-! ## Handlers in machine words -/

/-- The overflow that keeps an instruction from being carried out, if there is one: on the way to the
next pixel, or in a turn. -/
def overflow? (i : Instruction) (s : State) (g : Grid) : Option Overflow :=
  let next := g.checkedOffset s.location s.direction 1
  let attempted : Except Overflow Unit := match i.kind with
    | .setVar => if (Channel.ofNumber? i.g).isSome then next.map fun _ => () else .ok ()
    | .calculate =>
      if (Arithmetic.ofBits? (i.g >>> 5)).isSome && (Channel.ofNumber? (i.g &&& 3)).isSome then
        next.map fun _ => ()
      else .ok ()
    | .branch =>
      if s.register i.g = s.register i.b then s.direction.checkedRotated.map fun _ => () else .ok ()
    | _ => .ok ()
  match attempted with
  | .ok () => none
  | .error o => some o

/-- Carries out an instruction, unless its arithmetic overflows. In a run it never does; the state may
be any. -/
def attempt (i : Instruction) (s : State) (g : Grid) : Except Overflow Effect :=
  match overflow? i s g with
  | some o => .error o
  | none => .ok (lookup i.kind i s g)

end Handler

end PixelMachine
