import PixelMachine.Handler
import Mathlib.Data.Int.Notation

/-!
# What instructions do

`Executes g s i t` says when an instruction `i` can be carried out in a state `s` on a grid `g`, and
that it leads to the state `t`, with the cursor not yet moved on. There is one rule for each kind of
instruction, two for a branch and none for a throw, and each rule names everything that changes. The
rules are about numbers: a calculation is read off its green byte by division and remainder, and its
value is the exact result, brought back below 256.

The handlers do what the rules say. A handler that succeeds leads to the state of a rule, and one that fails
leaves the state as it was (`Handler.lookup_lawful`). Every rule is a success of its handler
(`Executes.outcome_lookup`), so an instruction leads from a state to one state only (`Executes.unique`).
-/

set_option autoImplicit false

namespace PixelMachine

/-! ## Operands as numbers -/

namespace Arithmetic

/-- The exact result of an operation on whole numbers; a division rounds down. -/
def exact : Arithmetic → ℤ → ℤ → ℤ
  | add, x, y => x + y
  | sub, x, y => x - y
  | mul, x, y => x * y
  | div, x, y => x / y

/-- A number stands for an operation exactly if it is that operation's bits. -/
theorem ofBits?_eq_some_iff {n : UInt8} {op : Arithmetic} : ofBits? n = some op ↔ n = op.bits := by
  constructor
  · intro h
    have hbits := List.find?_some h
    exact (eq_of_beq hbits).symm
  · rintro rfl
    exact ofBits?_bits op

/-- The upper three bits of a byte are its quotient by 32. -/
theorem ofBits?_shiftRight_eq_some_iff {green : UInt8} {op : Arithmetic} :
    ofBits? (green >>> 5) = some op ↔ green.toNat / 32 = op.bits.toNat := by
  have hshift : (green >>> 5).toNat = green.toNat / 32 := by
    rw [UInt8.toNat_shiftRight]
    exact Nat.shiftRight_eq_div_pow green.toNat 5
  rw [ofBits?_eq_some_iff, ← UInt8.toNat_inj, hshift]

/-- The operation of a byte is the one that its quotient by 32 stands for. -/
theorem ofBits?_div_eq_some_iff {green : UInt8} {op : Arithmetic} :
    ofBits? (green / 32) = some op ↔ green.toNat / 32 = op.bits.toNat := by
  rw [ofBits?_eq_some_iff, ← UInt8.toNat_inj, UInt8.toNat_div]
  rfl

/-- The value of an operation is its exact result modulo 256, unless the operation divides by zero. -/
theorem apply_eq_ok_iff {op : Arithmetic} {x y value : UInt8} :
    op.apply x y = .ok value ↔
      (op = .div → y ≠ 0) ∧ (value.toNat : ℤ) = op.exact x.toNat y.toNat % 256 := by
  have hx := x.toNat_lt
  have hy := y.toNat_lt
  have hv := value.toNat_lt
  cases op with
  | add =>
    have hsum := UInt8.toNat_add x y
    simp only [apply, exact, Except.ok.injEq, ← UInt8.toNat_inj, reduceCtorEq, false_implies,
      true_and]
    omega
  | sub =>
    have hdiff := UInt8.toNat_sub x y
    simp only [apply, exact, Except.ok.injEq, ← UInt8.toNat_inj, reduceCtorEq, false_implies,
      true_and]
    omega
  | mul =>
    have hprod := UInt8.toNat_mul x y
    simp only [apply, exact, Except.ok.injEq, ← UInt8.toNat_inj, reduceCtorEq, false_implies,
      true_and, ← Int.natCast_mul]
    omega
  | div =>
    by_cases hzero : y = 0
    · simp [apply, hzero]
    · have hquot := UInt8.toNat_div x y
      have hle := Nat.div_le_self x.toNat y.toNat
      simp only [apply, exact, hzero, if_false, Except.ok.injEq, ← UInt8.toNat_inj, ne_eq,
        not_false_eq_true, implies_true, true_and, ← Int.natCast_ediv]
      omega

end Arithmetic

/-- The lower two bits of a byte are its remainder by 4. -/
theorem Channel.ofNumber?_and_eq_some_iff {green : UInt8} {c : Channel} :
    Channel.ofNumber? (green &&& 3) = some c ↔ green.toNat % 4 = c.number.toNat := by
  have hmask : (green &&& 3).toNat = green.toNat % 4 := by
    rw [UInt8.toNat_and]
    exact Nat.and_two_pow_sub_one_eq_mod green.toNat 2
  rw [Channel.ofNumber?_eq_some_iff, ← UInt8.toNat_inj, hmask]

/-- The channel of a byte is the one that its remainder by 4 selects. -/
theorem Channel.ofNumber?_mod_eq_some_iff {green : UInt8} {c : Channel} :
    Channel.ofNumber? (green % 4) = some c ↔ green.toNat % 4 = c.number.toNat := by
  rw [ofNumber?_eq_some_iff, ← UInt8.toNat_inj, UInt8.toNat_mod]
  rfl

/-- A code can be printed exactly if it is a number from 32 to 126. -/
theorem Output.printable_iff {code : UInt8} :
    Output.Printable code ↔ 32 ≤ code.toNat ∧ code.toNat ≤ 126 :=
  Iff.rfl

/-! ## Rules of execution -/

/-- The cell that follows the cursor along its direction. -/
def State.ahead (s : State) (g : Grid) : Pixel := g.read s.location s.direction 1

/-- On the grid `g`, the instruction can be carried out in the state `s` and leads to the last state; the
cursor has not moved on yet. -/
inductive Executes (g : Grid) (s : State) : Instruction → State → Prop where
  /-- A halt changes nothing. -/
  | halt (green blue : UInt8) : Executes g s ⟨.halt, green, blue⟩ s
  /-- A set copies the channel with the number `green` of the cell ahead into register `blue`. -/
  | setVar {green blue : UInt8} (c : Channel) (hchannel : green = c.number) :
      Executes g s ⟨.setVar, green, blue⟩ (s.setRegister blue ((s.ahead g).get c))
  /-- A calculation combines register `blue` with a channel of the cell ahead, modulo 256. -/
  | calculate {green blue value : UInt8} (op : Arithmetic) (c : Channel)
      (hop : green.toNat / 32 = op.bits.toNat) (hchannel : green.toNat % 4 = c.number.toNat)
      (hdiv : op = .div → (s.ahead g).get c ≠ 0)
      (hvalue : (value.toNat : ℤ) =
        op.exact (s.register blue).toNat ((s.ahead g).get c).toNat % 256) :
      Executes g s ⟨.calculate, green, blue⟩ (s.setRegister blue value)
  /-- A definition binds function `blue` to the place of the cursor, with parameter `green`. -/
  | defineFunction (green blue : UInt8) :
      Executes g s ⟨.defineFunction, green, blue⟩ (s.bindFunction blue ⟨s.location, green⟩)
  /-- A try makes the place of the cursor, with register `blue`, the pending handler. -/
  | defineTry (green blue : UInt8) :
      Executes g s ⟨.defineTry, green, blue⟩ { s with tryHandler := some ⟨s.location, blue⟩ }
  /-- A return takes the latest call off and the cursor back to it. -/
  | ret {green blue : UInt8} (caller : Location) (rest : CallStack)
      (hcalls : s.callStack = rest.push caller) :
      Executes g s ⟨.ret, green, blue⟩ { s with location := caller, callStack := rest }
  /-- A branch on equal registers turns once: `(dx, dy)` becomes `(-dy, dx)`. -/
  | turn {green blue : UInt8} (heq : s.register green = s.register blue) :
      Executes g s ⟨.branch, green, blue⟩ { s with direction := ⟨-s.direction.dy, s.direction.dx⟩ }
  /-- A branch on different registers changes nothing. -/
  | pass {green blue : UInt8} (hne : s.register green ≠ s.register blue) :
      Executes g s ⟨.branch, green, blue⟩ s
  /-- An output appends the character whose code is in register `blue`. -/
  | output {green blue : UInt8}
      (hprint : 32 ≤ (s.register blue).toNat ∧ (s.register blue).toNat ≤ 126) :
      Executes g s ⟨.output, green, blue⟩
        { s with output := ⟨s.output.text.push (Char.ofNat (s.register blue).toNat)⟩ }
  /-- An input puts the next code into register `blue`. -/
  | input {green blue : UInt8} (code : UInt8) (hcode : s.input.codes[s.input.position]? = some code) :
      Executes g s ⟨.input, green, blue⟩
        { s.setRegister blue code with
          input := { s.input with position := s.input.position + 1 } }
  /-- A call hands register `green` over as the parameter, remembers the place of the cursor, and takes
  the cursor to function `blue`. -/
  | call {green blue : UInt8} (slot : FunctionSlot) (hslot : s.function? blue = some slot) :
      Executes g s ⟨.call, green, blue⟩
        { s.setRegister slot.param (s.register green) with
          location := slot.location, callStack := s.callStack.push s.location }
  /-- A nop changes nothing. -/
  | nop (green blue : UInt8) : Executes g s ⟨.nop, green, blue⟩ s

/-- How a machine goes on after an instruction of a kind that was carried out. -/
def Control.after (k : Opcode) : Control :=
  if k = .halt then .halt else .continue

/-! ## Handlers -/

/-- What a handler owes: if it succeeds, its state is that of a rule and the machine goes on as the kind of
the instruction says; if it fails, its state is the one that it was given. -/
structure Effect.Lawful (e : Effect) (g : Grid) (s : State) (i : Instruction) : Prop where
  executes : ∀ control, e.outcome = .ok control → Executes g s i e.state
  control_eq : ∀ control, e.outcome = .ok control → control = Control.after i.kind
  state_eq : ∀ fault, e.outcome = .error fault → e.state = s

namespace Effect.Lawful

variable {g : Grid} {s t : State} {i : Instruction}

/-- A success that leads to the state of a rule is lawful, unless it should stop the machine. -/
theorem done {events : List Event} (h : Executes g s i t)
    (hcontinue : Control.after i.kind = .continue) : (Effect.done t events).Lawful g s i where
  executes _ _ := h
  control_eq control hc := by
    rw [hcontinue]
    exact (Except.ok.inj hc).symm
  state_eq _ hf := by cases hf

/-- A failure that leaves the state alone is lawful. -/
theorem raise (fault : Fault) : (Effect.raise s fault).Lawful g s i where
  executes _ hc := by cases hc
  control_eq _ hc := by cases hc
  state_eq _ _ := rfl

end Effect.Lawful

namespace Handler

variable (green blue : UInt8) (s : State) (g : Grid)

/-- Halting is lawful. -/
theorem halt_lawful : (halt ⟨.halt, green, blue⟩ s g).Lawful g s ⟨.halt, green, blue⟩ where
  executes _ _ := .halt green blue
  control_eq _ hc := (Except.ok.inj hc).symm
  state_eq _ hf := by cases hf

/-- Doing nothing is lawful. -/
theorem nop_lawful : (nop ⟨.nop, green, blue⟩ s g).Lawful g s ⟨.nop, green, blue⟩ :=
  .done (.nop green blue) rfl

/-- Setting a register is lawful. -/
theorem setVar_lawful : (setVar ⟨.setVar, green, blue⟩ s g).Lawful g s ⟨.setVar, green, blue⟩ := by
  unfold setVar
  cases hc : Channel.ofNumber? green with
  | none => exact .raise _
  | some c => exact .done (.setVar c (Channel.ofNumber?_eq_some_iff.1 hc)) rfl

/-- Calculating is lawful, with any of the operations. -/
theorem calculate_lawful :
    (calculate ⟨.calculate, green, blue⟩ s g).Lawful g s ⟨.calculate, green, blue⟩ := by
  unfold calculate
  cases hop : Arithmetic.ofBits? (green >>> 5) with
  | none => exact .raise _
  | some op =>
    cases hc : Channel.ofNumber? (green &&& 3) with
    | none => exact .raise _
    | some c =>
      cases hv : op.apply (s.register blue) (lookahead s g c) with
      | error fault => simpa only [hv] using .raise fault
      | ok value =>
        obtain ⟨hdiv, hvalue⟩ := Arithmetic.apply_eq_ok_iff.1 hv
        have hexec : Executes g s ⟨.calculate, green, blue⟩ (s.setRegister blue value) :=
          .calculate op c (Arithmetic.ofBits?_shiftRight_eq_some_iff.1 hop)
            (Channel.ofNumber?_and_eq_some_iff.1 hc) hdiv hvalue
        simpa only [hv] using Effect.Lawful.done hexec rfl

/-- Defining a function is lawful. -/
theorem defineFunction_lawful :
    (defineFunction ⟨.defineFunction, green, blue⟩ s g).Lawful g s
      ⟨.defineFunction, green, blue⟩ :=
  .done (.defineFunction green blue) rfl

/-- Defining a handler is lawful. -/
theorem defineTry_lawful :
    (defineTry ⟨.defineTry, green, blue⟩ s g).Lawful g s ⟨.defineTry, green, blue⟩ :=
  .done (.defineTry green blue) rfl

/-- Returning is lawful, with or without a call to return from. -/
theorem ret_lawful : (ret ⟨.ret, green, blue⟩ s g).Lawful g s ⟨.ret, green, blue⟩ := by
  unfold ret
  cases hc : s.callStack.pop? with
  | none => exact .raise _
  | some top =>
    obtain ⟨caller, rest⟩ := top
    exact .done (.ret caller rest (CallStack.pop?_eq_some_iff.1 hc)) rfl

/-- Branching is lawful, whether it turns or not. -/
theorem branch_lawful : (branch ⟨.branch, green, blue⟩ s g).Lawful g s ⟨.branch, green, blue⟩ := by
  unfold branch
  split
  · next heq => exact .done (.turn heq) rfl
  · next hne => exact .done (.pass hne) rfl

/-- Throwing is lawful. -/
theorem throw_lawful : (throw ⟨.throw, green, blue⟩ s g).Lawful g s ⟨.throw, green, blue⟩ :=
  .raise _

/-- Printing is lawful, whether the code can be printed or not. -/
theorem output_lawful : (output ⟨.output, green, blue⟩ s g).Lawful g s ⟨.output, green, blue⟩ := by
  unfold output
  cases hpush : s.output.push (s.register blue) with
  | error fault => simpa only [hpush] using .raise fault
  | ok printed =>
    obtain ⟨hprint, rfl⟩ := Output.push_eq_ok_iff.1 hpush
    have hexec : Executes g s ⟨.output, green, blue⟩
        { s with output := s.output.append (s.register blue) } :=
      .output (Output.printable_iff.1 hprint)
    simpa only [hpush] using Effect.Lawful.done hexec rfl

/-- Reading a code is lawful, with or without codes left. -/
theorem input_lawful : (input ⟨.input, green, blue⟩ s g).Lawful g s ⟨.input, green, blue⟩ := by
  unfold input Input.next
  cases hc : s.input.codes[s.input.position]? with
  | none => exact .raise _
  | some code => exact .done (.input code hc) rfl

/-- Calling is lawful, whether the function is bound or not. -/
theorem call_lawful : (call ⟨.call, green, blue⟩ s g).Lawful g s ⟨.call, green, blue⟩ := by
  unfold call
  cases hslot : s.function? blue with
  | none => exact .raise _
  | some slot => exact .done (.call slot hslot) rfl

/-- Whatever the kind of an instruction, the handler that the table holds for it is lawful. -/
theorem lookup_lawful (i : Instruction) : (lookup i.kind i s g).Lawful g s i := by
  obtain ⟨kind, green, blue⟩ := i
  rw [lookup_eq]
  cases kind with
  | halt => exact halt_lawful green blue s g
  | setVar => exact setVar_lawful green blue s g
  | calculate => exact calculate_lawful green blue s g
  | defineFunction => exact defineFunction_lawful green blue s g
  | defineTry => exact defineTry_lawful green blue s g
  | ret => exact ret_lawful green blue s g
  | branch => exact branch_lawful green blue s g
  | throw => exact throw_lawful green blue s g
  | output => exact output_lawful green blue s g
  | input => exact input_lawful green blue s g
  | call => exact call_lawful green blue s g
  | nop => exact nop_lawful green blue s g

end Handler

/-- Every rule is a success of its handler, with the state of the rule. -/
theorem Executes.outcome_lookup {g : Grid} {s t : State} {i : Instruction} (h : Executes g s i t) :
    (Handler.lookup i.kind i s g).outcome = .ok (Control.after i.kind) ∧
      (Handler.lookup i.kind i s g).state = t := by
  rw [Handler.lookup_eq]
  cases h with
  | halt green blue => exact ⟨rfl, rfl⟩
  | setVar c hchannel =>
    rw [← Channel.ofNumber?_eq_some_iff] at hchannel
    simp only [Handler.ofOpcode, Handler.setVar, hchannel]
    exact ⟨rfl, rfl⟩
  | calculate op c hop hchannel hdiv hvalue =>
    rw [← Arithmetic.ofBits?_shiftRight_eq_some_iff] at hop
    rw [← Channel.ofNumber?_and_eq_some_iff] at hchannel
    have happly : op.apply (s.register _) (Handler.lookahead s g c) = .ok _ :=
      Arithmetic.apply_eq_ok_iff.2 ⟨hdiv, hvalue⟩
    simp only [Handler.ofOpcode, Handler.calculate, hop, hchannel, happly]
    exact ⟨rfl, rfl⟩
  | defineFunction green blue => exact ⟨rfl, rfl⟩
  | defineTry green blue => exact ⟨rfl, rfl⟩
  | ret caller rest hcalls =>
    rw [← CallStack.pop?_eq_some_iff] at hcalls
    simp only [Handler.ofOpcode, Handler.ret, hcalls]
    exact ⟨rfl, rfl⟩
  | turn heq =>
    simp only [Handler.ofOpcode, Handler.branch, if_pos heq]
    exact ⟨rfl, rfl⟩
  | pass hne =>
    simp only [Handler.ofOpcode, Handler.branch, if_neg hne]
    exact ⟨rfl, rfl⟩
  | output hprint =>
    rw [← Output.printable_iff] at hprint
    have hpush : s.output.push (s.register _) = .ok _ := Output.push_eq_ok_iff.2 ⟨hprint, rfl⟩
    simp only [Handler.ofOpcode, Handler.output, hpush]
    exact ⟨rfl, rfl⟩
  | input code hcode =>
    simp only [Handler.ofOpcode, Handler.input, Input.next, hcode]
    exact ⟨rfl, rfl⟩
  | call slot hslot =>
    simp only [Handler.ofOpcode, Handler.call, hslot]
    exact ⟨rfl, rfl⟩
  | nop green blue => exact ⟨rfl, rfl⟩

/-- An instruction leads from a state to one state only. -/
theorem Executes.unique {g : Grid} {s t u : State} {i : Instruction} (ht : Executes g s i t)
    (hu : Executes g s i u) : t = u :=
  ht.outcome_lookup.2.symm.trans hu.outcome_lookup.2

end PixelMachine
