import PixelMachine.Proofs.Placement

/-!
# When instructions fail

`Fails g s i fault` says when an instruction `i` cannot be carried out in a state `s` on a grid `g`, and
which fault it raises. There is one rule for each reason; a calculation has two, and a halt, the two
definitions, a branch and a nop have none.

Together with the rules of execution these are all cases: an instruction is carried out or fails
(`executes_or_fails`), and what the handler of its kind answers decides which
(`Handler.outcome_eq_error_iff`). So it never does both, and a pixel raises a fault if it is no
instruction or if there is a rule for its failure (`Deed.ofPixel_eq_raised_iff_fails`).

The main result, `Handler.lookup_fault`, has the rules of failure as a table over the kinds of
instruction and the numbers of their operands, and adds that a handler that fails has changed nothing.
-/

set_option autoImplicit false

namespace PixelMachine

/-- Of the operations on bytes, only a division by zero fails. -/
theorem Arithmetic.apply_eq_error_iff {op : Arithmetic} {x y : UInt8} {fault : Fault} :
    op.apply x y = .error fault ↔ op = .div ∧ y = 0 ∧ fault = .builtin .divideByZero := by
  cases op with
  | div => by_cases hzero : y = 0 <;> simp [apply, hzero, eq_comm]
  | _ => simp [apply]

/-- On the grid `g`, the instruction cannot be carried out in the state `s`, and this is its fault. -/
inductive Fails (g : Grid) (s : State) : Instruction → Fault → Prop where
  /-- A set whose number `green` selects no channel. -/
  | setVar {green blue : UInt8} (hchannel : ∀ c : Channel, green ≠ c.number) :
      Fails g s ⟨.setVar, green, blue⟩ (.builtin .invalidParameter)
  /-- A calculation whose number `green` names no operation, or selects no channel. -/
  | calculate {green blue : UInt8}
      (hparameter : (∀ op : Arithmetic, green.toNat / 32 ≠ op.bits.toNat) ∨
        ∀ c : Channel, green.toNat % 4 ≠ c.number.toNat) :
      Fails g s ⟨.calculate, green, blue⟩ (.builtin .invalidParameter)
  /-- A division by a channel of the cell ahead that is zero. -/
  | divide {green blue : UInt8} (c : Channel) (hop : green.toNat / 32 = Arithmetic.div.bits.toNat)
      (hchannel : green.toNat % 4 = c.number.toNat) (hzero : (s.ahead g).get c = 0) :
      Fails g s ⟨.calculate, green, blue⟩ (.builtin .divideByZero)
  /-- A return when no call is in progress. -/
  | ret {green blue : UInt8} (hcalls : s.callStack = .empty) :
      Fails g s ⟨.ret, green, blue⟩ (.builtin .noFunctionCalled)
  /-- Every throw, with the code in register `green`. -/
  | throw (green blue : UInt8) : Fails g s ⟨.throw, green, blue⟩ (.user (s.register green))
  /-- An output of a code that cannot be printed. -/
  | output {green blue : UInt8}
      (hprint : ¬ (32 ≤ (s.register blue).toNat ∧ (s.register blue).toNat ≤ 126)) :
      Fails g s ⟨.output, green, blue⟩ (.builtin .outputNonAscii)
  /-- An input when all codes are read. -/
  | input {green blue : UInt8} (hcode : s.input.codes[s.input.position]? = none) :
      Fails g s ⟨.input, green, blue⟩ (.builtin .inputStreamEmpty)
  /-- A call of a function that is not bound. -/
  | call {green blue : UInt8} (hslot : s.function? blue = none) :
      Fails g s ⟨.call, green, blue⟩ (.builtin .functionUndefined)

variable {g : Grid} {s t : State} {i : Instruction} {fault : Fault}

/-- Every rule of failure is a failure of the handler. -/
theorem Fails.outcome_lookup (h : Fails g s i fault) :
    (Handler.lookup i.kind i s g).outcome = .error fault := by
  rw [Handler.lookup_eq]
  cases h with
  | @setVar green blue hchannel =>
    have hnone : Channel.ofNumber? green = none := by
      rw [Option.eq_none_iff_forall_ne_some]
      intro c hc
      exact hchannel c (Channel.ofNumber?_eq_some_iff.1 hc)
    simp only [Handler.ofOpcode, Handler.setVar, hnone]
    rfl
  | @calculate green blue hparameter =>
    have hnone : Arithmetic.ofBits? (green >>> 5) = none ∨ Channel.ofNumber? (green &&& 3) = none := by
      rcases hparameter with hop | hchannel
      · left
        rw [Option.eq_none_iff_forall_ne_some]
        intro op h
        exact hop op (Arithmetic.ofBits?_shiftRight_eq_some_iff.1 h)
      · right
        rw [Option.eq_none_iff_forall_ne_some]
        intro c h
        exact hchannel c (Channel.ofNumber?_and_eq_some_iff.1 h)
    simp only [Handler.ofOpcode, Handler.calculate]
    rcases hnone with hnone | hnone
    · simp only [hnone]
      rfl
    · simp only [hnone]
      cases Arithmetic.ofBits? (green >>> 5) <;> rfl
  | divide c hop hchannel hzero =>
    rw [← Arithmetic.ofBits?_shiftRight_eq_some_iff] at hop
    rw [← Channel.ofNumber?_and_eq_some_iff] at hchannel
    have hlookahead : Handler.lookahead s g c = 0 := hzero
    simp only [Handler.ofOpcode, Handler.calculate, hop, hchannel, hlookahead, Arithmetic.apply,
      if_true]
    rfl
  | ret hcalls =>
    rw [← CallStack.pop?_eq_none_iff] at hcalls
    simp only [Handler.ofOpcode, Handler.ret, hcalls]
    rfl
  | throw green blue => rfl
  | output hprint =>
    rw [← Output.printable_iff] at hprint
    have hpush : s.output.push (s.register _) = .error _ := Output.push_eq_error_iff.2 ⟨hprint, rfl⟩
    simp only [Handler.ofOpcode, Handler.output, hpush]
    rfl
  | input hcode =>
    simp only [Handler.ofOpcode, Handler.input, Input.next, hcode]
    rfl
  | call hslot =>
    simp only [Handler.ofOpcode, Handler.call, hslot]
    rfl

/-- There is a rule for every instruction in every state. -/
theorem executes_or_fails (g : Grid) (s : State) (i : Instruction) :
    (∃ t, Executes g s i t) ∨ ∃ fault, Fails g s i fault := by
  obtain ⟨kind, green, blue⟩ := i
  cases kind with
  | halt => exact .inl ⟨_, .halt green blue⟩
  | setVar =>
    by_cases hchannel : ∃ c : Channel, green = c.number
    · obtain ⟨c, hc⟩ := hchannel
      exact .inl ⟨_, .setVar c hc⟩
    · exact .inr ⟨_, .setVar (not_exists.1 hchannel)⟩
  | calculate =>
    by_cases hop : ∃ op : Arithmetic, green.toNat / 32 = op.bits.toNat
    · by_cases hchannel : ∃ c : Channel, green.toNat % 4 = c.number.toNat
      · obtain ⟨op, hop⟩ := hop
        obtain ⟨c, hchannel⟩ := hchannel
        cases happly : op.apply (s.register blue) ((s.ahead g).get c) with
        | ok value =>
          obtain ⟨hdiv, hvalue⟩ := Arithmetic.apply_eq_ok_iff.1 happly
          exact .inl ⟨_, .calculate op c hop hchannel hdiv hvalue⟩
        | error fault =>
          obtain ⟨rfl, hzero, -⟩ := Arithmetic.apply_eq_error_iff.1 happly
          exact .inr ⟨_, .divide c hop hchannel hzero⟩
      · exact .inr ⟨_, .calculate (.inr (not_exists.1 hchannel))⟩
    · exact .inr ⟨_, .calculate (.inl (not_exists.1 hop))⟩
  | defineFunction => exact .inl ⟨_, .defineFunction green blue⟩
  | defineTry => exact .inl ⟨_, .defineTry green blue⟩
  | ret =>
    cases hcalls : s.callStack.pop? with
    | none => exact .inr ⟨_, .ret (CallStack.pop?_eq_none_iff.1 hcalls)⟩
    | some top => exact .inl ⟨_, .ret top.1 top.2 (CallStack.pop?_eq_some_iff.1 hcalls)⟩
  | branch =>
    by_cases heq : s.register green = s.register blue
    · exact .inl ⟨_, .turn heq⟩
    · exact .inl ⟨_, .pass heq⟩
  | throw => exact .inr ⟨_, .throw green blue⟩
  | output =>
    by_cases hprint : 32 ≤ (s.register blue).toNat ∧ (s.register blue).toNat ≤ 126
    · exact .inl ⟨_, .output hprint⟩
    · exact .inr ⟨_, .output hprint⟩
  | input =>
    cases hcode : s.input.codes[s.input.position]? with
    | none => exact .inr ⟨_, .input hcode⟩
    | some code => exact .inl ⟨_, .input code hcode⟩
  | call =>
    cases hslot : s.function? blue with
    | none => exact .inr ⟨_, .call hslot⟩
    | some slot => exact .inl ⟨_, .call slot hslot⟩
  | nop => exact .inl ⟨_, .nop green blue⟩

/-- The handlers fail by the rules of failure, and never otherwise. -/
theorem Handler.outcome_eq_error_iff :
    (Handler.lookup i.kind i s g).outcome = .error fault ↔ Fails g s i fault := by
  refine ⟨fun h => ?_, Fails.outcome_lookup⟩
  rcases executes_or_fails g s i with ⟨t, hexec⟩ | ⟨other, hfails⟩
  · cases h.symm.trans hexec.outcome_lookup.1
  · obtain rfl : fault = other := Except.error.inj (h.symm.trans hfails.outcome_lookup)
    exact hfails

/-! ## Pixels that raise faults -/

/-- A pixel is no instruction exactly if its red byte is no opcode. -/
theorem Instruction.decode_eq_error_iff {p : Pixel} :
    Instruction.decode p = .error fault ↔
      Opcode.ofByte? p.red = none ∧ fault = .builtin .invalidInstruction := by
  unfold Instruction.decode
  cases Opcode.ofByte? p.red with
  | none => simp [eq_comm]
  | some kind => simp

/-- A fault is raised by a pixel that is no instruction, and by an instruction that fails. -/
theorem Deed.ofPixel_eq_raised_iff_fails {p : Pixel} :
    Deed.ofPixel p s g = .raised fault ↔
      (Opcode.ofByte? p.red = none ∧ fault = .builtin .invalidInstruction) ∨
        ∃ i : Instruction, p = i.toPixel ∧ Fails g s i fault := by
  simp only [Deed.ofPixel_eq_raised_iff, Instruction.decode_eq_error_iff, Instruction.decode_eq_ok_iff,
    Handler.outcome_eq_error_iff]

/-! ## The table of faults -/

/-- The numbers of the channels are one to three. -/
theorem Channel.forall_ne_number_iff {n : UInt8} : (∀ c : Channel, n ≠ c.number) ↔ n ∉ [1, 2, 3] := by
  simp only [List.mem_cons, List.not_mem_nil, or_false, not_or]
  constructor
  · intro h
    exact ⟨h .red, h .green, h .blue⟩
  · rintro ⟨hred, hgreen, hblue⟩ c
    cases c <;> assumption

/-- Only remainders of zero name no channel. -/
theorem Channel.forall_mod_ne_number_iff {n : Nat} :
    (∀ c : Channel, n % 4 ≠ c.number.toNat) ↔ n % 4 = 0 := by
  constructor
  · intro h
    have hred : n % 4 ≠ 1 := h .red
    have hgreen : n % 4 ≠ 2 := h .green
    have hblue : n % 4 ≠ 3 := h .blue
    omega
  · intro h c
    rw [h]
    cases c <;> decide

/-- The bits of the operations are one to four. -/
theorem Arithmetic.forall_ne_bits_iff {n : Nat} :
    (∀ op : Arithmetic, n ≠ op.bits.toNat) ↔ n ∉ [1, 2, 3, 4] := by
  simp only [List.mem_cons, List.not_mem_nil, or_false, not_or]
  constructor
  · intro h
    exact ⟨h .add, h .sub, h .mul, h .div⟩
  · rintro ⟨hadd, hsub, hmul, hdiv⟩ op
    cases op <;> assumption

/-- A pixel has a byte under the number in the lower two bits of another byte if they are the number of
a channel. -/
theorem Pixel.channel?_mod_eq_some_iff {p : Pixel} {green value : UInt8} :
    p.channel? (green % 4) = some value ↔
      ∃ c : Channel, green.toNat % 4 = c.number.toNat ∧ p.get c = value := by
  simp only [Pixel.channel?, Option.map_eq_some_iff, Channel.ofNumber?_mod_eq_some_iff]

/-- When the handlers fail, by the kind of the instruction and the numbers of its operands, and with which
fault. A set fails if its green byte is no channel; a calculation fails if the lower two bits of its green
byte are no channel or the upper three no operation, and a division fails also if the channel is zero; a
return fails outside of calls, and a throw always; an output fails for a code that cannot be printed, an
input at the end of the codes, and a call if the function is not bound. Nothing else fails, a handler that
fails leaves the state as it was, and on a grid that fits in memory no handler overflows. -/
theorem Handler.lookup_fault (g : Grid) (s : State) (kind : Opcode) (green blue : UInt8) :
    let effect := Handler.lookup kind ⟨kind, green, blue⟩ s g
    (∀ fault, effect.outcome = .error fault ↔
      (kind = .setVar ∧ green ∉ [1, 2, 3] ∧ fault = .builtin .invalidParameter) ∨
      (kind = .calculate ∧ (green.toNat % 4 = 0 ∨ green.toNat / 32 ∉ [1, 2, 3, 4]) ∧
        fault = .builtin .invalidParameter) ∨
      (kind = .calculate ∧ green.toNat / 32 = 4 ∧ (s.ahead g).channel? (green % 4) = some 0 ∧
        fault = .builtin .divideByZero) ∨
      (kind = .ret ∧ s.callStack.calls = [] ∧ fault = .builtin .noFunctionCalled) ∨
      (kind = .throw ∧ fault = .user (s.register green)) ∨
      (kind = .output ∧ ¬ (32 ≤ (s.register blue).toNat ∧ (s.register blue).toNat ≤ 126) ∧
        fault = .builtin .outputNonAscii) ∨
      (kind = .input ∧ s.input.codes.size ≤ s.input.position ∧
        fault = .builtin .inputStreamEmpty) ∨
      (kind = .call ∧ s.function? blue = none ∧ fault = .builtin .functionUndefined)) ∧
    (∀ fault, effect.outcome = .error fault → effect.state = s) ∧
    (3 * g.cells.size ≤ 2 ^ 63 - 1 → g.Contains s.location → s.direction.IsUnit →
      Handler.attempt ⟨kind, green, blue⟩ s g = .ok effect) := by
  intro effect
  refine ⟨?_, (Handler.lookup_lawful s g ⟨kind, green, blue⟩).state_eq, ?_⟩
  · intro fault
    have hfails : effect.outcome = .error fault ↔ Fails g s ⟨kind, green, blue⟩ fault :=
      Handler.outcome_eq_error_iff (i := ⟨kind, green, blue⟩)
    rw [hfails]
    constructor
    · intro h
      cases h with
      | setVar hchannel => simp [Channel.forall_ne_number_iff.1 hchannel]
      | calculate hparameter =>
        rw [Arithmetic.forall_ne_bits_iff, Channel.forall_mod_ne_number_iff] at hparameter
        exact .inr (.inl ⟨rfl, hparameter.symm, rfl⟩)
      | divide c hop hchannel hzero =>
        have hbyte := Pixel.channel?_mod_eq_some_iff.2 ⟨c, hchannel, hzero⟩
        have hdiv : green.toNat / 32 = 4 := hop
        simp [hdiv, hbyte]
      | ret hcalls => simp [hcalls]
      | throw => simp
      | output hprint => simp [hprint]
      | input hcode => simpa using hcode
      | call hslot => simp [hslot]
    · rintro (⟨rfl, hgreen, rfl⟩ | ⟨rfl, hgreen, rfl⟩ | ⟨rfl, hop, hzero, rfl⟩ | ⟨rfl, hcalls, rfl⟩ |
        ⟨rfl, rfl⟩ | ⟨rfl, hprint, rfl⟩ | ⟨rfl, hcode, rfl⟩ | ⟨rfl, hslot, rfl⟩)
      · exact .setVar (Channel.forall_ne_number_iff.2 hgreen)
      · refine .calculate ?_
        rw [Arithmetic.forall_ne_bits_iff, Channel.forall_mod_ne_number_iff]
        exact hgreen.symm
      · obtain ⟨c, hchannel, hzero⟩ := Pixel.channel?_mod_eq_some_iff.1 hzero
        exact .divide c hop hchannel hzero
      · exact .ret (CallStack.ext hcalls)
      · exact .throw green blue
      · exact .output hprint
      · exact .input (Array.getElem?_eq_none_iff.2 hcode)
      · exact .call hslot
  · intro hcells hcursor hdirection
    have hahead := Grid.checkedOffset_eq_ok hcells hcursor hdirection (by decide : 1 ≤ 2)
    have hnone := Handler.overflow?_eq_none ⟨kind, green, blue⟩ hahead hdirection.checkedRotated
    rw [Handler.attempt, hnone]

/-- The division of register 3 by an empty channel fails, and everything is as it was before. -/
theorem Handler.lookup_fault_division :
    let m := Machine.dividing none
    let effect := Handler.lookup .calculate ⟨.calculate, 129, 3⟩ m.state m.grid
    effect.outcome = .error (.builtin .divideByZero) ∧ effect.state = m.state ∧
      Handler.attempt ⟨.calculate, 129, 3⟩ m.state m.grid = .ok effect := by
  intro m effect
  obtain ⟨hfault, hstate, hattempt⟩ := Handler.lookup_fault m.grid m.state .calculate 129 3
  have hdivision : effect.outcome = .error (.builtin .divideByZero) := by
    apply (hfault _).2
    exact .inr (.inr (.inl ⟨rfl, by decide, by decide, rfl⟩))
  exact ⟨hdivision, hstate _ hdivision, hattempt (by decide) (by decide) (by decide)⟩

end PixelMachine
