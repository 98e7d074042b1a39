import PixelMachine.Proofs.Bindings
import PixelMachine.Proofs.CallReturn
import PixelMachine.Proofs.Failure

/-!
# What a run reads and prints

The inputs and outputs that a run executes are read off its steps: `Machine.received` lists what the
inputs have put into their registers, and `Machine.sent` what the outputs have found in theirs, each in
the order of the steps. Steps that raise a fault are in neither list, and the cell that raised it may be
executed once more after a recovery.

The state is compared with these lists. A step moves the place in the input by one if it executes an input
(`Machine.position_step`), and it adds to the output what it sends (`Machine.output_step`); so a run from
the start has received the first codes of its input (`Machine.received_eq_take`) and printed what it has
sent (`Machine.output_stepN`). The main result is `Machine.inputOutput_run`.
-/

set_option autoImplicit false

namespace PixelMachine

namespace Machine

variable {m : Machine} {green blue : UInt8} {n : Nat}

/-! ## What a step reads and prints -/

/-- What the next step has put into its register, if it executes an input. -/
def received? (m : Machine) : Option UInt8 :=
  match m.deed? with
  | some (.executed ⟨.input, _, blue⟩) => some (m.step.machine.state.register blue)
  | _ => none

/-- What the next step finds in its register, if it executes an output. -/
def sent? (m : Machine) : Option UInt8 :=
  match m.deed? with
  | some (.executed ⟨.output, _, blue⟩) => some (m.state.register blue)
  | _ => none

/-- What the first steps receive, in their order. -/
def received (m : Machine) (n : Nat) : List UInt8 :=
  (List.range n).filterMap fun t => (m.stepN t).received?

/-- What the first steps send, in their order. -/
def sent (m : Machine) (n : Nat) : List UInt8 :=
  (List.range n).filterMap fun t => (m.stepN t).sent?

/-- What is received last comes last. -/
theorem received_succ (m : Machine) (n : Nat) :
    m.received (n + 1) = m.received n ++ (m.stepN n).received?.toList := by
  rw [received, List.range_succ, List.filterMap_append]
  cases h : (m.stepN n).received? <;> simp [received, h]

/-- What is sent last comes last. -/
theorem sent_succ (m : Machine) (n : Nat) :
    m.sent (n + 1) = m.sent n ++ (m.stepN n).sent?.toList := by
  rw [sent, List.range_succ, List.filterMap_append]
  cases h : (m.stepN n).sent? <;> simp [sent, h]

/-- An executed input takes the next code and hands it to its register. -/
theorem exists_code_of_input (h : m.deed? = some (.executed ⟨.input, green, blue⟩)) :
    ∃ code, m.state.input.codes[m.state.input.position]? = some code ∧
      m.step.machine.state.register blue = code := by
  obtain ⟨t, hexec⟩ := (executes_of_deed? h).2
  have hafter := (step_of_executed h hexec).1
  cases hexec with
  | input code hcode =>
    refine ⟨code, hcode, ?_⟩
    rw [hafter]
    exact ByteTable.get_set_self m.state.registers blue code

/-- What is received is the next code of the input. -/
theorem received?_eq (m : Machine) :
    m.received? =
      if m.executed? = some .input then m.state.input.codes[m.state.input.position]? else none := by
  rw [received?, executed?]
  split
  · next hdeed =>
    obtain ⟨code, hcode, hregister⟩ := exists_code_of_input hdeed
    rw [hregister, hcode, hdeed]
    rfl
  · next hother =>
    symm
    rw [ite_eq_right_iff]
    intro hinput
    split at hinput
    · next i hdeed =>
      obtain ⟨kind, green, blue⟩ := i
      obtain rfl : kind = .input := Option.some.inj hinput
      exact absurd hdeed (hother green blue)
    · cases hinput

/-- Only an executed input moves the place in the input, by one. -/
theorem position_step (m : Machine) :
    m.step.machine.state.input.position =
      m.state.input.position + if m.executed? = some .input then 1 else 0 := by
  rcases step_cases m with ⟨hdeed, h⟩ | ⟨i, t, hdeed, hexec, h, -⟩ |
    ⟨fault, handler, hdeed, -, h, -⟩ | ⟨fault, hdeed, -, h, -⟩
  · rw [h, executed?, hdeed]
    rfl
  · rw [h, executed?, hdeed]
    cases hexec <;> rfl
  · rw [h, executed?, hdeed]
    rfl
  · rw [h, executed?, hdeed]
    rfl

/-- What is sent comes after what was printed, as one character; nothing else is printed. -/
theorem output_step (m : Machine) :
    m.step.machine.state.output.text.toList =
      m.state.output.text.toList ++ m.sent?.toList.map fun code => Char.ofNat code.toNat := by
  rcases step_cases m with ⟨hdeed, h⟩ | ⟨i, t, hdeed, hexec, h, -⟩ |
    ⟨fault, handler, hdeed, -, h, -⟩ | ⟨fault, hdeed, -, h, -⟩
  · rw [h, sent?, hdeed]
    exact (List.append_nil _).symm
  · rw [h, sent?, hdeed]
    cases hexec with
    | output hprint => exact String.toList_push _
    | _ => exact (List.append_nil _).symm
  · rw [h, sent?, hdeed]
    exact (List.append_nil _).symm
  · rw [h, sent?, hdeed]
    exact (List.append_nil _).symm

/-- Only printable codes are sent. -/
theorem printable_of_sent? {code : UInt8} (h : m.sent? = some code) :
    32 ≤ code.toNat ∧ code.toNat ≤ 126 := by
  unfold sent? at h
  split at h
  · next green blue hdeed =>
    obtain ⟨t, hexec⟩ := (executes_of_deed? hdeed).2
    cases h
    cases hexec with
    | output hprint => exact hprint
  · cases h

/-- A step that raises a fault reads and prints nothing, whether it recovers or not. -/
theorem step_of_raises (h : m.Raises) :
    m.step.machine.state.input = m.state.input ∧ m.step.machine.state.output = m.state.output := by
  obtain ⟨fault, hraised⟩ := h
  cases htry : m.state.tryHandler with
  | some handler =>
    rw [(step_of_recovered hraised htry).1]
    exact ⟨rfl, rfl⟩
  | none =>
    rw [(step_of_uncaught hraised htry).1]
    exact ⟨rfl, rfl⟩

/-- An input fails exactly if no code is left. -/
theorem raises_iff_of_input (green blue : UInt8) (hrun : m.status = .running)
    (hpixel : m.grid.get? m.state.location = some (Instruction.toPixel ⟨.input, green, blue⟩)) :
    m.Raises ↔ m.state.input.codes[m.state.input.position]? = none := by
  rw [Raises, deed?_of_get? hrun hpixel]
  simp only [Option.some.injEq, Deed.ofPixel_eq_raised_iff, Instruction.decode_toPixel,
    Except.ok.injEq, exists_eq_left', Handler.outcome_eq_error_iff, reduceCtorEq, false_or]
  constructor
  · rintro ⟨fault, hfails⟩
    cases hfails with
    | input hcode => exact hcode
  · intro hcode
    exact ⟨_, .input hcode⟩

/-! ## What a run reads and prints -/

/-- As many codes are read as inputs are executed. -/
theorem position_stepN (m : Machine) (n : Nat) :
    (m.stepN n).state.input.position = m.state.input.position + m.executions .input n := by
  induction n with
  | zero => rfl
  | succ n ih =>
    have hsucc : m.executions .input (n + 1) =
        m.executions .input n + if (m.stepN n).executed? = some .input then 1 else 0 :=
      Nat.count_succ _ n
    rw [stepN_succ, position_step, ih, hsucc, Nat.add_assoc]

/-- What is printed is what was printed before, and then what is sent. -/
theorem output_stepN (m : Machine) (n : Nat) :
    (m.stepN n).state.output.text.toList =
      m.state.output.text.toList ++ (m.sent n).map fun code => Char.ofNat code.toNat := by
  induction n with
  | zero => exact (List.append_nil _).symm
  | succ n ih => rw [stepN_succ, output_step, ih, sent_succ, List.map_append, List.append_assoc]

/-- Of unread input, the first codes are received, as many as inputs are executed. -/
theorem received_eq_take (h : m.state.input.position = 0) (n : Nat) :
    m.received n = m.state.input.codes.toList.take (m.executions .input n) := by
  induction n with
  | zero => rfl
  | succ n ih =>
    have hsucc : m.executions .input (n + 1) =
        m.executions .input n + if (m.stepN n).executed? = some .input then 1 else 0 :=
      Nat.count_succ _ n
    rw [received_succ, ih, received?_eq, hsucc, codes_stepN, position_stepN, h, Nat.zero_add]
    split
    · rw [List.take_add_one, Array.getElem?_toList]
    · exact List.append_nil _

/-- What is sent can be printed. -/
theorem printable_of_mem_sent {code : UInt8} (h : code ∈ m.sent n) :
    32 ≤ code.toNat ∧ code.toNat ≤ 126 := by
  obtain ⟨t, -, hsent⟩ := List.mem_filterMap.1 h
  exact printable_of_sent? hsent

/-- Nothing that is read or printed is lost, doubled or put in another order. After any number of steps from
the start, the inputs have received the first codes, as many as there were inputs, and this is the place
in the input; an input that is executed next receives the code with that number, and one that is met next
fails exactly if the place is at the end of the codes. The output is what the outputs have sent, character by
character, and all of it printable. A step that raises a fault leaves both as they were. -/
theorem inputOutput_run (m : Machine) (n : Nat) :
    let r := m.run
    let s := r.stepN
    let codes := m.state.input.codes
    (s n).state.input.position = r.executions .input n ∧
    r.received n = codes.toList.take (r.executions .input n) ∧
    (∀ green blue, (s n).deed? = some (.executed ⟨.input, green, blue⟩) →
      codes[r.executions .input n]? = some ((s (n + 1)).state.register blue)) ∧
    (∀ green blue, (s n).status = .running →
      (s n).grid.get? (s n).state.location = some ⟨9, green, blue⟩ →
      ((s n).Raises ↔ (s n).state.input.position = codes.size)) ∧
    (s n).state.output.text.toList = (r.sent n).map (fun code => Char.ofNat code.toNat) ∧
    (∀ code ∈ r.sent n, 32 ≤ code.toNat ∧ code.toNat ≤ 126) ∧
    ((s n).Raises →
      (s (n + 1)).state.input = (s n).state.input ∧
        (s (n + 1)).state.output = (s n).state.output) := by
  intro r s codes
  have hcodes : (s n).state.input.codes = codes := codes_stepN r n
  have hposition : (s n).state.input.position = r.executions .input n :=
    (position_stepN r n).trans (Nat.zero_add _)
  have hsucc : s (n + 1) = (s n).step.machine := stepN_succ r n
  refine ⟨hposition, received_eq_take rfl n, ?_, ?_, output_stepN r n,
    fun code => printable_of_mem_sent, ?_⟩
  · intro green blue hdeed
    obtain ⟨code, hcode, hregister⟩ := exists_code_of_input hdeed
    rw [hsucc, hregister, ← hposition, ← hcodes, hcode]
  · intro green blue hrun hpixel
    -- the place never passes the end, so there is no code left exactly at the end
    have hle : (s n).state.input.position ≤ codes.size := hcodes ▸ (m.placed_run_stepN n).input
    rw [raises_iff_of_input green blue hrun hpixel, hcodes,
      Array.getElem?_eq_none_iff]
    omega
  · intro hraises
    rw [hsucc]
    exact step_of_raises hraises

/-- A program that tries to print each code that it reads. -/
def relay : Grid := .paint 3 1 #[⟨4, 0, 9⟩, ⟨9, 0, 1⟩, ⟨8, 0, 1⟩] (by decide)

/-- The relay reads three codes and prints the two that are printable. The second it cannot print, and goes
on with the next; after the third there is none left, and the second attempt to read one is fatal. -/
theorem inputOutput_run_relay :
    let r := (new relay (.ofCodes [72, 7, 105])).run
    (r.stepN 5).Raises ∧
      (r.stepN 6).state.output = (r.stepN 5).state.output ∧
      (r.stepN 7).state.register 1 = 105 ∧
      r.received 10 = [72, 7, 105] ∧
      (r.stepN 10).state.output.text.toList = ['H', 'i'] ∧
      (r.stepN 10).Raises ∧ (r.stepN 11).status = .faulted 2 := by
  intro r
  have hraised : (r.stepN 5).deed? = some (.raised (.builtin .outputNonAscii)) := by decide +kernel
  have hinput : (r.stepN 6).deed? = some (.executed ⟨.input, 0, 1⟩) := by decide +kernel
  have hearlier : r.executions .input 6 = 2 := by decide +kernel
  have hinputs : r.executions .input 10 = 3 := by decide +kernel
  have hsent : r.sent 10 = [72, 105] := by decide +kernel
  obtain ⟨-, -, -, -, -, -, hfault⟩ := inputOutput_run (new relay (.ofCodes [72, 7, 105])) 5
  obtain ⟨-, -, hread, -⟩ := inputOutput_run (new relay (.ofCodes [72, 7, 105])) 6
  obtain ⟨hposition, hreceived, -, hfails, hprinted, -⟩ :=
    inputOutput_run (new relay (.ofCodes [72, 7, 105])) 10
  refine ⟨⟨_, hraised⟩, (hfault ⟨_, hraised⟩).2, ?_, ?_, ?_, ?_, by decide +kernel⟩
  · have hcode := hread 0 1 hinput
    rw [hearlier] at hcode
    exact (Option.some.inj hcode).symm
  · rw [hreceived, hinputs]
    rfl
  · rw [hprinted, hsent]
    rfl
  · refine (hfails 0 1 (by decide +kernel) (by decide +kernel)).2 ?_
    rw [hposition, hinputs]
    rfl

end Machine

end PixelMachine
