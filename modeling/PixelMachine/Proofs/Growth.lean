import PixelMachine.Proofs.InputOutput

/-!
# What grows in a run

In a run the output gets longer, the input is read, calls are pushed, functions are bound, and a handler is
installed. The first two never shrink, and what is bound stays bound (`Machine.GrowsTo`); calls and handlers
come and go.

Each of the five takes a step of its own. The weight of a state is their sum, and no rule of execution adds
more than one to it (`Executes.weight_le`); nor does a recovery, which takes the handler away. So the weight
is paid for by the steps that a run has made (`Machine.weight_run_stepN_le`). The main result is
`Machine.growth_performAll`.
-/

set_option autoImplicit false

namespace PixelMachine

namespace ByteTable

variable {α : Type} (p : α → Bool)

/-- How many entries have a property. -/
def count (t : ByteTable α) : Nat := t.entries.countP p

/-- In a table of one value, nothing counts if the value does not. -/
theorem count_fill {a : α} (h : p a = false) : (fill a).count p = 0 := by
  rw [count, fill, Vector.countP_replicate, h]
  rfl

/-- Setting one entry adds at most one. -/
theorem count_set_le (t : ByteTable α) (i : UInt8) (a : α) :
    (t.set i a).count p ≤ t.count p + 1 := by
  rw [count, count, set, Vector.countP_set]
  split <;> split <;> omega

end ByteTable

/-! ## Weight -/

namespace State

/-- All that has piled up in a run: the output, the codes that were read, the calls in progress, the functions
that are bound, and the pending handler. -/
def weight (s : State) : Nat :=
  s.output.text.length + s.input.position + s.callStack.depth + s.functions.count Option.isSome +
    s.tryHandler.isSome.toNat

/-- At the start there is nothing but the codes that were read before. -/
theorem weight_start (input : Input) : (start input).weight = input.position := by
  have hbound : (ByteTable.fill (none : Option FunctionSlot)).count Option.isSome = 0 :=
    ByteTable.count_fill Option.isSome rfl
  rw [weight, start, hbound]
  simp [Output.empty]

end State

/-- No instruction adds more than one to the weight. -/
theorem Executes.weight_le {g : Grid} {s t : State} {i : Instruction} (h : Executes g s i t) :
    t.weight ≤ s.weight + 1 := by
  cases h with
  | halt green blue => exact Nat.le_succ s.weight
  | setVar c hchannel => exact Nat.le_succ s.weight
  | calculate op c hop hchannel hdiv hvalue => exact Nat.le_succ s.weight
  | defineFunction green blue =>
    have hbound := s.functions.count_set_le Option.isSome blue (some ⟨s.location, green⟩)
    simp only [State.weight, State.bindFunction]
    omega
  | defineTry green blue =>
    simp only [State.weight, Option.isSome_some, Bool.toNat_true]
    omega
  | ret caller rest hcalls =>
    simp only [State.weight, hcalls, CallStack.depth_push]
    omega
  | turn heq => exact Nat.le_succ s.weight
  | pass hne => exact Nat.le_succ s.weight
  | output hprint =>
    simp only [State.weight, String.length_push]
    omega
  | input code hcode =>
    simp only [State.weight, State.setRegister]
    omega
  | call slot hslot =>
    simp only [State.weight, State.setRegister, CallStack.depth_push]
    omega
  | nop green blue => exact Nat.le_succ s.weight

namespace Machine

/-- A step adds no more to the weight than to the number of steps. -/
theorem weight_step (m : Machine) :
    m.step.machine.state.weight + m.steps ≤ m.state.weight + m.step.machine.steps := by
  rcases step_cases m with ⟨-, h⟩ | ⟨i, t, -, hexec, h, -⟩ | ⟨fault, handler, -, htry, h, -⟩ |
    ⟨fault, -, -, h, -⟩
  · rw [h]
  · have hle := hexec.weight_le
    rw [h]
    show t.weight + m.steps ≤ m.state.weight + (m.steps + 1)
    omega
  · -- the handler is used up
    rw [h]
    simp only [State.weight, recover, State.setRegister, Option.isSome_none, Bool.toNat_false]
    omega
  · rw [h]
    show m.state.weight + m.steps ≤ m.state.weight + (m.steps + 1)
    omega

/-- A step keeps the weight paid for. -/
theorem weight_le_steps_step (m : Machine) (h : m.state.weight ≤ m.steps) :
    m.step.machine.state.weight ≤ m.step.machine.steps := by
  have hstep := weight_step m
  omega

/-- A machine that was just started has no weight. -/
theorem weight_run_le (m : Machine) : m.run.state.weight ≤ m.run.steps :=
  Nat.le_of_eq (State.weight_start m.state.input.rewind)

/-- A run has no more weight than steps. -/
theorem weight_run_stepN_le (m : Machine) (n : Nat) :
    (m.run.stepN n).state.weight ≤ (m.run.stepN n).steps :=
  stepN_induction (P := fun k => k.state.weight ≤ k.steps) weight_le_steps_step m.weight_run_le n

/-- After every history that starts or resets the machine, the weight is paid for by the steps since then; and
so it is after the others, if the input was unread. -/
theorem weight_performAll_le {g : Grid} {input : Input} {operations : List Operation} {m : Machine}
    (h : (new g input).performAll operations = some m)
    (hstart : input.position = 0 ∨ ∃ operation ∈ operations, operation ≠ .command .step) :
    m.state.weight ≤ m.steps := by
  -- a reset leads to the state of a start
  refine performAll_of_restart (P := fun k => k.state.weight ≤ k.steps) weight_run_le weight_run_le
    weight_le_steps_step (hstart.imp_left fun hunread => ?_) h
  exact Nat.le_of_eq ((State.weight_start input).trans hunread)

/-! ## What never shrinks -/

/-- From one moment to another, nothing that was printed, read or bound is taken back. -/
structure GrowsTo (m k : Machine) : Prop where
  output : m.state.output.text.toList <+: k.state.output.text.toList
  position : m.state.input.position ≤ k.state.input.position
  functions : ∀ id, (m.state.function? id).isSome → (k.state.function? id).isSome

namespace GrowsTo

variable {m k n : Machine}

/-- A machine grows to itself, by nothing. -/
theorem refl (m : Machine) : m.GrowsTo m :=
  ⟨List.prefix_rfl, Nat.le_refl _, fun _ h => h⟩

/-- Growing goes on. -/
theorem trans (h : m.GrowsTo k) (h' : k.GrowsTo n) : m.GrowsTo n where
  output := h.output.trans h'.output
  position := h.position.trans h'.position
  functions id hbound := h'.functions id (h.functions id hbound)

end GrowsTo

/-- A step lets a machine grow. -/
theorem growsTo_step (m : Machine) : m.GrowsTo m.step.machine where
  output := ⟨_, (output_step m).symm⟩
  position := by
    rw [position_step]
    exact Nat.le_add_right _ _
  functions id hbound := by
    rw [function?_step]
    cases hwritten : m.functionWritten? id with
    | none => exact hbound
    | some written =>
      -- what a definition writes is bound
      obtain ⟨slot, rfl, -⟩ := functionWritten?_eq_some_iff.1 hwritten
      rfl

/-- A machine grows with its steps. -/
theorem growsTo_of_le (m : Machine) {i j : Nat} (hij : i ≤ j) :
    (m.stepN i).GrowsTo (m.stepN j) := by
  obtain ⟨d, rfl⟩ := Nat.exists_eq_add_of_le hij
  rw [stepN_add]
  exact stepN_induction (P := fun k => (m.stepN i).GrowsTo k)
    (fun k hk => hk.trans (growsTo_step k)) (.refl (m.stepN i)) d

/-! ## Bounds -/

/-- A run only grows, and no faster than it is stepped. Whatever was done with a machine before, as long as
it is only stepped, nothing that it has printed, read or bound is taken back. All that has piled up since the
last start or reset weighs no more than the steps since then; before the first of them this is so if the
input is unread. So a drive with a limit prints no more characters than the limit, and at no moment are more
calls in progress. A limit of zero is none. -/
theorem growth_performAll (g : Grid) (input : Input) (operations : List Operation) (m : Machine)
    (h : (new g input).performAll operations = some m) :
    (∀ i j, i ≤ j → (m.stepN i).GrowsTo (m.stepN j)) ∧
    ((input.position = 0 ∨ ∃ operation ∈ operations, operation ≠ .command .step) →
      m.state.weight ≤ m.steps) ∧
    ∀ limit, 1 ≤ limit → ∃ d k, m.drive limit = some d ∧ k ≤ limit ∧ d.machine = m.run.stepN k ∧
      (∀ t ≤ k, (m.run.stepN t).state.output.text.length ≤ limit ∧
        (m.run.stepN t).state.callStack.depth ≤ limit) ∧
      ∀ report, d.result = .ok report → report.output.length ≤ limit := by
  refine ⟨fun i j hij => m.growsTo_of_le hij, weight_performAll_le h, ?_⟩
  intro limit hlimit
  obtain ⟨d, hd⟩ := m.exists_drive limit (Nat.ne_of_gt hlimit)
  obtain ⟨k, hk, hmachine⟩ := drive_machine hd
  have hbounds : ∀ t ≤ k, (m.run.stepN t).state.output.text.length ≤ limit ∧
      (m.run.stepN t).state.callStack.depth ≤ limit := by
    intro t ht
    have hsteps : (m.run.stepN t).steps ≤ 0 + t := steps_stepN_le m.run t
    have hweight := weight_run_stepN_le m t
    unfold State.weight at hweight
    omega
  refine ⟨d, k, hd, by omega, hmachine, hbounds, ?_⟩
  intro report hreport
  rw [drive_report hd hreport, hmachine]
  exact (hbounds k (Nat.le_refl k)).1

/-- A program that tries, binds a function, reads, prints, and calls the function. -/
def hoarder : Grid :=
  .paint 5 1 #[⟨4, 0, 5⟩, ⟨3, 0, 7⟩, ⟨9, 0, 1⟩, ⟨8, 0, 1⟩, ⟨10, 1, 7⟩] (by decide)

/-- The hoarder adds to its weight with every step. Eight steps get it two characters, two codes, two calls,
the function and the handler, and it cannot get more. With the next step it runs out of input and loses the
handler; the output stays. A drive of eight steps prints no more than eight characters. -/
theorem growth_performAll_hoarder :
    let fresh := new hoarder (.ofCodes [72, 105])
    let m := fresh.run.stepN 8
    fresh.performAll (.command .run :: List.replicate 8 (.command .step)) = some m ∧
      m.steps = 8 ∧ m.state.weight ≤ m.steps ∧
      m.state.output.text.toList = ['H', 'i'] ∧ m.state.input.position = 2 ∧
      m.state.callStack.depth = 2 ∧ (m.state.function? 7).isSome ∧ m.state.tryHandler.isSome ∧
      (m.stepN 1).state.tryHandler = none ∧
      m.state.output.text.toList <+: (m.stepN 1).state.output.text.toList ∧
      ∃ d, m.drive 8 = some d ∧ ∀ report, d.result = .ok report → report.output.length ≤ 8 := by
  intro fresh m
  have hm : fresh.performAll (.command .run :: List.replicate 8 (.command .step)) = some m := rfl
  obtain ⟨hgrows, hweight, hdrive⟩ := growth_performAll hoarder (.ofCodes [72, 105]) _ m hm
  obtain ⟨d, k, hd, -, -, -, hreport⟩ := hdrive 8 (by decide)
  refine ⟨hm, by decide +kernel, hweight (.inr ⟨_, List.mem_cons_self, by decide⟩), by decide +kernel, by decide +kernel,
    by decide +kernel, by decide +kernel, by decide +kernel, by decide +kernel, ?_, d, hd, hreport⟩
  exact (hgrows 0 1 (by decide)).output

end Machine

end PixelMachine
