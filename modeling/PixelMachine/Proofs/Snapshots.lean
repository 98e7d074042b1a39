import PixelMachine.Snapshot
import PixelMachine.Proofs.Driving

/-!
# What a snapshot tells

A snapshot lists the registers in the order of their numbers. The functions are taken from a table of 256
entries, most of them empty, to a list of those that are bound, and no number gets lost, repeated or out of
order on the way (`State.mem_boundFunctions_iff`, `State.pairwise_boundFunctions`). So both tables can be
read back from their lists (`ByteTable.eq_of_toList_eq`, `State.functions_eq_of_boundFunctions_eq`).

All else is copied, but for the grid, the codes of the input and the places of the calls in progress. Machines
that share these and have the same snapshot are the same machine (`Machine.eq_of_snapshot_eq`). The main
result is `Machine.snapshot_faithful`.
-/

set_option autoImplicit false

namespace PixelMachine

namespace ByteTable

variable {α : Type} {t u : ByteTable α} {i : UInt8} {a : α}

/-- The list of a table has each entry at its index. -/
theorem getElem?_toList (t : ByteTable α) (i : UInt8) : t.toList[i.toNat]? = some (t.get i) := by
  unfold toList get
  rw [Vector.getElem?_toList, Vector.getElem?_eq_getElem]

/-- Tables with the same list are the same. -/
theorem eq_of_toList_eq (h : t.toList = u.toList) : t = u := by
  apply ext_get
  intro i
  have hget := t.getElem?_toList i
  rw [h, getElem?_toList] at hget
  exact (Option.some.inj hget).symm

/-- A pair of a table is an index with the entry there. -/
theorem mem_pairs_iff : (i, a) ∈ t.pairs ↔ t.get i = a := by
  unfold pairs
  rw [List.mem_map]
  constructor
  · rintro ⟨n, -, hn⟩
    cases hn
    rfl
  · rintro rfl
    have hi : i.toNat.toUInt8 = i := UInt8.ofNat_toNat
    exact ⟨i.toNat, List.mem_range.2 i.toNat_lt, by rw [hi]⟩

/-- The pairs of a table come in the order of their indices. -/
theorem pairwise_pairs (t : ByteTable α) : t.pairs.Pairwise fun p q => p.1 < q.1 := by
  unfold pairs
  rw [List.pairwise_map]
  apply List.pairwise_lt_range.imp_of_mem
  intro m n hm hn hlt
  -- below 256, a number and its byte are the same
  rw [List.mem_range] at hm hn
  rw [UInt8.lt_iff_toNat_lt, UInt8.toNat_ofNat_of_lt' hm, UInt8.toNat_ofNat_of_lt' hn]
  exact hlt

end ByteTable

namespace State

variable {s t : State} {id : UInt8} {slot : FunctionSlot}

/-- A function is listed exactly if it is bound, with its slot. -/
theorem mem_boundFunctions_iff : ⟨id, slot⟩ ∈ s.boundFunctions ↔ s.function? id = some slot := by
  unfold boundFunctions function?
  rw [List.mem_filterMap]
  constructor
  · rintro ⟨⟨j, entry⟩, hmem, hsome⟩
    obtain ⟨bound, rfl, hbound⟩ := Option.map_eq_some_iff.1 hsome
    cases hbound
    exact ByteTable.mem_pairs_iff.1 hmem
  · intro h
    exact ⟨(id, some slot), ByteTable.mem_pairs_iff.2 h, rfl⟩

/-- The functions are listed in the order of their numbers, each once. -/
theorem pairwise_boundFunctions (s : State) : s.boundFunctions.Pairwise fun a b => a.id < b.id := by
  unfold boundFunctions
  rw [List.pairwise_filterMap]
  apply s.functions.pairwise_pairs.imp
  rintro ⟨i, entry⟩ ⟨j, entry'⟩ hlt a ha b hb
  obtain ⟨slot, -, rfl⟩ := Option.map_eq_some_iff.1 ha
  obtain ⟨slot', -, rfl⟩ := Option.map_eq_some_iff.1 hb
  exact hlt

/-- The list of functions tells all slots. -/
theorem functions_eq_of_boundFunctions_eq (h : s.boundFunctions = t.boundFunctions) :
    s.functions = t.functions := by
  apply ByteTable.ext_get
  intro id
  apply Option.ext
  intro slot
  have hmem : ∀ u : State, u.functions.get id = some slot ↔ ⟨id, slot⟩ ∈ u.boundFunctions :=
    fun u => mem_boundFunctions_iff.symm
  rw [hmem, hmem, h]

end State

/-- What the owner of a machine gets back from an operation. -/
inductive Reply where
  | silent
  | stepped (result : Except StepError Unit)
  | driven (result : Except DriveError Report)

namespace Machine

variable {m k : Machine}

/-- The reply to an operation, if the operation comes to an end. -/
def reply (m : Machine) : Operation → Option Reply
  | .command .run | .command .reset => some .silent
  | .command .step => some (.stepped m.step.result)
  | .drive limit => (m.drive limit).map fun d => .driven d.result

/-- The replies to operations in a row, each with the snapshot after the operation. One that does not come to
an end has neither, and is the last. -/
def account (m : Machine) : List Operation → List (Option Reply × Option Snapshot)
  | [] => []
  | operation :: rest =>
    (m.reply operation, (m.perform operation).map snapshot) ::
      match m.perform operation with
      | some next => next.account rest
      | none => []

/-- A snapshot tells all of a machine but its grid, its codes and its calls. -/
theorem eq_of_snapshot_eq (hgrid : m.grid = k.grid)
    (hcodes : m.state.input.codes = k.state.input.codes)
    (hcalls : m.state.callStack = k.state.callStack) (h : m.snapshot = k.snapshot) : m = k := by
  have hinput : m.state.input = k.state.input :=
    Input.ext hcodes (congrArg Snapshot.inputPosition h)
  have hregisters : m.state.registers = k.state.registers :=
    ByteTable.eq_of_toList_eq (congrArg Snapshot.registers h)
  have hfunctions : m.state.functions = k.state.functions :=
    State.functions_eq_of_boundFunctions_eq (congrArg Snapshot.functions h)
  have hstate : m.state = k.state := by
    apply State.ext
    · exact congrArg Snapshot.location h
    · exact congrArg Snapshot.direction h
    · exact hregisters
    · exact hfunctions
    · exact congrArg Snapshot.tryHandler h
    · exact hcalls
    · exact hinput
    · exact Output.ext (congrArg Snapshot.output h)
  apply Machine.ext hgrid hstate
  · exact congrArg Snapshot.status h
  · exact congrArg Snapshot.steps h

/-- A stack of no depth is empty, so there is nothing that a snapshot could keep to itself. -/
theorem callStack_eq_of_depth_eq_zero (hm : m.state.callStack.depth = 0)
    (hk : k.state.callStack.depth = 0) : m.state.callStack = k.state.callStack := by
  rw [CallStack.depth_eq, List.length_eq_zero_iff] at hm hk
  exact CallStack.ext (hm.trans hk.symm)

/-- Snapshots are faithful. The snapshot of any machine lists all 256 registers in order, and the functions in
the order of their numbers, each that is bound and no other, with what is bound to it. It leaves out the grid,
the codes of the input and the places of the calls in progress, and nothing else: machines that agree on these
three and have the same snapshot are the same. So machines that were made alike, with no call in progress,
need only have the same snapshot, whatever was done with either of them: from then on all replies and all
snapshots are the same. -/
theorem snapshot_faithful :
    (∀ m : Machine,
      m.snapshot.registers.length = 256 ∧
      (∀ r : UInt8, m.snapshot.registers[r.toNat]? = some (m.state.register r)) ∧
      (m.snapshot.functions.Pairwise fun a b => a.id < b.id) ∧
      ∀ id slot, ⟨id, slot⟩ ∈ m.snapshot.functions ↔ m.state.function? id = some slot) ∧
    (∀ m k : Machine, m.grid = k.grid → m.state.input.codes = k.state.input.codes →
      m.state.callStack = k.state.callStack → m.snapshot = k.snapshot → m = k) ∧
    ∀ (g : Grid) (input : Input) (history history' : List Operation) (m k : Machine),
      (new g input).performAll history = some m → (new g input).performAll history' = some k →
        m.snapshot = k.snapshot → m.snapshot.callDepth = 0 →
          ∀ operations, m.account operations = k.account operations := by
  refine ⟨?_, ?_, ?_⟩
  · intro m
    refine ⟨m.state.registers.entries.length_toList, m.state.registers.getElem?_toList,
      m.state.pairwise_boundFunctions, ?_⟩
    intro id slot
    exact State.mem_boundFunctions_iff
  · intro m k hgrid hcodes hcalls h
    exact eq_of_snapshot_eq hgrid hcodes hcalls h
  · intro g input history history' m k hm hk h hdepth operations
    have hgrid : m.grid = k.grid := (grid_performAll hm).trans (grid_performAll hk).symm
    have hcodes : m.state.input.codes = k.state.input.codes :=
      (codes_performAll hm).trans (codes_performAll hk).symm
    have hdepth' : k.state.callStack.depth = 0 := (congrArg Snapshot.callDepth h).symm.trans hdepth
    rw [eq_of_snapshot_eq hgrid hcodes (callStack_eq_of_depth_eq_zero hdepth hdepth') h]

/-- A program that reads a code, binds a function and prints the code. -/
def announcer : Grid := .paint 3 1 #[⟨9, 0, 1⟩, ⟨3, 1, 7⟩, ⟨8, 0, 1⟩] (by decide)

/-- Two steps by hand and a drive of two steps lead to the same snapshot, which tells the code that was read and
the function that was bound. So whatever is done next comes to the same. -/
theorem snapshot_faithful_announcer :
    let fresh := new announcer (.ofCodes [72, 105])
    let m := fresh.obeyAll [.run, .step, .step]
    ∃ k, fresh.performAll [.drive 2] = some k ∧
      m.snapshot = k.snapshot ∧ m.snapshot.registers[1]? = some 72 ∧
      ⟨7, ⟨⟨1, 0⟩, 1⟩⟩ ∈ m.snapshot.functions ∧
      m.account [.command .step, .drive 4, .command .reset] =
        k.account [.command .step, .drive 4, .command .reset] := by
  intro fresh m
  have hm : fresh.performAll [.command .run, .command .step, .command .step] = some m :=
    performAll_map_command fresh [.run, .step, .step]
  -- the drive makes two steps, as many as its limit, and these are the steps by hand
  obtain ⟨d, hd, hmachine, -⟩ := fresh.drive_of_running (by decide : 2 ≠ 0) (by decide +kernel)
  have hk : fresh.performAll [.drive 2] = some d.machine :=
    performAll_cons_eq_some_iff.2 ⟨d.machine, congrArg (Option.map Drive.machine) hd, rfl⟩
  have hregister : m.state.register 1 = 72 := by decide +kernel
  have hbound : m.state.function? 7 = some ⟨⟨1, 0⟩, 1⟩ := by decide +kernel
  have hdepth : m.snapshot.callDepth = 0 := by decide +kernel
  obtain ⟨htells, -, hsame⟩ := snapshot_faithful
  obtain ⟨-, hregisters, -, hfunctions⟩ := htells m
  have h : m.snapshot = d.machine.snapshot := congrArg snapshot hmachine.symm
  refine ⟨d.machine, hk, h, ?_, (hfunctions 7 _).2 hbound, ?_⟩
  · exact (hregisters 1).trans (congrArg some hregister)
  · exact hsame announcer _ _ _ m d.machine hm hk h hdepth _

end Machine

end PixelMachine
