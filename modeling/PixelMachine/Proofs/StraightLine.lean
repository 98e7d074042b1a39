import PixelMachine.Proofs.Construction
import PixelMachine.Proofs.Driving
import PixelMachine.Proofs.Failure

/-!
# Straight-line programs

A straight-line program is a list of items that neither jump nor turn. An item is laid out as its
instruction, followed by its operand if the instruction reads the cell ahead, and a program as its items
in a row, followed by a halt.

What the program means has nothing to do with the row: a `Store` has registers, an input and an output,
each item makes another store of it or fails (`Store.apply`), and the items are folded over the store in
order. The machine does the same. With the cursor on an item of the row, one step leads to the item after
it with the store of the fold (`Store.step_of_apply`), or fails with the item's fault
(`Store.step_of_apply_error`), so any beginning of the program that does not fail is executed in as many
steps as it has items (`Store.stepN_of_foldlM`).

The main result is `Machine.drive_layout`.
-/

set_option autoImplicit false

namespace PixelMachine

/-! ## Items and what they mean -/

/-- An instruction that neither jumps nor turns, with its operand if it has one. -/
inductive Item where
  | setVar (green blue : UInt8) (operand : Pixel)
  | calculate (green blue : UInt8) (operand : Pixel)
  | output (green blue : UInt8)
  | input (green blue : UInt8)
  | throw (green blue : UInt8)
  | nop (green blue : UInt8)
  deriving DecidableEq

namespace Item

/-- The instruction of an item. -/
def instruction : Item → Instruction
  | setVar green blue _ => ⟨.setVar, green, blue⟩
  | calculate green blue _ => ⟨.calculate, green, blue⟩
  | output green blue => ⟨.output, green, blue⟩
  | input green blue => ⟨.input, green, blue⟩
  | throw green blue => ⟨.throw, green, blue⟩
  | nop green blue => ⟨.nop, green, blue⟩

/-- The cell after the instruction, if the item has one. -/
def operand? : Item → Option Pixel
  | setVar _ _ operand | calculate _ _ operand => some operand
  | _ => none

/-- The cells of an item, from left to right. -/
def cells (a : Item) : List Pixel := a.instruction.toPixel :: a.operand?.toList

/-- An instruction is as wide as its item has cells. -/
theorem width_instruction (a : Item) : a.instruction.width = a.cells.length := by
  cases a <;> rfl

/-- The first cell of an item is its instruction. -/
theorem getElem?_cells (a : Item) (before rest : List Pixel) :
    (before ++ (a.cells ++ rest))[before.length]? = some a.instruction.toPixel := by
  simp [cells]

/-- An item has one cell or two. -/
theorem length_cells_le (a : Item) : a.cells.length ≤ 2 := by
  cases a <;> simp [cells, operand?]

/-- No item halts the machine. -/
theorem kind_ne_halt (a : Item) : a.instruction.kind ≠ .halt := by
  cases a <;> simp [instruction]

end Item

/-- The cells of a program, from left to right. -/
def layout (items : List Item) : List Pixel := items.flatMap Item.cells

/-- What items work on. -/
structure Store where
  registers : ByteTable UInt8
  input : Input
  output : Output

namespace Store

/-- All registers zero, the input unread, and nothing printed. -/
def start (input : Input) : Store := ⟨.fill 0, input.rewind, .empty⟩

/-- The store with another value in a register. -/
def set (a : Store) (register value : UInt8) : Store :=
  { a with registers := a.registers.set register value }

/-- What an item makes of a store, or the fault that it raises. -/
def apply (a : Store) : Item → Except Fault Store
  | .setVar green blue operand =>
    match operand.channel? green with
    | some value => .ok (a.set blue value)
    | none => .error (.builtin .invalidParameter)
  | .calculate green blue operand =>
    match Arithmetic.ofBits? (green / 32), operand.channel? (green % 4) with
    | some op, some value => (op.apply (a.registers.get blue) value).map (a.set blue)
    | _, _ => .error (.builtin .invalidParameter)
  | .output _ blue => (a.output.push (a.registers.get blue)).map fun printed =>
    { a with output := printed }
  | .input _ blue => a.input.next.map fun next => { a.set blue next.1 with input := next.2 }
  | .throw green _ => .error (.user (a.registers.get green))
  | .nop _ _ => .ok a

/-- The state with this store when the cursor is on a row, with nothing bound, pending or called. -/
def state (a : Store) (x : Nat) : State :=
  { State.start a.input with location := ⟨x, 0⟩, registers := a.registers, output := a.output }

/-- The machine with this store that has reached a place on a row. -/
def machine (a : Store) (g : Grid) (x steps : Nat) : Machine := ⟨g, a.state x, .running, steps⟩

/-- From a store, item `i` is the first that fails: the items before it lead to another store, of which it
makes a fault. -/
structure FailsFirst (a : Store) (items : List Item) (i : Nat) (b : Store) (fault : Fault) : Prop where
  before : (items.take i).foldlM apply a = .ok b
  fails : ∃ item, items[i]? = some item ∧ b.apply item = .error fault

variable {a b : Store} {item : Item} {items : List Item}

/-- Items succeed in a row if the first one does, and then the others. -/
theorem foldlM_cons_eq_ok_iff :
    (item :: items).foldlM apply a = .ok b ↔
      ∃ c, a.apply item = .ok c ∧ items.foldlM apply c = .ok b := by
  rw [List.foldlM_cons]
  cases a.apply item with
  | error fault => simp [bind, Except.bind]
  | ok c => simp [bind, Except.bind]

/-- A program that does not run through has a first item that fails. -/
theorem runs_or_failsFirst (a : Store) (items : List Item) :
    (∃ b, items.foldlM apply a = .ok b) ∨ ∃ i b fault, a.FailsFirst items i b fault := by
  induction items generalizing a with
  | nil => exact .inl ⟨a, rfl⟩
  | cons item items ih =>
    cases hitem : a.apply item with
    | error fault => exact .inr ⟨0, a, fault, rfl, item, rfl, hitem⟩
    | ok c =>
      rcases ih c with ⟨b, hb⟩ | ⟨i, b, fault, hbefore, hfails⟩
      · exact .inl ⟨b, foldlM_cons_eq_ok_iff.2 ⟨c, hitem, hb⟩⟩
      · exact .inr ⟨i + 1, b, fault, foldlM_cons_eq_ok_iff.2 ⟨c, hitem, hbefore⟩, hfails⟩

end Store

/-! ## Items are instructions -/

namespace Store

variable {a b : Store} {item : Item} {g : Grid} {x : Nat} {fault : Fault}

/-- An item makes of a store what its instruction makes of a state, and fails if and as its instruction
does. -/
theorem executes_or_fails (a : Store) (item : Item)
    (hahead : ∀ p ∈ item.operand?, (a.state x).ahead g = p) :
    (∃ b, a.apply item = .ok b ∧ Executes g (a.state x) item.instruction (b.state x)) ∨
      ∃ fault, a.apply item = .error fault ∧ Fails g (a.state x) item.instruction fault := by
  cases item with
  | setVar green blue operand =>
    obtain rfl := hahead operand rfl
    simp only [apply, Pixel.channel?]
    cases hc : Channel.ofNumber? green with
    | none =>
      right
      refine ⟨_, rfl, .setVar fun c hgreen => ?_⟩
      cases hc.symm.trans (Channel.ofNumber?_eq_some_iff.2 hgreen)
    | some c => exact .inl ⟨_, rfl, .setVar c (Channel.ofNumber?_eq_some_iff.1 hc)⟩
  | calculate green blue operand =>
    obtain rfl := hahead operand rfl
    simp only [apply, Pixel.channel?]
    cases hop : Arithmetic.ofBits? (green / 32) with
    | none =>
      right
      refine ⟨_, rfl, .calculate (.inl fun op hgreen => ?_)⟩
      cases hop.symm.trans (Arithmetic.ofBits?_div_eq_some_iff.2 hgreen)
    | some op =>
      rw [Arithmetic.ofBits?_div_eq_some_iff] at hop
      cases hc : Channel.ofNumber? (green % 4) with
      | none =>
        right
        refine ⟨_, rfl, .calculate (.inr fun c hgreen => ?_)⟩
        cases hc.symm.trans (Channel.ofNumber?_mod_eq_some_iff.2 hgreen)
      | some c =>
        rw [Channel.ofNumber?_mod_eq_some_iff] at hc
        simp only [Option.map_some]
        cases hvalue : op.apply (a.registers.get blue) (((a.state x).ahead g).get c) with
        | ok value =>
          obtain ⟨hdiv, hexact⟩ := Arithmetic.apply_eq_ok_iff.1 hvalue
          exact .inl ⟨_, rfl, .calculate op c hop hc hdiv hexact⟩
        | error fault =>
          obtain ⟨rfl, hzero, rfl⟩ := Arithmetic.apply_eq_error_iff.1 hvalue
          exact .inr ⟨_, rfl, .divide c hop hc hzero⟩
  | output green blue =>
    rw [apply]
    cases hpush : a.output.push (a.registers.get blue) with
    | ok printed =>
      obtain ⟨hprint, rfl⟩ := Output.push_eq_ok_iff.1 hpush
      exact .inl ⟨_, rfl, .output (Output.printable_iff.1 hprint)⟩
    | error fault =>
      obtain ⟨hprint, rfl⟩ := Output.push_eq_error_iff.1 hpush
      exact .inr ⟨_, rfl, .output fun h => hprint (Output.printable_iff.2 h)⟩
  | input green blue =>
    simp only [apply, Input.next]
    cases hcode : a.input.codes[a.input.position]? with
    | none => exact .inr ⟨_, rfl, .input hcode⟩
    | some code => exact .inl ⟨_, rfl, .input code hcode⟩
  | throw green blue => exact .inr ⟨_, rfl, .throw green blue⟩
  | nop green blue => exact .inl ⟨_, rfl, .nop green blue⟩

end Store

/-! ## Rows -/

/-- The cells of the grid are one row. -/
structure Grid.IsRow (g : Grid) (cells : List Pixel) : Prop where
  height_eq : g.height = 1
  toList_eq : g.cells.toList = cells

namespace Grid.IsRow

variable {g : Grid} {cells : List Pixel} {x : Nat}

/-- The grid of a row is as wide as the row is long. -/
theorem width_eq (h : g.IsRow cells) : g.width = cells.length := by
  have hsize := g.size_eq
  rw [h.height_eq, Nat.mul_one] at hsize
  rw [← h.toList_eq, Array.length_toList, hsize]

/-- The cells of a row's grid are those of the row. -/
theorem get?_eq (h : g.IsRow cells) (x : Nat) : g.get? ⟨x, 0⟩ = cells[x]? := by
  have hindex : g.index ⟨x, 0⟩ = x := by simp [index]
  rw [get?, hindex, ← h.toList_eq, Array.getElem?_toList]

/-- On its way east, the cursor leaves a row for the beginning of this row. -/
theorem offset_eq (h : g.IsRow cells) (hx : x < cells.length) {advance : Nat}
    (hadvance : advance < 2 ^ 63) :
    g.offset ⟨x, 0⟩ .east advance = ⟨(x + advance) % cells.length, 0⟩ := by
  have hwrap := wrap_eq_emod Direction.east.dx (h.width_eq ▸ hx) hadvance
  have hstep : Direction.east.dx.toInt = 1 := rfl
  rw [hstep, h.width_eq] at hwrap
  have hcolumn : wrap cells.length x Direction.east.dx advance = (x + advance) % cells.length := by
    rw [Int.one_mul] at hwrap
    exact_mod_cast hwrap
  have hrow : wrap 1 0 Direction.east.dy advance = 0 :=
    Nat.lt_one_iff.1 (wrap_lt Nat.one_pos 0 Direction.east.dy advance)
  rw [offset, h.width_eq, h.height_eq, hcolumn, hrow]

/-- A move to the right leads on along the row, as long as it does not leave it. -/
theorem offset_of_lt (h : g.IsRow cells) {advance : Nat} (hadvance : advance < 2 ^ 63)
    (hlt : x + advance < cells.length) : g.offset ⟨x, 0⟩ .east advance = ⟨x + advance, 0⟩ := by
  rw [h.offset_eq (by omega) hadvance, Nat.mod_eq_of_lt hlt]

/-- The cell ahead on a row is the next one. -/
theorem ahead_eq (h : g.IsRow cells) {p : Pixel} (hp : cells[x + 1]? = some p) (a : Store) :
    (a.state x).ahead g = p := by
  obtain ⟨hlt, -⟩ := List.getElem?_eq_some_iff.1 hp
  have hoffset := h.offset_of_lt (by decide : 1 < 2 ^ 63) hlt
  have hread : g.get? (g.offset ⟨x, 0⟩ .east 1) = some ((a.state x).ahead g) :=
    Grid.get?_eq_some_get (g.contains_offset ⟨x, 0⟩ .east 1)
  rw [hoffset, h.get?_eq, hp] at hread
  exact (Option.some.inj hread).symm

end Grid.IsRow

/-! ## One item, one step -/

namespace Store

variable {a b : Store} {item : Item} {g : Grid} {cells before rest : List Pixel} {fault : Fault}
  {k : Nat}

/-- The cell after the instruction of an item is its operand. -/
theorem ahead_eq_operand (hrow : g.IsRow (before ++ (item.cells ++ rest))) (a : Store) :
    ∀ p ∈ item.operand?, (a.state before.length).ahead g = p := by
  intro p hp
  refine hrow.ahead_eq ?_ a
  have hcells : item.cells = [item.instruction.toPixel, p] := by
    rw [Item.cells, hp, Option.toList_some]
  rw [hcells]
  simp

/-- With its cursor on a row, the machine does what the pixel there says. -/
theorem deed?_machine {p : Pixel} {x : Nat} (hrow : g.IsRow cells) (hp : cells[x]? = some p) :
    (a.machine g x k).deed? = some (Deed.ofPixel p (a.state x) g) := by
  have hget : g.get? ⟨x, 0⟩ = some p := (hrow.get?_eq x).trans hp
  exact Machine.deed?_of_get? (m := a.machine g x k) rfl hget

/-- An item that does not fail takes one step to the item after it. -/
theorem step_of_apply (hrow : g.IsRow (before ++ (item.cells ++ rest))) (hrest : rest ≠ [])
    (h : a.apply item = .ok b) :
    (a.machine g before.length k).step.machine =
      b.machine g (before.length + item.cells.length) (k + 1) := by
  rcases a.executes_or_fails item (ahead_eq_operand hrow a) with ⟨c, hc, hexec⟩ | ⟨fault, hf, -⟩
  · obtain rfl : b = c := Except.ok.inj (h.symm.trans hc)
    have hdeed : (a.machine g before.length k).deed? = some (.executed item.instruction) := by
      rw [deed?_machine hrow (item.getElem?_cells before rest),
        Deed.ofPixel_eq_executed_iff.2 ⟨rfl, _, hexec⟩]
    have hlt : before.length + item.cells.length < (before ++ (item.cells ++ rest)).length := by
      have := List.length_pos_iff.2 hrest
      simp only [List.length_append]
      omega
    have hoffset := hrow.offset_of_lt (Nat.lt_of_le_of_lt item.length_cells_le (by decide)) hlt
    have hhalt : item.instruction.kind ≠ .halt := item.kind_ne_halt
    rw [(Machine.step_of_executed hdeed hexec).1, Machine.after, if_neg hhalt, item.width_instruction]
    simp only [machine, state, State.start, hoffset]
  · cases h.symm.trans hf

/-- An item that fails stops the machine, which stays as it was. -/
theorem step_of_apply_error (hrow : g.IsRow (before ++ (item.cells ++ rest)))
    (h : a.apply item = .error fault) :
    (a.machine g before.length k).step.machine = (a.machine g before.length k).fail fault ∧
      (a.machine g before.length k).step.result =
        .error (.uncaught fault.code fault ⟨before.length, 0⟩) := by
  rcases a.executes_or_fails item (ahead_eq_operand hrow a) with ⟨b, hb, -⟩ | ⟨other, hf, hfails⟩
  · cases h.symm.trans hb
  · obtain rfl : fault = other := Except.error.inj (h.symm.trans hf)
    have hdeed : (a.machine g before.length k).deed? = some (.raised fault) := by
      rw [deed?_machine hrow (item.getElem?_cells before rest),
        Deed.ofPixel_eq_raised_iff_fails.2 (.inr ⟨_, rfl, hfails⟩)]
    exact Machine.step_of_uncaught hdeed rfl

/-- The halt at the end of a row stops the machine with its cursor at the beginning. -/
theorem step_of_halt {green blue : UInt8} (hrow : g.IsRow (before ++ [⟨0, green, blue⟩])) :
    (a.machine g before.length k).step.machine = { a.machine g 0 (k + 1) with status := .halted } := by
  have hexec : Executes g (a.state before.length) ⟨.halt, green, blue⟩ _ := .halt green blue
  have hpixel : (⟨0, green, blue⟩ : Pixel) = Instruction.toPixel ⟨.halt, green, blue⟩ := rfl
  have hdeed : (a.machine g before.length k).deed? = some (.executed ⟨.halt, green, blue⟩) := by
    rw [deed?_machine hrow List.getElem?_concat_length,
      Deed.ofPixel_eq_executed_iff.2 ⟨hpixel, _, hexec⟩]
  have hoffset : g.offset ⟨before.length, 0⟩ .east 1 = ⟨0, 0⟩ := by
    rw [hrow.offset_eq (by simp) (by decide)]
    simp
  rw [(Machine.step_of_executed hdeed hexec).1]
  exact congrArg (fun l => Machine.mk g { a.state 0 with location := l } .halted (k + 1)) hoffset

/-! ## Many items, as many steps -/

/-- A beginning of a program that does not fail is executed in as many steps as it has items, and leads to
the place after it with the store of the fold. -/
theorem stepN_of_foldlM {items : List Item} (hrow : g.IsRow (before ++ (layout items ++ rest)))
    (hrest : rest ≠ []) (h : items.foldlM apply a = .ok b) :
    (a.machine g before.length k).stepN items.length =
      b.machine g (before.length + (layout items).length) (k + items.length) := by
  induction items generalizing before a k with
  | nil =>
    cases h
    rfl
  | cons item items ih =>
    obtain ⟨c, hc, hitems⟩ := foldlM_cons_eq_ok_iff.1 h
    have hsplit : before ++ (layout (item :: items) ++ rest) =
        before ++ (item.cells ++ (layout items ++ rest)) := by
      simp [layout]
    rw [hsplit] at hrow
    have hfirst := step_of_apply (k := k) hrow (by simp [hrest]) hc
    rw [← List.append_assoc] at hrow
    have hothers := ih (k := k + 1) hrow hitems
    have hlength : (layout (item :: items)).length = item.cells.length + (layout items).length := by
      simp [layout]
    rw [List.length_append] at hothers
    rw [List.length_cons, Machine.stepN, hfirst, hothers, hlength, Nat.add_assoc, Nat.add_right_comm,
      Nat.add_assoc k]

/-- Items that succeed in a row from the start take the machine to the end of their cells. -/
theorem stepN_start_of_foldlM {input : Input} {items : List Item} (hrow : g.IsRow (layout items ++ rest))
    (hrest : rest ≠ []) (h : items.foldlM apply (.start input) = .ok b) :
    (Machine.new g input).run.stepN items.length =
      b.machine g (layout items).length items.length := by
  have hstart : (Machine.new g input).run = (start input).machine g ([] : List Pixel).length 0 := rfl
  have hrow' : g.IsRow ([] ++ (layout items ++ rest)) := hrow
  have hreached := stepN_of_foldlM (k := 0) hrow' hrest h
  rw [hstart, hreached, List.length_nil, Nat.zero_add, Nat.zero_add]

end Store

/-! ## Programs -/

/-- A grid that is built from one row is the grid of this row. -/
theorem Grid.isRow_of_ofRows {g : Grid} {row : List Pixel} (h : Grid.ofRows [row] = .ok g) :
    g.IsRow row := by
  obtain ⟨-, hheight, hcells⟩ := ofCells_eq_ok_iff.1 (ofRows_eq_ok_iff.1 h).2
  exact ⟨hheight, by rw [hcells, List.flatten_singleton]⟩

/-- A row that is not empty and that a word can count is a grid. -/
theorem Grid.exists_ofRows_singleton {row : List Pixel} (hpos : row ≠ [])
    (hlt : row.length < UInt64.size) : ∃ g, Grid.ofRows [row] = .ok g := by
  have hlt' : firstLength [row] * [row].length < UInt64.size := by
    simp only [firstLength, List.head?_cons, Option.map_some, Option.getD_some, List.length_singleton]
    omega
  have hhead : [row].head? ≠ some [] := by simpa using hpos
  exact exists_ofRows_iff.2 ⟨List.cons_ne_nil row [], hhead, List.forall_mem_singleton.2 rfl, hlt'⟩

/-- A row that is no longer than memory is a grid. -/
theorem Grid.exists_isRow (row : List Pixel) (hpos : row ≠ []) (hsize : 3 * row.length ≤ 2 ^ 63 - 1) :
    ∃ g, Grid.ofRows [row] = .ok g ∧ g.IsRow row := by
  have hword : UInt64.size = 2 ^ 64 := rfl
  obtain ⟨g, hok⟩ := exists_ofRows_singleton hpos (by omega)
  exact ⟨g, hok, isRow_of_ofRows hok⟩

/-- The cells of items are those before an item, its own, and those after it. -/
theorem layout_split {items : List Item} {item : Item} {i : Nat} (h : items[i]? = some item) :
    layout items = layout (items.take i) ++ (item.cells ++ layout (items.drop (i + 1))) := by
  obtain ⟨hlt, rfl⟩ := List.getElem?_eq_some_iff.1 h
  have hdrop : items.drop i = items[i] :: items.drop (i + 1) := List.drop_eq_getElem_cons hlt
  have hsplit := List.take_append_drop i items
  calc layout items = layout (items.take i ++ items.drop i) := by rw [hsplit]
    _ = layout (items.take i) ++ layout (items.drop i) := List.flatMap_append
    _ = _ := by rw [hdrop]; rfl

namespace Machine

variable {g : Grid} {input : Input} {items : List Item} {green blue : UInt8} {store : Store}
  {limit : Nat}

/-- A program that runs through is driven to its halt, which leaves the cursor at the beginning. -/
theorem drive_of_foldlM (hrow : g.IsRow (layout items ++ [⟨0, green, blue⟩]))
    (hitems : items.foldlM Store.apply (.start input) = .ok store)
    (hlimit : limit = 0 ∨ items.length < limit) :
    ∃ d, (new g input).drive limit = some d ∧
      d.result = .ok ⟨items.length + 1, store.output.text⟩ ∧
      d.machine = { store.machine g 0 (items.length + 1) with status := .halted } := by
  have hreached : (new g input).run.stepN items.length =
      store.machine g (layout items).length items.length :=
    Store.stepN_start_of_foldlM hrow (List.cons_ne_nil _ _) hitems
  have hhalted : (new g input).run.stepN (items.length + 1) =
      { store.machine g 0 (items.length + 1) with status := .halted } := by
    rw [stepN_succ, hreached]
    exact Store.step_of_halt hrow
  have hrun : ((new g input).run.stepN items.length).status = .running := by
    rw [hreached]
    rfl
  obtain ⟨d, hd, hmachine, hresult⟩ := drive_of_halted hlimit (fun t ht => running_of_le hrun ht)
    (by rw [hhalted])
  rw [hhalted] at hmachine hresult
  exact ⟨d, hd, hresult, hmachine⟩

/-- A program that fails is driven to its first item that does. -/
theorem drive_of_failsFirst {i : Nat} {fault : Fault}
    (hrow : g.IsRow (layout items ++ [⟨0, green, blue⟩]))
    (hfirst : (Store.start input).FailsFirst items i store fault) (hlimit : limit = 0 ∨ i < limit) :
    let place := (layout (items.take i)).length
    ∃ d, (new g input).drive limit = some d ∧
      d.result = .error (.step (.uncaught fault.code fault ⟨place, 0⟩)) ∧
      d.machine.state = store.state place := by
  intro place
  obtain ⟨hbefore, item, hitem, hfails⟩ := hfirst
  obtain ⟨hlt, -⟩ := List.getElem?_eq_some_iff.1 hitem
  rw [layout_split hitem, List.append_assoc, List.append_assoc] at hrow
  have hreached : (new g input).run.stepN i = store.machine g place i := by
    have h := Store.stepN_start_of_foldlM hrow (by simp) hbefore
    rwa [List.length_take_of_le hlt.le] at h
  have hrun : ((new g input).run.stepN i).status = .running := by
    rw [hreached]
    rfl
  obtain ⟨hfail, herror⟩ := Store.step_of_apply_error (k := i) hrow hfails
  obtain ⟨d, hd, hmachine, hresult⟩ := drive_of_failed hlimit (fun t ht => running_of_le hrun ht)
    (by rw [hreached]; exact herror)
  rw [stepN_succ, hreached, hfail] at hmachine
  exact ⟨d, hd, hresult, congrArg Machine.state hmachine⟩

/-- Laying out is correct. The row of a program that fits in memory is a grid, and this grid does, with
every input, what the items do to the store with this input. If none of them fails, the machine is driven
to the halt in one step more than there are items, and left with the registers, the input and the output of
the items, and with its cursor at the beginning. If one of them fails, the machine is driven to the first
that does, and the error tells its fault and its place, as many cells from the beginning as the items
before it have. The limit, if there is one, has to allow this many steps. -/
theorem drive_layout (items : List Item) (green blue : UInt8)
    (hsize : 3 * ((layout items).length + 1) ≤ 2 ^ 63 - 1) :
    ∃ g, Grid.ofRows [layout items ++ [⟨0, green, blue⟩]] = .ok g ∧ ∀ input,
      let m := new g input
      let start := Store.start input
      (∀ store, items.foldlM Store.apply start = .ok store →
        ∀ limit, limit = 0 ∨ items.length + 1 ≤ limit → ∃ d, m.drive limit = some d ∧
          d.result = .ok ⟨items.length + 1, store.output.text⟩ ∧ d.machine.state = store.state 0) ∧
      (∀ i store fault, start.FailsFirst items i store fault →
        ∀ limit, limit = 0 ∨ i + 1 ≤ limit → ∃ d, m.drive limit = some d ∧
          d.result =
              .error (.step (.uncaught fault.code fault ⟨(layout (items.take i)).length, 0⟩)) ∧
            d.machine.state = store.state (layout (items.take i)).length) ∧
      ((∃ store, items.foldlM Store.apply start = .ok store) ∨
        ∃ i store fault, start.FailsFirst items i store fault) := by
  obtain ⟨g, hgrid, hrow⟩ := Grid.exists_isRow (layout items ++ [⟨0, green, blue⟩]) (by simp)
    (by simpa using hsize)
  refine ⟨g, hgrid, fun input => ⟨?_, ?_, (Store.start input).runs_or_failsFirst items⟩⟩
  · intro store hstore limit hlimit
    obtain ⟨d, hd, hresult, hmachine⟩ := drive_of_foldlM hrow hstore hlimit
    exact ⟨d, hd, hresult, congrArg Machine.state hmachine⟩
  · intro i store fault hfirst limit hlimit
    exact drive_of_failsFirst hrow hfirst hlimit

/-- A program that prints the successor of the code that it reads. -/
def successor : List Item := [.input 0 1, .calculate 33 1 ⟨1, 0, 0⟩, .output 0 1]

/-- The program prints the successor of a letter, with the least limit that allows it, and fails at its
output if the successor cannot be printed, on the cell after the operand. -/
theorem drive_layout_successor :
    ∃ g, Grid.ofRows [layout successor ++ [⟨0, 7, 7⟩]] = .ok g ∧
      (∃ d, (new g (.ofCodes [104])).drive 4 = some d ∧ d.result = .ok ⟨4, "i"⟩) ∧
      ∃ d, (new g (.ofCodes [126])).drive 0 = some d ∧
        d.result = .error (.step (.uncaught 3 (.builtin .outputNonAscii) ⟨3, 0⟩)) := by
  obtain ⟨g, hgrid, hdrive⟩ := drive_layout successor 7 7 (by decide)
  obtain ⟨hruns, -, -⟩ := hdrive (.ofCodes [104])
  obtain ⟨-, hfails, -⟩ := hdrive (.ofCodes [126])
  have hfirst : (Store.start (.ofCodes [126])).FailsFirst successor 2 _ (.builtin .outputNonAscii) :=
    ⟨rfl, .output 0 1, rfl, rfl⟩
  obtain ⟨d, hd, hresult, -⟩ := hruns _ rfl 4 (.inr (by decide))
  obtain ⟨d', hd', hresult', -⟩ := hfails 2 _ _ hfirst 0 (.inl rfl)
  exact ⟨g, hgrid, ⟨d, hd, hresult⟩, d', hd', hresult'⟩

end Machine

end PixelMachine
