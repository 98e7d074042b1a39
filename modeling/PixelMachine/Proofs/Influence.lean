import PixelMachine.Proofs.Failure
import PixelMachine.Proofs.Growth

/-!
# What can influence a run

A machine carries four things along that its steps hardly look at: the grid, of which a step reads the
bits of one instruction and at most one byte ahead of it; the codes of the input, of which it reads at
most one; what was printed, to which it only adds; and the number of steps, which it only counts. A
`Setting` is a choice of these four, and `Machine.inSetting` is the same machine in another setting.

If a machine finds in the setting what its next step reads where it is (`Machine.ReadsAlike`), then it
makes no difference whether it is taken to the setting before the step or after it: this holds for the
rules of execution (`Executes.inSetting`) and of failure (`Fails.inSetting`), hence for a step
(`Machine.step_inSetting`), and by induction for a run (`Machine.stepN_inSetting`).

Three results follow, one for each part of a setting: unused bits of the grid
(`Machine.stepN_of_agree`), unread input (`Machine.stepN_of_unread`), and output and the number of steps
(`Machine.stepN_of_output`).
-/

set_option autoImplicit false

namespace PixelMachine

/-! ## The bits that an instruction uses -/

/-- The operand bits of a pixel that an opcode uses. A calculation does not use the three bits between
its operation and its channel. -/
def Opcode.operands : Opcode → Pixel → List UInt8
  | .setVar, p | .defineFunction, p | .branch, p | .call, p => [p.green, p.blue]
  | .calculate, p => [p.green / 32, p.green % 4, p.blue]
  | .defineTry, p | .output, p | .input, p => [p.blue]
  | .throw, p => [p.green]
  | .halt, _ | .ret, _ | .nop, _ => []

namespace Pixel

/-- Pixels that are the same to a machine: they have the same red byte, and if it is an opcode, they have
the same operand bits that this opcode uses. -/
def SameUse (p q : Pixel) : Prop :=
  p.red = q.red ∧ ∀ k ∈ Opcode.ofByte? p.red, k.operands p = k.operands q

instance (p q : Pixel) : Decidable (p.SameUse q) :=
  inferInstanceAs (Decidable (_ ∧ _))

/-- The channel of the cell ahead that the instruction of a pixel reads, if it reads one: a set does if
its selector is valid, and a calculation if its operation and its channel are. -/
def selected? (p : Pixel) : Option Channel :=
  match Opcode.ofByte? p.red with
  | some .setVar => Channel.ofNumber? p.green
  | some .calculate =>
    if (Arithmetic.ofBits? (p.green / 32)).isSome then Channel.ofNumber? (p.green % 4) else none
  | _ => none

/-- A calculation with a valid operation reads the channel that its operand names. -/
theorem selected?_calculate {green blue : UInt8} {op : Arithmetic} {c : Channel}
    (hop : green.toNat / 32 = op.bits.toNat) (hchannel : green.toNat % 4 = c.number.toNat) :
    (Instruction.toPixel ⟨.calculate, green, blue⟩).selected? = some c := by
  have hop' := Arithmetic.ofBits?_div_eq_some_iff.2 hop
  have hchannel' := Channel.ofNumber?_mod_eq_some_iff.2 hchannel
  have hselected : (Instruction.toPixel ⟨.calculate, green, blue⟩).selected? =
      if (Arithmetic.ofBits? (green / 32)).isSome then Channel.ofNumber? (green % 4) else none := rfl
  rw [hselected, hop', hchannel']
  rfl

end Pixel

namespace Grid

/-- Grids of the same dimensions. -/
structure SameSize (g h : Grid) : Prop where
  width_eq : h.width = g.width
  height_eq : h.height = g.height

/-- Grids agree for a cursor if its cells are the same to a machine, and the cells ahead of it have the
same byte in the channel that is read, if one is. -/
def AgreeFor (g h : Grid) (l : Location) (d : Direction) : Prop :=
  ∀ p ∈ g.get? l, ∀ q ∈ h.get? l,
    p.SameUse q ∧ ∀ c ∈ p.selected?, (g.read l d 1).get c = (h.read l d 1).get c

instance (g h : Grid) (l : Location) (d : Direction) : Decidable (g.AgreeFor h l d) :=
  inferInstanceAs (Decidable (∀ _ ∈ _, _))

/-- A grid agrees with itself. -/
theorem AgreeFor.refl (g : Grid) (l : Location) (d : Direction) : g.AgreeFor g l d := by
  intro p hp q hq
  obtain rfl : p = q := Option.some.inj (hp.symm.trans hq)
  exact ⟨⟨rfl, fun _ _ => rfl⟩, fun _ _ => rfl⟩

variable {g h : Grid}

/-- Moves on grids of the same size lead to the same place. -/
theorem SameSize.offset_eq (hsize : g.SameSize h) (l : Location) (d : Direction) (advance : Nat) :
    h.offset l d advance = g.offset l d advance := by
  rw [offset, offset, hsize.width_eq, hsize.height_eq]

/-- On grids of the same size, a place has the same number. -/
theorem SameSize.index_eq (hsize : g.SameSize h) (l : Location) : h.index l = g.index l := by
  rw [index, index, hsize.width_eq]

/-- Grids of the same size have as many cells. -/
theorem SameSize.size_eq (hsize : g.SameSize h) : h.cells.size = g.cells.size := by
  rw [h.size_eq, g.size_eq, hsize.width_eq, hsize.height_eq]

/-- On grids of the same size, the same places have no cell. -/
theorem SameSize.get?_eq_none_iff (hsize : g.SameSize h) (l : Location) :
    h.get? l = none ↔ g.get? l = none := by
  simp only [get?, Array.getElem?_eq_none_iff, hsize.index_eq, hsize.size_eq]

end Grid

/-! ## Settings -/

/-- What a machine carries along and hardly looks at. -/
structure Setting where
  /-- The program. -/
  grid : Grid
  /-- All codes of the input, read and unread. -/
  codes : Array UInt8
  /-- What was printed before. -/
  printed : String
  /-- The number of steps before. -/
  counted : Nat

/-- The state in another setting: it has the other codes, of which as many are read, and what it has
printed comes after what was printed before. -/
def State.inSetting (s : State) (w : Setting) : State :=
  { s with
    input := ⟨w.codes, s.input.position⟩
    output := ⟨w.printed ++ s.output.text⟩ }

/-- The machine in another setting. -/
def Machine.inSetting (m : Machine) (w : Setting) : Machine where
  grid := w.grid
  state := m.state.inSetting w
  status := m.status
  steps := w.counted + m.steps

/-- In the setting `w`, an instruction with the pixel `q` finds what `i` reads on `g` in the state `s`: the
same operands, the same byte ahead, and the same code. -/
structure Instruction.Finds (i : Instruction) (g : Grid) (s : State) (q : Pixel) (w : Setting) :
    Prop where
  operands_eq : i.kind.operands i.toPixel = i.kind.operands q
  ahead_eq : ∀ c ∈ i.toPixel.selected?,
    (s.ahead g).get c = ((s.inSetting w).ahead w.grid).get c
  code_eq : i.kind = .input →
    w.codes[s.input.position]? = s.input.codes[s.input.position]?

variable {g : Grid} {s t : State} {i : Instruction} {q : Pixel} {w : Setting} {fault : Fault}

/-- The operand bits of a calculation are its operation, its channel and its register. -/
theorem Opcode.operands_calculate {green blue : UInt8}
    (h : Opcode.calculate.operands (Instruction.toPixel ⟨.calculate, green, blue⟩) =
      Opcode.calculate.operands q) :
    green.toNat / 32 = q.green.toNat / 32 ∧ green.toNat % 4 = q.green.toNat % 4 ∧
      blue = q.blue := by
  simp only [operands, List.cons.injEq, and_true] at h
  obtain ⟨hop, hchannel, hblue⟩ := h
  have hop' := congrArg UInt8.toNat hop
  have hchannel' := congrArg UInt8.toNat hchannel
  rw [UInt8.toNat_div, UInt8.toNat_div] at hop'
  rw [UInt8.toNat_mod, UInt8.toNat_mod] at hchannel'
  exact ⟨hop', hchannel', hblue⟩

/-- An instruction that finds what it reads does the same in the setting. -/
theorem Executes.inSetting (h : Executes g s i t) (hfinds : i.Finds g s q w) :
    Executes w.grid (s.inSetting w) ⟨i.kind, q.green, q.blue⟩ (t.inSetting w) := by
  obtain ⟨hoperands, hahead, hcode⟩ := hfinds
  cases h with
  | halt green blue => exact .halt _ _
  | setVar c hchannel =>
    cases hoperands
    have hbyte := hahead c (Channel.ofNumber?_eq_some_iff.2 hchannel)
    rw [hbyte]
    exact .setVar c hchannel
  | calculate op c hop hchannel hdiv hvalue =>
    have hbyte := hahead c (Pixel.selected?_calculate hop hchannel)
    obtain ⟨hop', hchannel', hblue⟩ := Opcode.operands_calculate hoperands
    cases hblue
    rw [hbyte] at hdiv hvalue
    exact .calculate op c (hop'.symm.trans hop) (hchannel'.symm.trans hchannel) hdiv hvalue
  | defineFunction green blue =>
    cases hoperands
    exact .defineFunction _ _
  | defineTry green blue =>
    cases hoperands
    exact .defineTry _ _
  | ret caller rest hcalls => exact .ret caller rest hcalls
  | turn heq =>
    cases hoperands
    exact .turn heq
  | pass hne =>
    cases hoperands
    exact .pass hne
  | output hprint =>
    cases hoperands
    have hexec : Executes w.grid (s.inSetting w) ⟨.output, q.green, q.blue⟩ _ := .output hprint
    -- what is printed comes after what was printed before
    simp only [State.inSetting, ← String.append_singleton, ← String.append_assoc] at hexec ⊢
    exact hexec
  | input code hcode' =>
    cases hoperands
    exact .input code ((hcode rfl).trans hcode')
  | call slot hslot =>
    cases hoperands
    exact .call slot hslot
  | nop green blue => exact .nop _ _

/-- An instruction that finds what it reads fails in the setting as well, with the same fault. -/
theorem Fails.inSetting (h : Fails g s i fault) (hfinds : i.Finds g s q w) :
    Fails w.grid (s.inSetting w) ⟨i.kind, q.green, q.blue⟩ fault := by
  obtain ⟨hoperands, hahead, hcode⟩ := hfinds
  cases h with
  | setVar hchannel =>
    cases hoperands
    exact .setVar hchannel
  | calculate hparameter =>
    obtain ⟨hop, hchannel, -⟩ := Opcode.operands_calculate hoperands
    rw [hop, hchannel] at hparameter
    exact .calculate hparameter
  | divide c hop hchannel hzero =>
    have hbyte := hahead c (Pixel.selected?_calculate hop hchannel)
    obtain ⟨hop', hchannel', -⟩ := Opcode.operands_calculate hoperands
    exact .divide c (hop'.symm.trans hop) (hchannel'.symm.trans hchannel) (hbyte.symm.trans hzero)
  | ret hcalls => exact .ret hcalls
  | throw green blue =>
    cases hoperands
    exact .throw _ _
  | output hprint =>
    cases hoperands
    exact .output hprint
  | input hcode' =>
    cases hoperands
    exact .input ((hcode rfl).trans hcode')
  | call hslot =>
    cases hoperands
    exact .call hslot

namespace Machine

variable {m : Machine}

/-! ## One step -/

/-- In the setting `w`, the machine finds what its next step reads where it is. -/
structure ReadsAlike (m : Machine) (w : Setting) : Prop where
  /-- The cells of the cursor are the same to a machine, and so are the cells ahead of it. -/
  agree : m.grid.AgreeFor w.grid m.state.location m.state.direction
  /-- If an input is next, then so are the codes that it reads. -/
  code_eq : (m.grid.get? m.state.location).map Pixel.red = some Opcode.input.byte →
    w.codes[m.state.input.position]? = m.state.input.codes[m.state.input.position]?

/-- What a machine reads alike, its instruction finds. -/
theorem ReadsAlike.finds (h : m.ReadsAlike w) (hp : m.grid.get? m.state.location = some i.toPixel)
    (hq : w.grid.get? m.state.location = some q) :
    (⟨i.kind, q.green, q.blue⟩ : Instruction).toPixel = q ∧ i.Finds m.grid m.state q w := by
  obtain ⟨⟨hred, hoperands⟩, hahead⟩ := h.agree _ hp _ hq
  refine ⟨Pixel.ext hred rfl rfl, ?_, hahead, ?_⟩
  · exact hoperands i.kind (Opcode.ofByte?_byte i.kind)
  · intro hinput
    refine h.code_eq ?_
    rw [hp, Option.map_some, ← hinput]
    rfl

/-- What a machine is about to do, it does with the pixel under its cursor. -/
theorem exists_of_deed? {d : Deed} (h : m.deed? = some d) :
    ∃ p, m.grid.get? m.state.location = some p ∧ Deed.ofPixel p m.state m.grid = d := by
  rw [deed?, if_pos (status_of_deed? h)] at h
  exact Option.map_eq_some_iff.1 h

section

variable (hsize : m.grid.SameSize w.grid) (hreads : m.status = .running → m.ReadsAlike w)

include hsize

/-- Where the machine has a pixel, there is one in the setting. -/
theorem exists_get?_inSetting {p : Pixel} (hp : m.grid.get? m.state.location = some p) :
    ∃ q, w.grid.get? m.state.location = some q := by
  rw [← Option.ne_none_iff_exists']
  intro hnone
  rw [hsize.get?_eq_none_iff] at hnone
  cases hnone.symm.trans hp

/-- A machine that does nothing does nothing in the setting. -/
theorem step_inSetting_of_deed?_none (hdeed : m.deed? = none) :
    (m.inSetting w).step.machine = m.step.machine.inSetting w ∧
      (m.inSetting w).step.result = m.step.result := by
  by_cases hrun : m.status = .running
  · -- a running machine without a cell finds none in the setting
    have hrun' : (m.inSetting w).status = .running := hrun
    rw [deed?, if_pos hrun, Option.map_eq_none_iff] at hdeed
    have hdeed' := (hsize.get?_eq_none_iff _).2 hdeed
    have hget : (m.inSetting w).grid.get? (m.inSetting w).state.location = none := hdeed'
    rw [step, step, if_pos hrun, if_pos hrun', hdeed, hget]
    refine ⟨rfl, ?_⟩
    simp only [inSetting, State.inSetting, hsize.index_eq, hsize.size_eq]
  · have hrun' : (m.inSetting w).status ≠ .running := hrun
    rw [step_of_not_running hrun, step_of_not_running hrun']
    exact ⟨rfl, rfl⟩

include hreads

/-- A machine that carries out an instruction carries out one of the same kind in the setting. -/
theorem deed?_inSetting_of_executed (hdeed : m.deed? = some (.executed i))
    (hexec : Executes m.grid m.state i t) :
    ∃ j : Instruction, j.kind = i.kind ∧ (m.inSetting w).deed? = some (.executed j) ∧
      Executes w.grid (m.state.inSetting w) j (t.inSetting w) := by
  have hrun := status_of_deed? hdeed
  have hp := (executes_of_deed? hdeed).1
  obtain ⟨q, hq⟩ := exists_get?_inSetting hsize hp
  obtain ⟨hpixel, hfinds⟩ := (hreads hrun).finds hp hq
  have hexec' := hexec.inSetting hfinds
  refine ⟨⟨i.kind, q.green, q.blue⟩, rfl, ?_, hexec'⟩
  have hdeed' : (m.inSetting w).deed? = some (Deed.ofPixel q (m.state.inSetting w) w.grid) :=
    deed?_of_get? (m := m.inSetting w) hrun hq
  rw [hdeed', Deed.ofPixel_eq_executed_iff.2 ⟨hpixel.symm, _, hexec'⟩]

/-- A machine that runs into a fault runs into it in the setting. -/
theorem deed?_inSetting_of_raised (hdeed : m.deed? = some (.raised fault)) :
    (m.inSetting w).deed? = some (.raised fault) := by
  have hrun := status_of_deed? hdeed
  obtain ⟨p, hp, hraised⟩ := exists_of_deed? hdeed
  obtain ⟨q, hq⟩ := exists_get?_inSetting hsize hp
  have hdeed' : (m.inSetting w).deed? = some (Deed.ofPixel q (m.state.inSetting w) w.grid) :=
    deed?_of_get? (m := m.inSetting w) hrun hq
  rw [hdeed', Option.some.injEq, Deed.ofPixel_eq_raised_iff_fails]
  rcases Deed.ofPixel_eq_raised_iff_fails.1 hraised with ⟨hnone, hfault⟩ | ⟨i, rfl, hfails⟩
  · obtain ⟨⟨hred, -⟩, -⟩ := (hreads hrun).agree p hp q hq
    exact .inl ⟨hred ▸ hnone, hfault⟩
  · obtain ⟨hpixel, hfinds⟩ := (hreads hrun).finds hp hq
    exact .inr ⟨_, hpixel.symm, hfails.inSetting hfinds⟩

/-- If a machine finds in a setting what its next step reads where it is, then the step leads in the
setting to where it leads, and has the same result. -/
theorem step_inSetting :
    (m.inSetting w).step.machine = m.step.machine.inSetting w ∧
      (m.inSetting w).step.result = m.step.result := by
  rcases step_cases m with ⟨hdeed, -⟩ | ⟨i, t, hdeed, hexec, hafter, hresult⟩ |
    ⟨fault, handler, hdeed, htry, hrecover, hresult⟩ | ⟨fault, hdeed, htry, hfail, hresult⟩
  · exact step_inSetting_of_deed?_none hsize hdeed
  · obtain ⟨j, hkind, hdeed', hexec'⟩ := deed?_inSetting_of_executed hsize hreads hdeed hexec
    obtain ⟨hafter', hresult'⟩ := step_of_executed hdeed' hexec'
    rw [hafter, hafter', hresult, hresult']
    refine ⟨?_, rfl⟩
    simp only [after, Instruction.width, hkind, inSetting, State.inSetting, hsize.offset_eq,
      Nat.add_assoc]
  · have hdeed' := deed?_inSetting_of_raised hsize hreads hdeed
    obtain ⟨hrecover', hresult'⟩ := step_of_recovered (m := m.inSetting w) hdeed' htry
    rw [hrecover, hrecover', hresult, hresult']
    refine ⟨?_, rfl⟩
    simp only [recover, inSetting, State.inSetting, State.setRegister, hsize.offset_eq,
      Nat.add_assoc]
  · have hdeed' := deed?_inSetting_of_raised hsize hreads hdeed
    obtain ⟨hfail', hresult'⟩ := step_of_uncaught (m := m.inSetting w) hdeed' htry
    rw [hfail, hfail', hresult, hresult']
    exact ⟨rfl, rfl⟩

end

/-! ## Runs -/

/-- A machine that finds in a setting what its steps read where it is runs there as it does where it is,
and each step has the same result. -/
theorem stepN_inSetting {n : Nat} (hsize : m.grid.SameSize w.grid)
    (hreads : ∀ k < n, (m.stepN k).status = .running → (m.stepN k).ReadsAlike w) :
    (m.inSetting w).stepN n = (m.stepN n).inSetting w ∧
      ∀ k < n, ((m.inSetting w).stepN k).step.result = (m.stepN k).step.result := by
  induction n with
  | zero => exact ⟨rfl, fun k hk => absurd hk (Nat.not_lt_zero k)⟩
  | succ n ih =>
    obtain ⟨hmachine, hresults⟩ := ih fun k hk => hreads k (Nat.lt_succ_of_lt hk)
    have hsize' : (m.stepN n).grid.SameSize w.grid := by rwa [grid_stepN]
    obtain ⟨hstep, hresult⟩ := step_inSetting hsize' (hreads n (Nat.lt_succ_self n))
    refine ⟨?_, ?_⟩
    · rw [stepN_succ, stepN_succ, hmachine, hstep]
    · intro k hk
      obtain hlt | rfl := Nat.lt_succ_iff_lt_or_eq.1 hk
      · exact hresults k hlt
      · rw [hmachine, hresult]

/-- A run from the start on another grid and input is the same run in another setting. -/
theorem stepN_run_new_inSetting {g h : Grid} {a c : Input} {n : Nat} (hsize : g.SameSize h)
    (hreads : ∀ k < n, ((new g a).run.stepN k).status = .running →
      ((new g a).run.stepN k).ReadsAlike ⟨h, c.codes, "", 0⟩) :
    (∀ k ≤ n, (new h c).run.stepN k = ((new g a).run.stepN k).inSetting ⟨h, c.codes, "", 0⟩) ∧
      ∀ k < n, ((new h c).run.stepN k).step.result = ((new g a).run.stepN k).step.result := by
  have hstart : (new h c).run = (new g a).run.inSetting ⟨h, c.codes, "", 0⟩ := rfl
  have hsize' : (new g a).run.grid.SameSize h := hsize
  rw [hstart]
  refine ⟨?_, (stepN_inSetting hsize' hreads).2⟩
  intro k hk
  exact (stepN_inSetting hsize' fun j hj => hreads j (Nat.lt_of_lt_of_le hj hk)).1

/-! ## Unused bits of the grid -/

/-- A state is the same in a setting with its own codes in which nothing was printed before. -/
theorem inSetting_eq_self (hcodes : w.codes = s.input.codes) (hprinted : w.printed = "") :
    s.inSetting w = s := by
  simp only [State.inSetting, hcodes, hprinted, String.empty_append]

/-- Only the bits that its instructions use can influence a run. Take two grids of the same dimensions,
and a run of the first. If, at each of its first `n` steps that finds it running, the cells under the
cursor have the same red byte and agree on the operand bits of this opcode, and the cells ahead agree on
the channel that is selected, if one is, then the second grid has the same run: after every one of these
steps it is in the same state, with the same status and number of steps, and every step has the same
result. -/
theorem stepN_of_agree (g h : Grid) (hwidth : h.width = g.width) (hheight : h.height = g.height)
    (input : Input) (n : Nat)
    (hagree : ∀ k < n, ((new g input).run.stepN k).status = .running →
      g.AgreeFor h ((new g input).run.stepN k).state.location
        ((new g input).run.stepN k).state.direction) :
    let r := (new g input).run
    let s := (new h input).run
    (∀ k ≤ n, (s.stepN k).state = (r.stepN k).state ∧ (s.stepN k).status = (r.stepN k).status ∧
      (s.stepN k).steps = (r.stepN k).steps) ∧
    ∀ k < n, (s.stepN k).step.result = (r.stepN k).step.result := by
  intro r s
  have hreads : ∀ k < n, (r.stepN k).status = .running →
      (r.stepN k).ReadsAlike ⟨h, input.codes, "", 0⟩ := by
    intro k hk hrun
    refine ⟨?_, fun _ => ?_⟩
    · rw [grid_stepN]
      exact hagree k hk hrun
    · rw [codes_stepN]
      rfl
  obtain ⟨hmachines, hresults⟩ := stepN_run_new_inSetting ⟨hwidth, hheight⟩ hreads
  refine ⟨?_, hresults⟩
  intro k hk
  have hcodes : input.codes = (r.stepN k).state.input.codes := (codes_stepN r k).symm
  rw [hmachines k hk]
  exact ⟨inSetting_eq_self hcodes rfl, rfl, Nat.zero_add _⟩

/-- A program that sets a register, adds to it, prints it, and fails on a cell that is no instruction. -/
def painted : Grid :=
  .paint 6 1 #[⟨1, 3, 1⟩, ⟨0, 0, 65⟩, ⟨2, 33, 1⟩, ⟨2, 0, 0⟩, ⟨8, 0, 1⟩, ⟨99, 0, 0⟩] (by decide)

/-- The same program with other values wherever a cell has bits that are not used. -/
def repainted : Grid :=
  .paint 6 1 #[⟨1, 3, 1⟩, ⟨7, 9, 65⟩, ⟨2, 61, 1⟩, ⟨2, 40, 50⟩, ⟨8, 77, 1⟩, ⟨99, 3, 4⟩] (by decide)

/-- The repainted program prints what the painted one prints, and fails as it does. -/
theorem stepN_of_agree_repainted :
    let r := (new painted .empty).run
    let s := (new repainted .empty).run
    (∀ k < 5, (r.stepN k).status = .running →
      painted.AgreeFor repainted (r.stepN k).state.location (r.stepN k).state.direction) ∧
    (s.stepN 5).state.output.text = "C" ∧ (s.stepN 5).status = .faulted 5 ∧
    (s.stepN 3).step.result = (r.stepN 3).step.result := by
  intro r s
  have hagree : ∀ k < 5, (r.stepN k).status = .running →
      painted.AgreeFor repainted (r.stepN k).state.location (r.stepN k).state.direction := by
    decide +kernel
  obtain ⟨hsame, hresult⟩ := stepN_of_agree painted repainted rfl rfl .empty 5 hagree
  obtain ⟨hstate, hstatus, -⟩ := hsame 5 (Nat.le_refl 5)
  have houtput : (r.stepN 5).state.output.text = "C" := by decide +kernel
  have hfailed : (r.stepN 5).status = .faulted 5 := by decide +kernel
  exact ⟨hagree, (congrArg (fun t => t.output.text) hstate).trans houtput, hstatus.trans hfailed,
    hresult 3 (by decide)⟩

/-! ## Unread input -/

/-- The next step is an input that fails, for all codes are read. -/
def Starves (m : Machine) : Prop :=
  (m.grid.get? m.state.location).map Pixel.red = some Opcode.input.byte ∧
    m.deed? = some (.raised (.builtin .inputStreamEmpty))

instance (m : Machine) : Decidable m.Starves :=
  inferInstanceAs (Decidable (_ ∧ _))

/-- An input that does not fail reads the next code. -/
theorem exists_code_of_not_starves (hrun : m.status = .running) (hstarves : ¬ m.Starves)
    (hpixel : (m.grid.get? m.state.location).map Pixel.red = some Opcode.input.byte) :
    ∃ code, m.state.input.codes[m.state.input.position]? = some code ∧
      m.step.machine.state.input.position = m.state.input.position + 1 := by
  obtain ⟨⟨red, green, blue⟩, hp, rfl⟩ := Option.map_eq_some_iff.1 hpixel
  have hdeed := deed?_of_get? hrun hp
  cases hcode : m.state.input.codes[m.state.input.position]? with
  | none =>
    have hraised := Deed.ofPixel_eq_raised_iff_fails.2
      (.inr ⟨⟨.input, green, blue⟩, rfl, Fails.input (g := m.grid) hcode⟩)
    exact absurd ⟨hpixel, hdeed.trans (congrArg some hraised)⟩ hstarves
  | some code =>
    have hexec : Executes m.grid m.state ⟨.input, green, blue⟩ _ := .input code hcode
    have hexecuted := Deed.ofPixel_eq_executed_iff.2 ⟨rfl, _, hexec⟩
    have hafter := (step_of_executed (hdeed.trans (congrArg some hexecuted)) hexec).1
    exact ⟨code, rfl, by rw [hafter]; rfl⟩

/-- A code among the first ones is the same in all inputs that begin with them. -/
theorem getElem?_eq_some_of_take {a b : Array UInt8} {p j : Nat} {code : UInt8}
    (htake : a.toList.take p <+: b.toList) (hj : j < p) (hcode : a[j]? = some code) :
    b[j]? = some code := by
  have hfirst : (a.toList.take p)[j]? = some code := by
    rw [List.getElem?_take_of_lt hj, Array.getElem?_toList, hcode]
  obtain ⟨rest, hrest⟩ := htake
  have hlength := (List.getElem?_eq_some_iff.1 hfirst).1
  rw [← Array.getElem?_toList, ← hrest, List.getElem?_append_left hlength, hfirst]

/-- Input that is not read cannot influence a run. Take a run on the input `a`. If none of its first `n`
steps is an input that fails for want of codes, then the run on any input that begins with the codes that
these steps have read is the same: after every one of these steps it is in the same state but for the
codes themselves, with the same status and number of steps, and every step has the same result. -/
theorem stepN_of_unread (g : Grid) (a c : Input) (n : Nat)
    (hfed : ∀ k < n, ¬ ((new g a).run.stepN k).Starves)
    (hcodes : a.codes.toList.take ((new g a).run.stepN n).state.input.position <+: c.codes.toList) :
    let r := (new g a).run
    let s := (new g c).run
    (∀ k ≤ n,
      (s.stepN k).state =
        { (r.stepN k).state with input := ⟨c.codes, (r.stepN k).state.input.position⟩ } ∧
      (s.stepN k).status = (r.stepN k).status ∧ (s.stepN k).steps = (r.stepN k).steps) ∧
    ∀ k < n, (s.stepN k).step.result = (r.stepN k).step.result := by
  intro r s
  have hreads : ∀ k < n, (r.stepN k).status = .running →
      (r.stepN k).ReadsAlike ⟨g, c.codes, "", 0⟩ := by
    intro k hk hrun
    refine ⟨?_, fun hpixel => ?_⟩
    · rw [grid_stepN]
      exact .refl g _ _
    · obtain ⟨code, hcode, hposition⟩ := exists_code_of_not_starves hrun (hfed k hk) hpixel
      -- the code is read by the end of the run, so it is one of those that are the same
      have hlt : (r.stepN k).state.input.position < (r.stepN n).state.input.position := by
        have hmono := (r.growsTo_of_le (Nat.succ_le_of_lt hk)).position
        rw [stepN_succ, hposition] at hmono
        exact hmono
      rw [codes_stepN] at hcode ⊢
      have hcode' : c.codes[(r.stepN k).state.input.position]? = some code :=
        getElem?_eq_some_of_take hcodes hlt hcode
      exact hcode'.trans hcode.symm
  obtain ⟨hmachines, hresults⟩ := stepN_run_new_inSetting ⟨rfl, rfl⟩ hreads
  refine ⟨?_, hresults⟩
  intro k hk
  rw [hmachines k hk]
  refine ⟨?_, rfl, Nat.zero_add _⟩
  simp only [inSetting, State.inSetting, String.empty_append, r]

/-- A program that prints each code that it has read, over and over. -/
def parrot : Grid := .paint 2 1 #[⟨9, 0, 1⟩, ⟨8, 0, 1⟩] (by decide)

/-- Two steps on two inputs that begin with the same code print the same. -/
theorem stepN_of_unread_parrot :
    let r := (new parrot (.ofCodes [65])).run
    let s := (new parrot (.ofCodes [65, 66, 67])).run
    (∀ k < 2, ¬ (r.stepN k).Starves) ∧
    (s.stepN 2).state.output.text = "A" ∧
    (s.stepN 2).state.input = ⟨#[65, 66, 67], 1⟩ ∧
    (s.stepN 2).status = (r.stepN 2).status := by
  intro r s
  have hfed : ∀ k < 2, ¬ (r.stepN k).Starves := by decide +kernel
  have hposition : (r.stepN 2).state.input.position = 1 := by decide +kernel
  have hcodes : (Input.ofCodes [65]).codes.toList.take (r.stepN 2).state.input.position <+:
      (Input.ofCodes [65, 66, 67]).codes.toList := by
    rw [hposition]
    exact ⟨[66, 67], rfl⟩
  obtain ⟨hsame, -⟩ := stepN_of_unread parrot (.ofCodes [65]) (.ofCodes [65, 66, 67]) 2 hfed hcodes
  obtain ⟨hstate, hstatus, -⟩ := hsame 2 (Nat.le_refl 2)
  have houtput : (r.stepN 2).state.output.text = "A" := by decide +kernel
  refine ⟨hfed, ?_, ?_, hstatus⟩
  · rw [show (s.stepN 2).state = _ from hstate]
    exact houtput
  · rw [show (s.stepN 2).state = _ from hstate, hposition]
    rfl

/-! ## Output and the number of steps -/

/-- A machine that has printed and counted nothing yet, but is otherwise the same. -/
def bare (m : Machine) : Machine :=
  { m with state := { m.state with output := .empty }, steps := 0 }

/-- The setting of a machine itself. -/
def setting (m : Machine) : Setting :=
  ⟨m.grid, m.state.input.codes, m.state.output.text, m.steps⟩

/-- A machine is the bare one in its own setting. -/
theorem bare_inSetting (m : Machine) : m.bare.inSetting m.setting = m := by
  simp only [bare, setting, inSetting, State.inSetting, Output.empty, String.append_empty,
    Nat.add_zero]

/-- What a machine prints and counts comes after what it had printed and counted before. -/
theorem stepN_eq_bare_inSetting (m : Machine) (n : Nat) :
    m.stepN n = (m.bare.stepN n).inSetting m.setting ∧
      ∀ k < n, (m.stepN k).step.result = (m.bare.stepN k).step.result := by
  have hsize : m.bare.grid.SameSize m.setting.grid := ⟨rfl, rfl⟩
  have hreads : ∀ k < n, (m.bare.stepN k).status = .running →
      (m.bare.stepN k).ReadsAlike m.setting := by
    intro k hk hrun
    refine ⟨?_, fun _ => ?_⟩
    · rw [grid_stepN]
      exact .refl m.grid _ _
    · rw [codes_stepN]
      rfl
  have h := stepN_inSetting hsize hreads
  rw [bare_inSetting] at h
  exact h

/-- Output and the number of steps are written and never read. Machines on one grid that have the same
status and differ in their output and their number of steps only stay so: after any number of steps they
agree on all else, every step has had the same result in both, and both have the same text added to their
outputs and the same number added to their steps. -/
theorem stepN_of_output (m₁ m₂ : Machine) (hgrid : m₂.grid = m₁.grid)
    (hstate : m₂.state = { m₁.state with output := m₂.state.output })
    (hstatus : m₂.status = m₁.status) (n : Nat) :
    (m₂.stepN n).state = { (m₁.stepN n).state with output := (m₂.stepN n).state.output } ∧
    (m₂.stepN n).status = (m₁.stepN n).status ∧
    (∀ k < n, (m₂.stepN k).step.result = (m₁.stepN k).step.result) ∧
    ∃ text k, k ≤ n ∧
      (m₁.stepN n).state.output.text = m₁.state.output.text ++ text ∧
      (m₂.stepN n).state.output.text = m₂.state.output.text ++ text ∧
      (m₁.stepN n).steps = m₁.steps + k ∧
      (m₂.stepN n).steps = m₂.steps + k := by
  have hbare : m₂.bare = m₁.bare := by
    rw [bare, bare, hgrid, hstate, hstatus]
  obtain ⟨h₁, hresult₁⟩ := m₁.stepN_eq_bare_inSetting n
  obtain ⟨h₂, hresult₂⟩ := m₂.stepN_eq_bare_inSetting n
  rw [hbare] at h₂ hresult₂
  have hcodes : m₂.state.input.codes = m₁.state.input.codes := by rw [hstate]
  refine ⟨?_, ?_, ?_, (m₁.bare.stepN n).state.output.text, (m₁.bare.stepN n).steps, ?_, ?_, ?_, ?_, ?_⟩
  · rw [h₁, h₂]
    simp only [inSetting, State.inSetting, setting, hcodes]
  · rw [h₁, h₂]
    rfl
  · intro k hk
    exact (hresult₂ k hk).trans (hresult₁ k hk).symm
  · have hle := m₁.bare.steps_stepN_le n
    exact hle.trans_eq (Nat.zero_add n)
  · rw [h₁]
    rfl
  · rw [h₂]
    rfl
  · rw [h₁]
    rfl
  · rw [h₂]
    rfl

/-- The parrot at the start of its program, with one code to read. -/
def perched (printed : String) (counted : Nat) : Machine :=
  ⟨parrot, { State.start (.ofCodes [65]) with output := ⟨printed⟩ }, .running, counted⟩

/-- Two parrots read, print and starve alike, whatever they have printed and counted before. -/
theorem stepN_of_output_perched :
    let m₁ := perched "hello" 7
    let m₂ := perched "" 40
    (m₂.stepN 3).status = .faulted 2 ∧
    (m₂.stepN 2).step.result = (m₁.stepN 2).step.result ∧
    ∃ text k, k ≤ 3 ∧
      (m₁.stepN 3).state.output.text = "hello" ++ text ∧
      (m₂.stepN 3).state.output.text = "" ++ text ∧
      (m₁.stepN 3).steps = 7 + k ∧ (m₂.stepN 3).steps = 40 + k := by
  intro m₁ m₂
  obtain ⟨-, hstatus, hresult, hadded⟩ := stepN_of_output m₁ m₂ rfl rfl rfl 3
  have hfailed : (m₁.stepN 3).status = .faulted 2 := by decide +kernel
  exact ⟨hstatus.trans hfailed, hresult 2 (by decide), hadded⟩

end Machine

end PixelMachine
