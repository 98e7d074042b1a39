import PixelMachine.Proofs.Torus

/-!
# Tilings

A grid can be laid out with copies of another one, side by side. On a torus this changes nothing that a
program could notice: whoever leaves the one grid on one side comes back on the other, and whoever leaves a
copy enters the next.

The tiling covers its tile along the reduction of coordinates modulo the dimensions of the tile
(`Grid.IsTiling.covers`), so a run on the tile is the reduced run on the tiling. `Machine.ReducesTo` says
of two machines what this means for each of their parts, and the main result is `Machine.stepN_tiling`.
-/

set_option autoImplicit false

namespace PixelMachine

namespace Grid

/-- The place in a tile: the coordinates modulo the dimensions. -/
def reduced (g : Grid) (l : Location) : Location := ⟨l.x % g.width, l.y % g.height⟩

/-- Every place goes to its place in a tile, and directions stay. -/
def reduction (g : Grid) : Relocation := ⟨g.reduced, id⟩

/-- The grid `t` is so many columns and so many rows of copies of the grid `g`. -/
structure IsTiling (t g : Grid) (columns rows : Nat) : Prop where
  width_eq : t.width = columns * g.width
  height_eq : t.height = rows * g.height
  get?_eq : ∀ l, t.Contains l → t.get? l = g.get? (g.reduced l)

variable {t g : Grid} {columns rows : Nat}

/-- A reduced place is on the tile. -/
theorem contains_reduced (g : Grid) (l : Location) : g.Contains (g.reduced l) :=
  ⟨Nat.mod_lt l.x g.width_pos, Nat.mod_lt l.y g.height_pos⟩

/-- Whole coordinates may be taken modulo the tiling first, for its dimensions are multiples. -/
theorem IsTiling.reduced_locate (h : t.IsTiling g columns rows) (x y : ℤ) :
    g.reduced (t.locate x y) = g.locate x y := by
  have hwidth : (g.width : ℤ) ∣ t.width :=
    Int.natCast_dvd_natCast.2 (h.width_eq ▸ Nat.dvd_mul_left g.width columns)
  have hheight : (g.height : ℤ) ∣ t.height :=
    Int.natCast_dvd_natCast.2 (h.height_eq ▸ Nat.dvd_mul_left g.height rows)
  refine Location.ext (Int.natCast_inj.1 ?_) (Int.natCast_inj.1 ?_)
  · rw [reduced, Int.natCast_emod, locate_x, locate_x, Int.emod_emod_of_dvd x hwidth]
  · rw [reduced, Int.natCast_emod, locate_y, locate_y, Int.emod_emod_of_dvd y hheight]

/-- A tiling covers its tile. -/
theorem IsTiling.covers (h : t.IsTiling g columns rows) : g.reduction.Covers t g where
  contains l _ := g.contains_reduced l
  get?_eq l hl := (h.get?_eq l hl).symm
  isUnit d hd := hd
  rotated_eq _ _ := rfl
  offset_eq l d advance hl _ hadvance := by
    have hmove : g.offset (g.reduced l) d advance =
        g.locate (l.x + d.dx.toInt * advance) (l.y + d.dy.toInt * advance) := by
      rw [offset_eq_locate (g.contains_reduced l) hadvance, reduced]
      refine locate_congr ?_ ?_
      · rw [Int.natCast_emod, Int.emod_add_emod]
      · rw [Int.natCast_emod, Int.emod_add_emod]
    rw [offset_eq_locate hl hadvance]
    exact (h.reduced_locate _ _).trans hmove.symm

end Grid

namespace Machine

/-- The one machine does on a larger grid what the other one does on a tile of it: they agree in all that
is no place, and in the places modulo the dimensions of the tile. -/
structure ReducesTo (wide narrow : Machine) : Prop where
  registers : wide.state.registers = narrow.state.registers
  direction : wide.state.direction = narrow.state.direction
  input : wide.state.input = narrow.state.input
  output : wide.state.output = narrow.state.output
  status : wide.status = narrow.status
  steps : wide.steps = narrow.steps
  cursor : narrow.grid.reduced wide.state.location = narrow.state.location
  /-- The same functions are bound, with the same parameters. -/
  functions : ∀ id, (wide.state.function? id).map
    (fun slot => ⟨narrow.grid.reduced slot.location, slot.param⟩) = narrow.state.function? id
  /-- A handler is pending in both, with the same register, or in neither. -/
  tryHandler : wide.state.tryHandler.map
    (fun handler => ⟨narrow.grid.reduced handler.location, handler.dest⟩) = narrow.state.tryHandler
  depth : wide.state.callStack.depth = narrow.state.callStack.depth
  calls : wide.state.callStack.calls.map narrow.grid.reduced = narrow.state.callStack.calls

/-- A machine reduces to the one on the tile. -/
theorem reducesTo_relocated (m : Machine) (g : Grid) :
    m.ReducesTo (m.relocated g.reduction g) where
  registers := rfl
  direction := rfl
  input := rfl
  output := rfl
  status := rfl
  steps := rfl
  cursor := rfl
  functions id := (State.function?_relocated (r := g.reduction) m.state id).symm
  tryHandler := rfl
  depth := rfl
  calls := rfl

/-- All runs start at the origin, and nothing else is remembered at the start. -/
theorem run_relocated (t g : Grid) (input : Input) :
    (new g input).run = (new t input).run.relocated g.reduction g := by
  have horigin : g.reduced .origin = .origin := by
    rw [Grid.reduced, Location.origin, Nat.zero_mod, Nat.zero_mod]
  have hfunctions : (ByteTable.fill (none : Option FunctionSlot)).map
      (Option.map (FunctionSlot.relocated g.reduction)) = .fill none :=
    ByteTable.ext_get fun id => by rw [ByteTable.get_map, ByteTable.get_fill, Option.map_none]
  refine congrArg (fun s : State => (⟨g, s, .running, 0⟩ : Machine)) ?_
  refine State.ext horigin.symm rfl rfl hfunctions.symm rfl (CallStack.ext rfl) rfl rfl

/-- A tiling of a program runs as the program does. After any number of steps on the same input, the two
machines agree but that the places on the tiling count modulo the dimensions of the tile; so do the results
of the next step; and if both are driven with the same limit, both come to an end or neither does, they agree
at the end, and so do the results. -/
theorem stepN_tiling {t g : Grid} {columns rows : Nat} (h : t.IsTiling g columns rows) (input : Input) :
    (∀ n,
      let wide := (new t input).run.stepN n
      let narrow := (new g input).run.stepN n
      wide.ReducesTo narrow ∧
        narrow.step.result = wide.step.result.mapError (StepError.relocated g.reduction)) ∧
    ∀ limit, Option.Rel (fun wide narrow : Drive => wide.machine.ReducesTo narrow.machine ∧
        narrow.result = wide.result.mapError (DriveError.relocated g.reduction))
      ((new t input).drive limit) ((new g input).drive limit) := by
  have hstart := run_relocated t g input
  refine ⟨?_, ?_⟩
  · intro n wide narrow
    have hplaced := (new t input).placed_run.onGrid
    have hrun : narrow = wide.relocated g.reduction g :=
      (congrArg (fun m : Machine => m.stepN n) hstart).trans (stepN_relocated h.covers hplaced n)
    have hresult := result_relocated h.covers hplaced n
    rw [← hstart] at hresult
    exact ⟨hrun ▸ reducesTo_relocated wide g, hresult⟩
  · intro limit
    have hdrives := drive_relocated (m := new t input) h.covers hstart limit
    generalize (new t input).drive limit = wide, (new g input).drive limit = narrow at hdrives
    cases hdrives with
    | none => exact .none
    | @some wide narrow hends =>
      obtain ⟨hmachine, hresult⟩ := hends
      exact .some ⟨hmachine ▸ reducesTo_relocated wide.machine g, hresult⟩

/-- A patch that reads a code, turns and defines a function. -/
def patch : Grid :=
  .paint 2 2 #[⟨9, 0, 1⟩, ⟨6, 2, 3⟩, ⟨255, 0, 0⟩, ⟨3, 0, 7⟩] (by decide)

/-- Four patches. -/
def quilt : Grid :=
  .paint 4 4
    #[⟨9, 0, 1⟩, ⟨6, 2, 3⟩, ⟨9, 0, 1⟩, ⟨6, 2, 3⟩, ⟨255, 0, 0⟩, ⟨3, 0, 7⟩, ⟨255, 0, 0⟩, ⟨3, 0, 7⟩,
      ⟨9, 0, 1⟩, ⟨6, 2, 3⟩, ⟨9, 0, 1⟩, ⟨6, 2, 3⟩, ⟨255, 0, 0⟩, ⟨3, 0, 7⟩, ⟨255, 0, 0⟩, ⟨3, 0, 7⟩]
    (by decide)

/-- On the quilt, the second attempt to read is made in another patch than the first, and fails there. On
the patch it is the same cell. -/
theorem stepN_tiling_quilt :
    let input := Input.ofCodes [65]
    let wide := (new quilt input).run.stepN 4
    let narrow := (new patch input).run.stepN 4
    quilt.IsTiling patch 2 2 ∧
      wide.state.location = ⟨0, 2⟩ ∧
      narrow.state.location = ⟨0, 0⟩ ∧
      narrow.state.register 1 = 65 ∧
      wide.step.result = .error (.uncaught 2 (.builtin .inputStreamEmpty) ⟨0, 2⟩) ∧
      narrow.step.result = .error (.uncaught 2 (.builtin .inputStreamEmpty) ⟨0, 0⟩) ∧
      ∃ d d', (new quilt input).drive 9 = some d ∧ (new patch input).drive 9 = some d' ∧
        d.machine.steps = d'.machine.steps := by
  intro input wide narrow
  have hcells : ∀ x y : Fin 4, quilt.get? ⟨x, y⟩ = patch.get? (patch.reduced ⟨x, y⟩) := by
    decide +kernel
  have htiling : quilt.IsTiling patch 2 2 := ⟨rfl, rfl, fun l hl => hcells ⟨l.x, hl.1⟩ ⟨l.y, hl.2⟩⟩
  obtain ⟨hsteps, hdrive⟩ := stepN_tiling htiling input
  obtain ⟨hreduces, hresult⟩ := hsteps 4
  have hlocation : wide.state.location = ⟨0, 2⟩ := by decide +kernel
  have hregister : wide.state.register 1 = 65 := by decide +kernel
  have hraised : wide.deed? = some (.raised (.builtin .inputStreamEmpty)) := by decide +kernel
  have hfails := (step_of_uncaught hraised (by decide +kernel)).2
  rw [hlocation] at hfails
  obtain ⟨d, hd⟩ := (new quilt input).exists_drive 9 (by decide)
  obtain ⟨d', hd'⟩ := (new patch input).exists_drive 9 (by decide)
  have hends : d.machine.ReducesTo d'.machine := by
    have hboth := hdrive 9
    rw [hd, hd'] at hboth
    cases hboth with
    | some h => exact h.1
  refine ⟨htiling, hlocation, ?_, ?_, hfails, ?_, d, d', hd, hd', hends.steps⟩
  · have hplace : patch.reduced ⟨0, 2⟩ = ⟨0, 0⟩ := by decide
    rw [← hreduces.cursor, hlocation, grid_stepN]
    exact hplace
  · rw [State.register, ← hreduces.registers]
    exact hregister
  · rw [hresult, hfails]
    rfl

end Machine

end PixelMachine
