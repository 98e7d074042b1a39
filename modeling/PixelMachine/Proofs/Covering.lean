import PixelMachine.Proofs.Failure
import PixelMachine.Proofs.Placement

/-!
# Runs on grids that cover each other

A relocation takes the places and the directions of one grid to those of another, and with them all places
that a machine remembers (`Machine.relocated`). A grid covers another one along a relocation if a cursor
finds the same pixels on both, and travel leads from relocated places to relocated places
(`Relocation.Covers`). A grid may cover the other one more than once, for several places may go to the
same one.

A machine does not notice that it is relocated, as long as all that it remembers is on its grid
(`State.OnGrid`): the rules of execution (`Executes.relocated`) and of failure (`Fails.relocated`) hold of
the relocated state if they hold of the state. So a step of the relocated machine is the relocated step
(`Machine.step_relocated`), and by induction the same is true of runs (`Machine.stepN_relocated`) and of
drives (`Machine.drive_relocated`).
-/

set_option autoImplicit false

namespace PixelMachine

/-! ## Relocations -/

/-- Where the places and the directions of a grid go. -/
structure Relocation where
  /-- Where a place goes. -/
  place : Location → Location
  /-- Where a direction goes. -/
  heading : Direction → Direction

namespace Relocation

/-- Everything stays where it is. -/
def refl : Relocation := ⟨id, id⟩

/-- First one relocation, then another. -/
def trans (r r' : Relocation) : Relocation := ⟨r'.place ∘ r.place, r'.heading ∘ r.heading⟩

/-- Along the relocation, the grid `g` covers the grid `h`. -/
structure Covers (r : Relocation) (g h : Grid) : Prop where
  contains : ∀ l, g.Contains l → h.Contains (r.place l)
  /-- Places have the same pixel as the places that they go to. -/
  get?_eq : ∀ l, g.Contains l → h.get? (r.place l) = g.get? l
  isUnit : ∀ d : Direction, d.IsUnit → (r.heading d).IsUnit
  /-- A quarter turn goes to a quarter turn, -/
  rotated_eq : ∀ d : Direction, d.IsUnit → r.heading d.rotated = (r.heading d).rotated
  /-- and a move to a move. -/
  offset_eq : ∀ l d advance, g.Contains l → d.IsUnit → advance < 2 ^ 63 →
    r.place (g.offset l d advance) = h.offset (r.place l) (r.heading d) advance

namespace Covers

/-- A grid covers itself. -/
theorem refl (g : Grid) : Relocation.refl.Covers g g where
  contains _ hl := hl
  get?_eq _ _ := rfl
  isUnit _ hd := hd
  rotated_eq _ _ := rfl
  offset_eq _ _ _ _ _ _ := rfl

/-- A grid that covers a second one covers all that the second one covers. -/
theorem trans {r r' : Relocation} {g h k : Grid} (hr : r.Covers g h) (hr' : r'.Covers h k) :
    (r.trans r').Covers g k where
  contains l hl := hr'.contains _ (hr.contains l hl)
  get?_eq l hl := (hr'.get?_eq _ (hr.contains l hl)).trans (hr.get?_eq l hl)
  isUnit d hd := hr'.isUnit _ (hr.isUnit d hd)
  rotated_eq d hd := by
    have hfirst := congrArg r'.heading (hr.rotated_eq d hd)
    exact hfirst.trans (hr'.rotated_eq _ (hr.isUnit d hd))
  offset_eq l d advance hl hd hadvance := by
    have hfirst := congrArg r'.place (hr.offset_eq l d advance hl hd hadvance)
    exact hfirst.trans (hr'.offset_eq _ _ advance (hr.contains l hl) (hr.isUnit d hd) hadvance)

end Covers

end Relocation

/-! ## Relocated machines -/

/-- The table of what a function makes of the entries. -/
def ByteTable.map {α β : Type} (f : α → β) (t : ByteTable α) : ByteTable β := ⟨t.entries.map f⟩

/-- An entry of a mapped table is the mapped entry. -/
theorem ByteTable.get_map {α β : Type} (f : α → β) (t : ByteTable α) (i : UInt8) :
    (t.map f).get i = f (t.get i) := by
  simp [get, map]

/-- An entry is put into a mapped table as the mapped entry. -/
theorem ByteTable.map_set {α β : Type} (f : α → β) (t : ByteTable α) (i : UInt8) (a : α) :
    (t.set i a).map f = (t.map f).set i (f a) := by
  simp [set, map, Vector.map_set]

/-- A table that is mapped twice is mapped once. -/
theorem ByteTable.map_map {α β γ : Type} (f : α → β) (f' : β → γ) (t : ByteTable α) :
    (t.map f).map f' = t.map (f' ∘ f) :=
  ByteTable.ext_get fun i => by simp only [get_map, Function.comp_apply]

/-- The stack with other places. -/
def CallStack.map (f : Location → Location) (s : CallStack) : CallStack :=
  ⟨s.calls.map f, s.depth, by rw [s.depth_eq, List.length_map]⟩

variable (r : Relocation)

/-- The function with its place relocated. -/
def FunctionSlot.relocated (slot : FunctionSlot) : FunctionSlot :=
  { slot with location := r.place slot.location }

/-- The handler with its place relocated. -/
def TryHandler.relocated (handler : TryHandler) : TryHandler :=
  { handler with location := r.place handler.location }

/-- The state with all its places and its direction relocated. -/
def State.relocated (s : State) : State :=
  { s with
    location := r.place s.location
    direction := r.heading s.direction
    functions := s.functions.map (Option.map (FunctionSlot.relocated r))
    tryHandler := s.tryHandler.map (TryHandler.relocated r)
    callStack := s.callStack.map r.place }

/-- The error, reported of the relocated place. -/
def StepError.relocated : StepError → StepError
  | uncaught code fault location => uncaught code fault (r.place location)
  | offGrid cells index => offGrid cells index

/-- Why a drive did not stop by itself, reported of the relocated place. -/
def DriveError.relocated : DriveError → DriveError
  | step error => step (error.relocated r)
  | stepLimit limit => stepLimit limit

/-- The machine on another grid, with its state relocated. -/
def Machine.relocated (m : Machine) (h : Grid) : Machine where
  grid := h
  state := m.state.relocated r
  status := m.status
  steps := m.steps

namespace State

variable {r} {s : State}

/-- A state that stays where it is does not change. -/
theorem relocated_refl (s : State) : s.relocated .refl = s := by
  obtain ⟨location, direction, registers, functions, tryHandler, callStack, input, output⟩ := s
  have hfunctions : functions.map (Option.map (FunctionSlot.relocated .refl)) = functions := by
    refine ByteTable.ext_get fun i => ?_
    rw [ByteTable.get_map]
    cases functions.get i <;> rfl
  have htry : tryHandler.map (TryHandler.relocated .refl) = tryHandler := by
    cases tryHandler <;> rfl
  have hcalls : callStack.map Relocation.refl.place = callStack :=
    CallStack.ext (List.map_id callStack.calls)
  simp only [relocated, hfunctions, htry, hcalls]
  rfl

/-- Relocations in a row are one relocation. -/
theorem relocated_trans (s : State) (r' : Relocation) :
    s.relocated (r.trans r') = (s.relocated r).relocated r' := by
  have hfunctions : s.functions.map (Option.map (FunctionSlot.relocated (r.trans r'))) =
      (s.functions.map (Option.map (FunctionSlot.relocated r))).map
        (Option.map (FunctionSlot.relocated r')) := by
    rw [ByteTable.map_map, Option.map_comp_map]
    rfl
  have htry : s.tryHandler.map (TryHandler.relocated (r.trans r')) =
      (s.tryHandler.map (TryHandler.relocated r)).map (TryHandler.relocated r') := by
    rw [Option.map_map]
    rfl
  have hcalls : s.callStack.map (r.trans r').place = (s.callStack.map r.place).map r'.place :=
    CallStack.ext (by simp only [CallStack.map, List.map_map, Relocation.trans])
  simp only [relocated, hfunctions, htry, hcalls]
  rfl

/-- A relocated state has the relocated functions. -/
theorem function?_relocated (s : State) (id : UInt8) :
    (s.relocated r).function? id = (s.function? id).map (FunctionSlot.relocated r) :=
  ByteTable.get_map _ s.functions id

/-- A function is bound in a relocated state as the relocated function. -/
theorem relocated_bindFunction (s : State) (id : UInt8) (slot : FunctionSlot) :
    (s.bindFunction id slot).relocated r = (s.relocated r).bindFunction id (slot.relocated r) := by
  simp only [relocated, bindFunction, ByteTable.map_set, Option.map_some]

/-- All places that a state remembers are on the grid, and its direction is one of the four. -/
structure OnGrid (s : State) (g : Grid) : Prop where
  cursor : g.Contains s.location
  direction : s.direction.IsUnit
  functions : ∀ id slot, s.function? id = some slot → g.Contains slot.location
  tryHandler : ∀ handler, s.tryHandler = some handler → g.Contains handler.location
  calls : ∀ l ∈ s.callStack.calls, g.Contains l

/-- What is remembered of a grid is on the grid. -/
theorem Placed.onGrid {g : Grid} (h : s.Placed g) : s.OnGrid g where
  cursor := h.cursor
  direction := h.direction
  functions id slot hslot := (h.functions id slot hslot).1
  tryHandler handler htry := (h.tryHandler handler htry).1
  calls l hl := (h.calls l hl).1

end State

/-! ## Places stay on the grid -/

variable {r} {g h : Grid} {s t : State} {i : Instruction} {fault : Fault}

/-- Executing an instruction keeps all places on the grid. -/
theorem Executes.onGrid (hexec : Executes g s i t) (hs : s.OnGrid g) : t.OnGrid g := by
  cases hexec with
  | halt green blue => exact hs
  | setVar c hchannel =>
    exact ⟨hs.cursor, hs.direction, hs.functions, hs.tryHandler, hs.calls⟩
  | calculate op c hop hchannel hdiv hvalue =>
    exact ⟨hs.cursor, hs.direction, hs.functions, hs.tryHandler, hs.calls⟩
  | defineFunction green blue =>
    refine ⟨hs.cursor, hs.direction, ?_, hs.tryHandler, hs.calls⟩
    intro id slot hslot
    rw [State.function?_bindFunction] at hslot
    split at hslot
    · cases hslot
      exact hs.cursor
    · exact hs.functions id slot hslot
  | defineTry green blue =>
    refine ⟨hs.cursor, hs.direction, hs.functions, ?_, hs.calls⟩
    intro handler htry
    cases htry
    exact hs.cursor
  | ret caller rest hcalls =>
    have hcaller := hs.calls caller (by rw [hcalls]; exact List.mem_cons_self)
    refine ⟨hcaller, hs.direction, hs.functions, hs.tryHandler, ?_⟩
    intro l hl
    exact hs.calls l (by rw [hcalls]; exact List.mem_cons_of_mem caller hl)
  | turn heq => exact ⟨hs.cursor, hs.direction.rotated, hs.functions, hs.tryHandler, hs.calls⟩
  | pass hne => exact hs
  | output hprint => exact ⟨hs.cursor, hs.direction, hs.functions, hs.tryHandler, hs.calls⟩
  | input code hcode => exact ⟨hs.cursor, hs.direction, hs.functions, hs.tryHandler, hs.calls⟩
  | @call green blue slot hslot =>
    refine ⟨hs.functions blue slot hslot, hs.direction, hs.functions, hs.tryHandler, ?_⟩
    intro l hl
    rcases List.mem_cons.1 hl with rfl | hl
    · exact hs.cursor
    · exact hs.calls l hl
  | nop green blue => exact hs

/-- A step keeps all places on the grid. -/
theorem Machine.onGrid_step (m : Machine) (hm : m.state.OnGrid m.grid) :
    m.step.machine.state.OnGrid m.step.machine.grid := by
  rcases step_cases m with ⟨-, hafter⟩ | ⟨i, t, -, hexec, hafter, -⟩ |
    ⟨fault, handler, -, -, hafter, -⟩ | ⟨fault, -, -, hafter, -⟩
  · rw [hafter]
    exact hm
  · have ht := hexec.onGrid hm
    rw [hafter]
    exact ⟨m.grid.contains_offset _ _ _, ht.direction, ht.functions, ht.tryHandler, ht.calls⟩
  · rw [hafter]
    exact ⟨m.grid.contains_offset _ _ _, hm.direction, hm.functions, nofun, hm.calls⟩
  · rw [hafter]
    exact hm

/-- Steps keep all places on the grid. -/
theorem Machine.onGrid_stepN {m : Machine} (hm : m.state.OnGrid m.grid) (n : Nat) :
    (m.stepN n).state.OnGrid (m.stepN n).grid :=
  stepN_induction (P := fun k => k.state.OnGrid k.grid) onGrid_step hm n

/-! ## Instructions -/

section

variable (hr : r.Covers g h) (hs : s.OnGrid g)

include hr hs

/-- The cell ahead is the same. -/
theorem State.ahead_relocated : (s.relocated r).ahead h = s.ahead g := by
  have hcontains := g.contains_offset s.location s.direction 1
  have hsource : g.get? (g.offset s.location s.direction 1) = some (s.ahead g) :=
    Grid.get?_eq_some_get hcontains
  have htarget : h.get? (h.offset (r.place s.location) (r.heading s.direction) 1) =
      some ((s.relocated r).ahead h) :=
    Grid.get?_eq_some_get (h.contains_offset _ _ 1)
  rw [← hr.offset_eq _ _ 1 hs.cursor hs.direction (by decide), hr.get?_eq _ hcontains, hsource]
    at htarget
  exact (Option.some.inj htarget).symm

/-- An instruction does the same on both grids. -/
theorem Executes.relocated (hexec : Executes g s i t) :
    Executes h (s.relocated r) i (t.relocated r) := by
  have hahead := State.ahead_relocated hr hs
  cases hexec with
  | halt green blue => exact .halt _ _
  | setVar c hchannel =>
    rw [← hahead]
    exact .setVar c hchannel
  | calculate op c hop hchannel hdiv hvalue =>
    rw [← hahead] at hdiv hvalue
    exact .calculate op c hop hchannel hdiv hvalue
  | defineFunction green blue =>
    rw [State.relocated_bindFunction]
    exact .defineFunction green blue
  | defineTry green blue => exact .defineTry green blue
  | ret caller rest hcalls =>
    have hcalls' : (s.relocated r).callStack = (rest.map r.place).push (r.place caller) := by
      have hmap := congrArg (CallStack.map r.place) hcalls
      exact hmap.trans (CallStack.ext rfl)
    exact .ret (r.place caller) (rest.map r.place) hcalls'
  | @turn green blue heq =>
    have hexec : Executes h (s.relocated r) ⟨.branch, green, blue⟩ _ := .turn heq
    have hturn : r.heading ⟨-s.direction.dy, s.direction.dx⟩ =
        ⟨-(r.heading s.direction).dy, (r.heading s.direction).dx⟩ :=
      hr.rotated_eq s.direction hs.direction
    simp only [State.relocated, hturn] at hexec ⊢
    exact hexec
  | pass hne => exact .pass hne
  | output hprint => exact .output hprint
  | input code hcode => exact .input code hcode
  | @call green blue slot hslot =>
    have hslot' : (s.relocated r).function? blue = some (slot.relocated r) := by
      rw [State.function?_relocated, hslot, Option.map_some]
    exact .call (slot.relocated r) hslot'
  | nop green blue => exact .nop _ _

/-- An instruction fails on both grids, with the same fault. -/
theorem Fails.relocated (hfails : Fails g s i fault) : Fails h (s.relocated r) i fault := by
  have hahead := State.ahead_relocated hr hs
  cases hfails with
  | setVar hchannel => exact .setVar hchannel
  | calculate hparameter => exact .calculate hparameter
  | divide c hop hchannel hzero =>
    rw [← hahead] at hzero
    exact .divide c hop hchannel hzero
  | ret hcalls =>
    have hcalls' : (s.relocated r).callStack = .empty := by
      have hmap := congrArg (CallStack.map r.place) hcalls
      exact hmap.trans (CallStack.ext rfl)
    exact .ret hcalls'
  | throw green blue => exact .throw green blue
  | output hprint => exact .output hprint
  | input hcode => exact .input hcode
  | call hslot =>
    refine .call ?_
    rw [State.function?_relocated, hslot, Option.map_none]

/-- A pixel makes of the relocated state what it makes of the state. -/
theorem Deed.ofPixel_relocated (p : Pixel) :
    Deed.ofPixel p (s.relocated r) h = Deed.ofPixel p s g := by
  cases hdeed : Deed.ofPixel p s g with
  | executed i =>
    obtain ⟨hp, t, hexec⟩ := Deed.ofPixel_eq_executed_iff.1 hdeed
    exact Deed.ofPixel_eq_executed_iff.2 ⟨hp, _, hexec.relocated hr hs⟩
  | raised fault =>
    rw [Deed.ofPixel_eq_raised_iff_fails] at hdeed ⊢
    rcases hdeed with hdecode | ⟨i, hp, hfails⟩
    · exact .inl hdecode
    · exact .inr ⟨i, hp, hfails.relocated hr hs⟩

end

/-! ## Steps and runs -/

namespace Machine

variable {m : Machine}

section

variable (hr : r.Covers m.grid h) (hm : m.state.OnGrid m.grid)

include hr hm

/-- Machines on both grids are about to do the same. -/
theorem deed?_relocated : (m.relocated r h).deed? = m.deed? := by
  have hget : h.get? (r.place m.state.location) = m.grid.get? m.state.location :=
    hr.get?_eq _ hm.cursor
  have hpixel : (fun p => Deed.ofPixel p (m.state.relocated r) h) =
      fun p => Deed.ofPixel p m.state m.grid :=
    funext (Deed.ofPixel_relocated hr hm)
  by_cases hrun : m.status = .running
  · have hrun' : (m.relocated r h).status = .running := hrun
    rw [deed?, deed?, if_pos hrun, if_pos hrun', ← hget, ← hpixel]
    rfl
  · have hrun' : (m.relocated r h).status ≠ .running := hrun
    rw [deed?, deed?, if_neg hrun, if_neg hrun']

/-- The step of a relocated machine is the relocated step. -/
theorem step_relocated :
    (m.relocated r h).step.machine = m.step.machine.relocated r h ∧
      (m.relocated r h).step.result = m.step.result.mapError (StepError.relocated r) := by
  have hsame := deed?_relocated hr hm
  rcases step_cases m with ⟨hdeed, -⟩ | ⟨i, t, hdeed, hexec, hafter, hresult⟩ |
    ⟨fault, handler, hdeed, htry, hrecover, hresult⟩ | ⟨fault, hdeed, htry, hfail, hresult⟩
  · -- with its cursor on the grid, only a machine that is not running does nothing
    have hrun : m.status ≠ .running := fun hrun =>
      nomatch hdeed.symm.trans (deed?_of_running hrun hm.cursor)
    have hrun' : (m.relocated r h).status ≠ .running := hrun
    rw [step_of_not_running hrun, step_of_not_running hrun']
    exact ⟨rfl, rfl⟩
  · have ht := hexec.onGrid hm
    have hwidth : i.width < 2 ^ 63 := by
      rw [Instruction.width_eq]
      split <;> decide
    have hlocation := hr.offset_eq _ _ i.width ht.cursor ht.direction hwidth
    obtain ⟨hafter', hresult'⟩ := step_of_executed (hsame.trans hdeed) (hexec.relocated hr hm)
    rw [hafter, hafter', hresult, hresult']
    refine ⟨?_, rfl⟩
    simp only [after, relocated, State.relocated, hlocation]
  · have hcontains := hm.tryHandler handler htry
    have hlocation := hr.offset_eq _ _ 1 hcontains hm.direction (by decide)
    have htry' : (m.relocated r h).state.tryHandler = some (handler.relocated r) :=
      congrArg (Option.map (TryHandler.relocated r)) htry
    obtain ⟨hrecover', hresult'⟩ := step_of_recovered (hsame.trans hdeed) htry'
    rw [hrecover, hrecover', hresult, hresult']
    refine ⟨?_, rfl⟩
    simp only [recover, relocated, State.relocated, State.setRegister, TryHandler.relocated,
      hlocation, Option.map_none]
  · have htry' : (m.relocated r h).state.tryHandler = none :=
      congrArg (Option.map (TryHandler.relocated r)) htry
    obtain ⟨hfail', hresult'⟩ := step_of_uncaught (hsame.trans hdeed) htry'
    rw [hfail, hfail', hresult, hresult']
    exact ⟨rfl, rfl⟩

/-- The run of a relocated machine is the relocated run. -/
theorem stepN_relocated (n : Nat) : (m.relocated r h).stepN n = (m.stepN n).relocated r h := by
  induction n with
  | zero => rfl
  | succ n ih =>
    have hr' : r.Covers (m.stepN n).grid h := by rwa [grid_stepN]
    rw [stepN_succ, stepN_succ, ih, (step_relocated hr' (onGrid_stepN hm n)).1]

/-- Steps on both grids have the same result, but for the place of an error. -/
theorem result_relocated (n : Nat) :
    ((m.relocated r h).stepN n).step.result =
      (m.stepN n).step.result.mapError (StepError.relocated r) := by
  have hr' : r.Covers (m.stepN n).grid h := by rwa [grid_stepN]
  rw [stepN_relocated hr hm, (step_relocated hr' (onGrid_stepN hm n)).2]

/-- A drive carries on with a relocated machine exactly if it carries on with the machine. -/
theorem continues_relocated_iff {limit : Nat} :
    (m.relocated r h).Continues limit ↔ m.Continues limit := by
  have hresult := (step_relocated hr hm).2
  have hok : (m.relocated r h).step.result = .ok () ↔ m.step.result = .ok () := by
    rw [hresult]
    cases m.step.result <;> simp [Except.mapError]
  exact ⟨fun hc => ⟨hc.running, hc.unspent, hok.1 hc.ok⟩, fun hc => ⟨hc.running, hc.unspent, hok.2 hc.ok⟩⟩

/-- A drive that ends with a machine ends with the relocated one, at the relocated end. -/
theorem Ends.relocated {limit : Nat} {events : Array Event} {d : Drive} (hends : Ends limit m events d)
    (events' : Array Event) :
    ∃ d', Ends limit (m.relocated r h) events' d' ∧ d'.machine = d.machine.relocated r h ∧
      d'.result = d.result.mapError (DriveError.relocated r) := by
  obtain ⟨hmachine, hresult⟩ := step_relocated hr hm
  cases hends with
  | finished hrun => exact ⟨_, .finished hrun, rfl, rfl⟩
  | spent hrun hspent => exact ⟨_, .spent hrun hspent, rfl, rfl⟩
  | failed hrun hleft herror =>
    rw [herror] at hresult
    exact ⟨_, .failed (m := m.relocated r h) hrun hleft hresult, hmachine, rfl⟩

end

/-- If a machine starts as another one does, relocated, then it is driven to the relocated end, or to none if
the other one is not driven to an end. -/
theorem drive_relocated {m' : Machine} (hr : r.Covers m.grid h) (hstart : m'.run = m.run.relocated r h)
    (limit : Nat) :
    Option.Rel (fun d d' : Drive => d'.machine = d.machine.relocated r h ∧
      d'.result = d.result.mapError (DriveError.relocated r)) (m.drive limit) (m'.drive limit) := by
  have hm : m.run.state.OnGrid m.run.grid := m.placed_run.onGrid
  have hr' : ∀ n, r.Covers (m.run.stepN n).grid h := fun n => by rwa [grid_stepN]
  have hcontinues : ∀ n, (m.run.stepN n).Continues limit → (m'.run.stepN n).Continues limit := by
    intro n hn
    rw [hstart, stepN_relocated (m := m.run) hr hm]
    exact (continues_relocated_iff (hr' n) (onGrid_stepN hm n)).2 hn
  rw [drive, drive]
  rcases drain_cases limit m.run _ with ⟨hnone, hall⟩ | ⟨k, d, hsome, hbefore, hends⟩
  · rw [hnone, drain_eq_none fun n => hcontinues n (hall n)]
    exact .none
  · obtain ⟨d', hends', hmachine, hresult⟩ := hends.relocated (hr' k) (onGrid_stepN hm k) _
    rw [← stepN_relocated (m := m.run) hr hm, ← hstart] at hends'
    rw [hsome, drain_stepN fun t ht => hcontinues t (hbefore t ht), hends'.drain_eq]
    exact .some ⟨hmachine, hresult⟩

end Machine

end PixelMachine
