import PixelMachine.Proofs.Placement
import Mathlib.Data.List.Induction
import Mathlib.Data.Nat.Init

/-!
# The life of a machine

A machine is idle, running, halted or faulted. It leaves the running state by a step only: a halt halts
it, and a fault that no handler is pending for makes it faulted, with the code of the fault. A machine
that is not running is not changed by a step, so it stays what it is, with its cursor where it was,
until it is started or set back.

`Machine.step_of_running_cases` says this for one step of a machine with its cursor on the grid, which a
running machine has after any commands (`Machine.contains_of_running`). A history of starts, resets and
steps is looked at through the machine before each of its commands (`Machine.before`), and the steps
that found the machine running since the last start or reset are listed by `Machine.effectiveSteps`. The
main result is `Machine.lifecycle`.
-/

set_option autoImplicit false

namespace PixelMachine

namespace Machine

variable {m : Machine}

/-! ## One step -/

/-- A running machine on its grid goes on, halts, or fails; only a step that fails reports an error. -/
theorem step_of_running_cases (hrun : m.status = .running)
    (hcursor : m.grid.Contains m.state.location) :
    m.step.machine.steps = m.steps + 1 ∧
    ((m.step.result = .ok () ∧ m.step.machine.status = .running ∧
        ∀ green blue, m.deed? ≠ some (.executed ⟨.halt, green, blue⟩)) ∨
      (m.step.result = .ok () ∧ m.step.machine.status = .halted ∧
        ∃ green blue, m.deed? = some (.executed ⟨.halt, green, blue⟩)) ∨
      ∃ fault, m.step.result = .error (.uncaught fault.code fault m.state.location) ∧
        m.step.machine.status = .faulted fault.code ∧ m.step.machine.state = m.state ∧
        ∀ green blue, m.deed? ≠ some (.executed ⟨.halt, green, blue⟩)) := by
  rcases step_cases m with ⟨hdeed, -⟩ | ⟨i, t, hdeed, -, hafter, hresult⟩ |
    ⟨fault, handler, hdeed, -, hrecover, hresult⟩ | ⟨fault, hdeed, -, hfail, hresult⟩
  · cases hdeed.symm.trans (deed?_of_running hrun hcursor)
  · rw [hafter, hresult, hdeed]
    refine ⟨rfl, ?_⟩
    obtain ⟨kind, green, blue⟩ := i
    by_cases hhalt : kind = .halt
    · subst hhalt
      exact .inr (.inl ⟨rfl, rfl, green, blue, rfl⟩)
    · refine .inl ⟨rfl, if_neg hhalt, ?_⟩
      rintro green' blue' h
      cases h
      exact hhalt rfl
  · rw [hrecover, hresult, hdeed]
    exact ⟨rfl, .inl ⟨rfl, hrun, nofun⟩⟩
  · rw [hfail, hresult, hdeed]
    exact ⟨rfl, .inr (.inr ⟨fault, rfl, rfl, rfl, nofun⟩)⟩

/-- A running machine halts with a step exactly if the step executes a halt. -/
theorem status_step_eq_halted_iff (hrun : m.status = .running)
    (hcursor : m.grid.Contains m.state.location) :
    m.step.machine.status = .halted ↔
      ∃ green blue, m.deed? = some (.executed ⟨.halt, green, blue⟩) := by
  obtain ⟨-, ⟨-, hstatus, hother⟩ | ⟨-, hstatus, hhalt⟩ | ⟨fault, -, hstatus, -, hother⟩⟩ :=
    step_of_running_cases hrun hcursor
  · simp [hstatus, hother]
  · simp [hstatus, hhalt]
  · simp [hstatus, hother]

/-- A running machine becomes faulted with a step exactly if the step reports an error, with its code.
-/
theorem status_step_eq_faulted_iff (hrun : m.status = .running)
    (hcursor : m.grid.Contains m.state.location) {code : UInt8} :
    m.step.machine.status = .faulted code ↔
      ∃ fault location, m.step.result = .error (.uncaught code fault location) := by
  obtain ⟨-, ⟨hresult, hstatus, -⟩ | ⟨hresult, hstatus, -⟩ | ⟨fault, hresult, hstatus, -⟩⟩ :=
    step_of_running_cases hrun hcursor
  · simp [hstatus, hresult]
  · simp [hstatus, hresult]
  · rw [hstatus, hresult]
    constructor
    · rintro h
      cases h
      exact ⟨fault, m.state.location, rfl⟩
    · rintro ⟨fault', location, h⟩
      cases h
      rfl

/-- A halted machine is not running. -/
theorem not_running_of_halted (h : m.status = .halted) : m.status ≠ .running := by
  rw [h]
  exact Status.noConfusion

/-- A faulted machine is not running. -/
theorem not_running_of_faulted {code : UInt8} (h : m.status = .faulted code) :
    m.status ≠ .running := by
  rw [h]
  exact Status.noConfusion

/-- Only a running machine reports errors. -/
theorem running_of_error {error : StepError} (h : m.step.result = .error error) :
    m.status = .running := by
  by_contra hrun
  rw [step_of_not_running hrun] at h
  cases h

/-- A step that reports an error leaves the machine faulted where it was. -/
theorem step_of_error (hcursor : m.status = .running → m.grid.Contains m.state.location)
    {error : StepError} (h : m.step.result = .error error) :
    ∃ fault, error = .uncaught fault.code fault m.state.location ∧
      m.step.machine.status = .faulted fault.code ∧
      m.step.machine.state.location = m.state.location := by
  have hrun := running_of_error h
  obtain ⟨-, ⟨hok, -⟩ | ⟨hok, -⟩ | ⟨fault, hresult, hstatus, hstate, -⟩⟩ :=
    step_of_running_cases hrun (hcursor hrun)
  · cases hok.symm.trans h
  · cases hok.symm.trans h
  · refine ⟨fault, ?_, hstatus, by rw [hstate]⟩
    exact Except.error.inj (h.symm.trans hresult)

/-! ## Commands, one after another -/

/-- After any commands, a running machine has its cursor on the grid. -/
theorem contains_of_running (g : Grid) (input : Input) (commands : List Command)
    (hrun : ((new g input).obeyAll commands).status = .running) :
    ((new g input).obeyAll commands).grid.Contains
      ((new g input).obeyAll commands).state.location := by
  -- what is kept is placement while running, for before the first start it need not hold
  have hplaced := performAll_induction
    (P := fun k => k.status = .running → k.state.Placed k.grid) (m := new g input)
    (fun k _ _ => k.placed_run) (fun k _ _ => k.placed_reset) ?_ nofun
    (performAll_map_command (new g input) commands)
  · exact (hplaced hrun).cursor
  · intro k hk hrun'
    by_cases hrunning : k.status = .running
    · exact placed_step k (hk hrunning)
    · rw [step_of_not_running hrunning] at hrun'
      exact absurd hrun' hrunning

/-- The machine before the command with this number, or after all of them. -/
def before (m : Machine) (commands : List Command) (i : Nat) : Machine :=
  m.obeyAll (commands.take i)

/-- The numbers of the steps that found the machine running, since it was last started or set back. -/
def effectiveSteps (m : Machine) (commands : List Command) : List Nat :=
  (List.range commands.length).filter fun i =>
    (∀ c ∈ commands.drop i, c = .step) ∧ (m.before commands i).status = .running

/-- After all commands the machine has obeyed all of them. -/
theorem before_length (m : Machine) (commands : List Command) :
    m.before commands commands.length = m.obeyAll commands := by
  rw [before, List.take_length]

/-- One command later, the machine has obeyed that command as well. -/
theorem before_succ (m : Machine) {commands : List Command} {i : Nat} {c : Command}
    (h : commands[i]? = some c) :
    m.before commands (i + 1) = (m.before commands i).obey c := by
  rw [before, List.take_add_one, h, Option.toList_some, obeyAll_concat, before]

/-- Further commands do not change what came before. -/
theorem before_concat (m : Machine) {commands : List Command} {i : Nat} (c : Command)
    (h : i ≤ commands.length) : m.before (commands ++ [c]) i = m.before commands i := by
  rw [before, before, List.take_append_of_le_length h]

/-- A start or a reset makes all steps before it count no more. -/
theorem effectiveSteps_concat_of_ne {c : Command} (m : Machine) (commands : List Command)
    (hc : c ≠ .step) : m.effectiveSteps (commands ++ [c]) = [] := by
  rw [effectiveSteps, List.filter_eq_nil_iff]
  intro i hi hsteps
  rw [List.mem_range, List.length_append, List.length_singleton] at hi
  have hmem : c ∈ (commands ++ [c]).drop i := by
    rw [List.drop_append_of_le_length (by omega)]
    exact List.mem_append_right _ List.mem_cons_self
  exact hc ((of_decide_eq_true hsteps).1 c hmem)

/-- A step counts if the machine is running, and so do those that counted before. -/
theorem effectiveSteps_concat_step (m : Machine) (commands : List Command) :
    m.effectiveSteps (commands ++ [.step]) =
      m.effectiveSteps commands ++
        if (m.obeyAll commands).status = .running then [commands.length] else [] := by
  have hearlier : ∀ i ∈ List.range commands.length,
      ((∀ c ∈ (commands ++ [Command.step]).drop i, c = .step) ↔
        ∀ c ∈ commands.drop i, c = .step) ∧
      m.before (commands ++ [.step]) i = m.before commands i := by
    intro i hi
    have hle := Nat.le_of_lt (List.mem_range.1 hi)
    refine ⟨?_, m.before_concat .step hle⟩
    rw [List.drop_append_of_le_length hle, List.forall_mem_append]
    simp only [List.mem_singleton, forall_eq, and_true]
  have hlatest : m.before (commands ++ [.step]) commands.length = m.obeyAll commands := by
    rw [m.before_concat .step (Nat.le_refl _), before_length]
  rw [effectiveSteps, List.length_append, List.length_singleton, List.range_succ, List.filter_append,
    effectiveSteps]
  congr 1
  · apply List.filter_congr
    intro i hi
    obtain ⟨hdrop, hbefore⟩ := hearlier i hi
    simp only [hdrop, hbefore]
  · simp only [List.filter_cons, List.filter_nil, hlatest, List.drop_left, List.mem_singleton,
      forall_eq, true_and, decide_eq_true_eq]

/-- A step of a history adds itself to the effective ones before it if it finds the machine running. -/
theorem effectiveSteps_take_succ (m : Machine) {commands : List Command} {i : Nat}
    (h : commands[i]? = some .step) :
    m.effectiveSteps (commands.take (i + 1)) =
      m.effectiveSteps (commands.take i) ++
        if (m.before commands i).status = .running then [i] else [] := by
  have hlt : i < commands.length := (List.getElem?_eq_some_iff.1 h).1
  rw [List.take_add_one, h, Option.toList_some, effectiveSteps_concat_step,
    List.length_take_of_le (Nat.le_of_lt hlt), before]

/-- A machine that has stopped stays as it is while it is only stepped, and no step counts. -/
theorem before_of_not_running {commands : List Command} {i j : Nat}
    (hrun : (m.before commands i).status ≠ .running) (hij : i ≤ j)
    (hsteps : ∀ k, i ≤ k → k < j → commands[k]? = some .step) :
    m.before commands j = m.before commands i ∧
      m.effectiveSteps (commands.take j) = m.effectiveSteps (commands.take i) := by
  induction j, hij using Nat.le_induction with
  | base => exact ⟨rfl, rfl⟩
  | succ j hij ih =>
    obtain ⟨hsame, heffective⟩ := ih fun k hlo hhi => hsteps k hlo (Nat.lt_succ_of_lt hhi)
    have hstep := hsteps j hij (Nat.lt_succ_self j)
    constructor
    · rw [m.before_succ hstep, hsame, obey, step_of_not_running hrun]
    · rw [m.effectiveSteps_take_succ hstep, hsame, if_neg hrun, List.append_nil, heffective]

/-! ## The life of a machine -/

/-- What the effective steps of a history tell of the machine after it. -/
structure Lived (m : Machine) (commands : List Command) : Prop where
  /-- They have been counted. -/
  steps_eq : (m.obeyAll commands).steps = (m.effectiveSteps commands).length
  /-- The machine is halted if the last of them executed a halt. -/
  halted_iff : (m.obeyAll commands).status = .halted ↔
    ∃ i, (m.effectiveSteps commands).getLast? = some i ∧
      ∃ green blue, (m.before commands i).deed? = some (.executed ⟨.halt, green, blue⟩)
  /-- The machine is faulted if the last of them reported an error, with the code of this error. -/
  faulted_iff : ∀ code, (m.obeyAll commands).status = .faulted code ↔
    ∃ i, (m.effectiveSteps commands).getLast? = some i ∧
      ∃ fault location, (m.before commands i).step.result = .error (.uncaught code fault location)

/-- Effective steps are among the commands. -/
theorem lt_length_of_mem_effectiveSteps {commands : List Command} {i : Nat}
    (h : i ∈ m.effectiveSteps commands) : i < commands.length := by
  rw [effectiveSteps, List.mem_filter, List.mem_range] at h
  exact h.1

namespace Lived

variable {commands : List Command}

/-- A machine that has just been made, started or set back has not lived yet. -/
theorem of_effectiveSteps_eq_nil (heffective : m.effectiveSteps commands = [])
    (hsteps : (m.obeyAll commands).steps = 0)
    (hstatus : (m.obeyAll commands).status = .idle ∨
      (m.obeyAll commands).status = .running) : m.Lived commands := by
  refine ⟨by rw [hsteps, heffective, List.length_nil], ?_, ?_⟩
  · rw [heffective]
    rcases hstatus with h | h <;> simp [h]
  · intro code
    rw [heffective]
    rcases hstatus with h | h <;> simp [h]

/-- A step that finds the machine not running is no part of its life. -/
theorem step_of_not_running (h : m.Lived commands)
    (hrun : (m.obeyAll commands).status ≠ .running) : m.Lived (commands ++ [.step]) := by
  have heffective : m.effectiveSteps (commands ++ [.step]) = m.effectiveSteps commands := by
    rw [effectiveSteps_concat_step, if_neg hrun, List.append_nil]
  have hsame : m.obeyAll (commands ++ [.step]) = m.obeyAll commands := by
    rw [obeyAll_concat, obey, Machine.step_of_not_running hrun]
  have hbefore : ∀ i, (m.effectiveSteps commands).getLast? = some i →
      m.before (commands ++ [.step]) i = m.before commands i := by
    intro i hi
    have hlt := lt_length_of_mem_effectiveSteps (List.mem_of_getLast? hi)
    exact m.before_concat .step (Nat.le_of_lt hlt)
  refine ⟨?_, ?_, ?_⟩
  · rw [hsame, heffective, h.steps_eq]
  · rw [hsame, heffective, h.halted_iff]
    refine exists_congr fun i => and_congr_right fun hi => ?_
    rw [hbefore i hi]
  · intro code
    rw [hsame, heffective, h.faulted_iff code]
    refine exists_congr fun i => and_congr_right fun hi => ?_
    rw [hbefore i hi]

/-- A step that finds the machine running is the last effective one. -/
theorem step_of_running (h : m.Lived commands)
    (hrun : (m.obeyAll commands).status = .running)
    (hcursor : (m.obeyAll commands).grid.Contains (m.obeyAll commands).state.location) :
    m.Lived (commands ++ [.step]) := by
  have heffective : m.effectiveSteps (commands ++ [.step]) =
      m.effectiveSteps commands ++ [commands.length] := by
    rw [effectiveSteps_concat_step, if_pos hrun]
  have hafter : m.obeyAll (commands ++ [.step]) = (m.obeyAll commands).step.machine := by
    rw [obeyAll_concat, obey]
  have hbefore : m.before (commands ++ [.step]) commands.length = m.obeyAll commands := by
    rw [m.before_concat .step (Nat.le_refl _), before_length]
  refine ⟨?_, ?_, ?_⟩
  · rw [hafter, heffective, List.length_append, List.length_singleton, ← h.steps_eq]
    exact (step_of_running_cases hrun hcursor).1
  · rw [hafter, heffective, status_step_eq_halted_iff hrun hcursor, List.getLast?_concat]
    simp only [Option.some.injEq, exists_eq_left', hbefore]
  · intro code
    rw [hafter, heffective, status_step_eq_faulted_iff hrun hcursor, List.getLast?_concat]
    simp only [Option.some.injEq, exists_eq_left', hbefore]

end Lived

/-- What the effective steps tell of a machine is so after every history of starts, resets and steps. -/
theorem lived_new (g : Grid) (input : Input) (commands : List Command) :
    (new g input).Lived commands := by
  induction commands using List.reverseRecOn with
  | nil => exact .of_effectiveSteps_eq_nil rfl rfl (.inl rfl)
  | append_singleton commands c ih =>
    cases c with
    | run =>
      have heffective := effectiveSteps_concat_of_ne (c := .run) (new g input) commands nofun
      refine .of_effectiveSteps_eq_nil heffective ?_ (.inr ?_)
      all_goals rw [obeyAll_concat]; rfl
    | reset =>
      have heffective := effectiveSteps_concat_of_ne (c := .reset) (new g input) commands nofun
      refine .of_effectiveSteps_eq_nil heffective ?_ (.inl ?_)
      all_goals rw [obeyAll_concat]; rfl
    | step =>
      by_cases hrun : ((new g input).obeyAll commands).status = .running
      · exact ih.step_of_running hrun (contains_of_running g input commands hrun)
      · exact ih.step_of_not_running hrun

/-- The life of a machine, through every history of starts, resets and steps. A step that does not find
the machine running succeeds, reports nothing and changes nothing. The number of steps is that of the
effective ones, the machine is halted exactly if the last of these executed a halt, and it is faulted
with a code exactly if the last of these reported an error with this code. The error of a step has the
code of its fault and the place of the cursor; as long as nothing but steps follow, the machine stays
faulted with this code, its cursor stays at this place, no step reports another error, and the last
effective step is the one that failed. -/
theorem lifecycle (g : Grid) (input : Input) (commands : List Command) :
    let fresh := new g input
    let before := fresh.before commands
    let m := fresh.obeyAll commands
    (∀ i, commands[i]? = some .step → (before i).status ≠ .running →
      (before i).step = ⟨before i, [], .ok ()⟩ ∧ before (i + 1) = before i) ∧
    m.steps = (fresh.effectiveSteps commands).length ∧
    (m.status = .halted ↔ ∃ i, (fresh.effectiveSteps commands).getLast? = some i ∧
      ∃ green blue, (before i).deed? = some (.executed ⟨.halt, green, blue⟩)) ∧
    (∀ code, m.status = .faulted code ↔
      ∃ i, (fresh.effectiveSteps commands).getLast? = some i ∧
        ∃ fault location, (before i).step.result = .error (.uncaught code fault location)) ∧
    (∀ i error, commands[i]? = some .step → (before i).step.result = .error error →
      ∃ fault, error = .uncaught fault.code fault (before i).state.location ∧
        ∀ j, i < j → (∀ k, i < k → k < j → commands[k]? = some .step) →
          (before j).status = .faulted fault.code ∧
          (before j).state.location = (before i).state.location ∧
          (before j).step.result = .ok () ∧
          (fresh.effectiveSteps (commands.take j)).getLast? = some i) := by
  intro fresh before m
  have hlived : fresh.Lived commands := lived_new g input commands
  refine ⟨?_, hlived.steps_eq, hlived.halted_iff, hlived.faulted_iff, ?_⟩
  · intro i hstep hrun
    have hsame := step_of_not_running hrun
    refine ⟨hsame, ?_⟩
    rw [show before (i + 1) = (before i).obey .step from fresh.before_succ hstep, obey, hsame]
  · intro i error hstep herror
    have hcursor : (before i).status = .running →
        (before i).grid.Contains (before i).state.location :=
      contains_of_running g input (commands.take i)
    obtain ⟨fault, rfl, hstatus, hlocation⟩ := step_of_error hcursor herror
    have hafter : before (i + 1) = (before i).step.machine := fresh.before_succ hstep
    rw [← hafter] at hstatus hlocation
    have hfailed : (fresh.effectiveSteps (commands.take (i + 1))).getLast? = some i := by
      rw [fresh.effectiveSteps_take_succ hstep, if_pos (running_of_error herror),
        List.getLast?_concat]
    refine ⟨fault, rfl, ?_⟩
    intro j hij hsteps
    have hstopped := not_running_of_faulted hstatus
    obtain ⟨hsame, heffective⟩ := before_of_not_running hstopped hij hsteps
    rw [show before j = before (i + 1) from hsame, step_of_not_running hstopped, heffective]
    exact ⟨hstatus, hlocation, rfl, hfailed⟩

/-- A program that throws code 0 after a nop. -/
def thrower : Grid := .paint 2 1 #[⟨255, 0, 0⟩, ⟨7, 0, 0⟩] (by decide)

/-- Of four steps, the first comes before the start and the last after the failure, and both change
nothing. -/
theorem lifecycle_thrower :
    let fresh := new thrower .empty
    let commands : List Command := [.step, .run, .step, .step, .step]
    fresh.effectiveSteps commands = [2, 3] ∧
      (fresh.obeyAll commands).steps = 2 ∧
      (fresh.obeyAll commands).status = .faulted 0 ∧
      (fresh.before commands 5).state.location = (fresh.before commands 3).state.location ∧
      fresh.before commands 5 = fresh.before commands 4 := by
  intro fresh commands
  have heffective : fresh.effectiveSteps commands = [2, 3] := by decide +kernel
  have hraised : (fresh.before commands 3).deed? = some (.raised (.user 0)) := by decide +kernel
  have hnone : (fresh.before commands 3).state.tryHandler = none := by decide +kernel
  have herror := (step_of_uncaught hraised hnone).2
  obtain ⟨hnoop, hsteps, -, hfaulted, hfailed⟩ := lifecycle thrower .empty commands
  obtain ⟨fault, -, hstays⟩ := hfailed 3 _ rfl herror
  refine ⟨heffective, hsteps.trans (by rw [heffective]; rfl), ?_, ?_, ?_⟩
  · exact (hfaulted 0).2 ⟨3, by rw [heffective]; rfl, .user 0, _, herror⟩
  · have honly : ∀ k, 3 < k → k < 5 → commands[k]? = some .step := by
      intro k hlo hhi
      obtain rfl : k = 4 := by omega
      rfl
    exact (hstays 5 (by decide) honly).2.1
  · have hstopped : (fresh.before commands 4).status ≠ .running := by decide +kernel
    exact (hnoop 4 rfl hstopped).2

end Machine

end PixelMachine
