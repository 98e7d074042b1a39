import PixelMachine.Drive
import PixelMachine.Proofs.Step
import Mathlib.Data.Nat.Find

/-!
# Histories

A machine is made, and then started, reset, stepped and driven, as often and in any order that its owner
likes. Driving is stepping: its loop carries on with a machine for as long as that is running, has steps left
and does not fail (`Machine.Continues`), and ends in one of three ways with the first machine that it does not
carry on with (`Machine.Ends`). So either the loop goes on forever, which takes a drive without a limit, or
there is a number of steps after which it ends (`Machine.drain_cases`).

The machine at the end of a drive is thus one that some number of steps leads to, and what is reported is read
off this machine or off the last step (`Machine.drive_cases`). A property that starting, resetting and
stepping keep is kept by every history (`Machine.performAll_induction`). The grid is never written to, and
neither are the codes of the input. So a reset, which keeps these two and nothing else, leads back to the
machine that was made (`Machine.restart_performAll`).
-/

set_option autoImplicit false

namespace PixelMachine

/-- What the owner of a machine can make it do. -/
inductive Command where
  /-- Start, also after it was started. -/
  | run
  /-- Set itself back. -/
  | reset
  /-- Carry out one instruction. -/
  | step
  deriving DecidableEq

/-- What the owner of a machine can do with it. -/
inductive Operation where
  /-- Give it a command. -/
  | command (command : Command)
  /-- Start it and carry out instructions up to a limit. -/
  | drive (limit : Nat)
  deriving DecidableEq

namespace Machine

variable {m : Machine}

/-! ## Steps in a row -/

/-- The last of some steps is a step. -/
theorem stepN_succ (m : Machine) (n : Nat) : m.stepN (n + 1) = (m.stepN n).step.machine := by
  -- `stepN` counts from the first step on
  induction n generalizing m with
  | zero => rfl
  | succ n ih =>
    rw [stepN, ih m.step.machine, stepN]

/-- Steps after steps are steps in a row. -/
theorem stepN_add (m : Machine) (a b : Nat) : m.stepN (a + b) = (m.stepN a).stepN b := by
  induction b with
  | zero => rfl
  | succ b ih => rw [← Nat.add_assoc, stepN_succ, ih, stepN_succ]

/-- What a step keeps, steps in a row keep. -/
theorem stepN_induction {P : Machine → Prop} (hstep : ∀ m, P m → P m.step.machine) (hm : P m)
    (n : Nat) : P (m.stepN n) := by
  induction n with
  | zero => exact hm
  | succ n ih =>
    rw [stepN_succ]
    exact hstep _ ih

/-- Steps do not change a machine that is not running. -/
theorem stepN_of_not_running (h : m.status ≠ .running) (n : Nat) : m.stepN n = m :=
  stepN_induction (P := fun k => k = m)
    (fun k hk => by rw [hk, step_of_not_running h]) rfl n

/-- Once a machine is not running, it stays as it is. -/
theorem stepN_eq_of_le {k n : Nat} (h : (m.stepN k).status ≠ .running) (hkn : k ≤ n) :
    m.stepN n = m.stepN k := by
  obtain ⟨d, rfl⟩ := Nat.exists_eq_add_of_le hkn
  rw [stepN_add, stepN_of_not_running h]

/-- A machine that is running has been running before. -/
theorem running_of_le {k n : Nat} (h : (m.stepN n).status = .running) (hkn : k ≤ n) :
    (m.stepN k).status = .running := by
  refine Decidable.byContradiction fun hrun => hrun ?_
  rw [← stepN_eq_of_le hrun hkn]
  exact h

/-- A step does not write to the grid. -/
theorem grid_step (m : Machine) : m.step.machine.grid = m.grid := by
  rcases step_cases m with ⟨-, h⟩ | ⟨i, t, -, -, h, -⟩ | ⟨fault, handler, -, -, h, -⟩ |
    ⟨fault, -, -, h, -⟩
  all_goals rw [h]
  all_goals rfl

/-- Steps do not write to the grid. -/
theorem grid_stepN (m : Machine) (n : Nat) : (m.stepN n).grid = m.grid :=
  stepN_induction (P := fun k => k.grid = m.grid) (fun k hk => (grid_step k).trans hk) rfl n

/-- A step counts at most one. -/
theorem steps_step_le (m : Machine) : m.step.machine.steps ≤ m.steps + 1 := by
  rcases step_cases m with ⟨-, h⟩ | ⟨i, t, -, -, h, -⟩ | ⟨fault, handler, -, -, h, -⟩ |
    ⟨fault, -, -, h, -⟩
  · rw [h]
    exact Nat.le_succ _
  all_goals rw [h]
  all_goals exact Nat.le_refl _

/-- Steps are counted at most once each. -/
theorem steps_stepN_le (m : Machine) (n : Nat) : (m.stepN n).steps ≤ m.steps + n := by
  induction n with
  | zero => exact Nat.le_refl _
  | succ n ih =>
    have hstep := steps_step_le (m.stepN n)
    rw [stepN_succ]
    omega

/-- What a number of steps report, in order. -/
def transcript (m : Machine) (n : Nat) : List Event :=
  (List.range n).flatMap fun t => (m.stepN t).step.events

/-- No steps report nothing. -/
theorem transcript_zero (m : Machine) : m.transcript 0 = [] := rfl

/-- The last step reports last. -/
theorem transcript_succ (m : Machine) (n : Nat) :
    m.transcript (n + 1) = m.transcript n ++ (m.stepN n).step.events := by
  simp [transcript, List.range_succ]

/-- The first step reports first. -/
theorem transcript_cons (m : Machine) (n : Nat) :
    m.transcript (n + 1) = m.step.events ++ m.step.machine.transcript n := by
  simp only [transcript, List.range_succ_eq_map, List.flatMap_cons, List.flatMap_map]
  rfl

/-- Steps after steps report what the former report, and then what the latter do. -/
theorem transcript_add (m : Machine) (a b : Nat) :
    m.transcript (a + b) = m.transcript a ++ (m.stepN a).transcript b := by
  induction b with
  | zero => rw [transcript_zero, List.append_nil]; rfl
  | succ b ih => rw [← Nat.add_assoc, transcript_succ, transcript_succ, ih, stepN_add, List.append_assoc]

/-! ## Driving -/

/-- A machine that a drive carries on with: it is running, it has steps left, and the next one succeeds. -/
structure Continues (m : Machine) (limit : Nat) : Prop where
  /-- It is running. -/
  running : m.isRunning = true
  /-- It has steps left. -/
  unspent : m.isSpent limit = false
  /-- Its next step succeeds. -/
  ok : m.step.result = .ok ()

/-- How a drive ends with a machine that it does not carry on with. `events` is what was reported before. -/
inductive Ends (limit : Nat) (m : Machine) (events : Array Event) : Drive → Prop where
  /-- The machine has stopped by itself. -/
  | finished (hrun : m.isRunning = false) : Ends limit m events (m.finish events)
  /-- No steps are left. -/
  | spent (hrun : m.isRunning = true) (hspent : m.isSpent limit = true) :
      Ends limit m events ⟨m, events, .error (.stepLimit limit)⟩
  /-- The next step fails. -/
  | failed (hrun : m.isRunning = true) (hleft : m.isSpent limit = false) {error : StepError}
      (herror : m.step.result = .error error) :
      Ends limit m events ⟨m.step.machine, events ++ m.step.events, .error (.step error)⟩

/-- A drive carries on with a machine or ends with it. -/
theorem continues_or_ends (m : Machine) (limit : Nat) (events : Array Event) :
    m.Continues limit ∨ ∃ d, Ends limit m events d := by
  cases hrun : m.isRunning with
  | false => exact .inr ⟨_, .finished hrun⟩
  | true =>
    cases hspent : m.isSpent limit with
    | true => exact .inr ⟨_, .spent hrun hspent⟩
    | false =>
      cases hresult : m.step.result with
      | ok u => exact .inl ⟨hrun, hspent, hresult⟩
      | error error => exact .inr ⟨_, .failed hrun hspent hresult⟩

/-- Where a drive ends is what its loop comes to. -/
theorem Ends.drain_eq {limit : Nat} {events : Array Event} {d : Drive} (h : Ends limit m events d) :
    drain limit m events = some d := by
  rw [drain]
  cases h with
  | finished hrun => simp only [hrun, Bool.false_eq_true, if_false]
  | spent hrun hspent => simp only [hrun, hspent, if_true]
  | failed hrun hleft herror => simp only [hrun, hleft, herror, if_true, Bool.false_eq_true, if_false]

/-- Where a drive carries on, its loop makes a step. -/
theorem Continues.drain_eq {limit : Nat} (h : m.Continues limit) (events : Array Event) :
    drain limit m events = drain limit m.step.machine (events ++ m.step.events) := by
  rw [drain]
  simp only [h.running, h.unspent, h.ok, if_true, Bool.false_eq_true, if_false]

/-- A drive that is not stopped counts off its steps, and what they report. -/
theorem drain_stepN {limit k : Nat} (h : ∀ t < k, (m.stepN t).Continues limit) (events : Array Event) :
    drain limit m events = drain limit (m.stepN k) (events ++ m.transcript k) := by
  induction k with
  | zero => rw [transcript_zero, Array.appendList_nil]; rfl
  | succ k ih =>
    have hlast := (h k (Nat.lt_succ_self k)).drain_eq (events ++ m.transcript k)
    have hreported : events ++ m.transcript (k + 1) =
        events ++ m.transcript k ++ (m.stepN k).step.events :=
      Array.ext' (by simp [transcript_succ])
    rw [ih fun t ht => h t (Nat.lt_succ_of_lt ht), hlast, stepN_succ, hreported]

/-- A drive that carries on with every machine of a run never ends. -/
theorem drain_eq_none {limit : Nat} (h : ∀ n, (m.stepN n).Continues limit) (events : Array Event) :
    drain limit m events = none := by
  refine Option.eq_none_iff_forall_ne_some.2 fun d hd => ?_
  -- a loop that comes to something does so after one round less from the machine after the first step
  refine drain.partial_correctness limit
    (fun m _ _ => ¬ ∀ n, (m.stepN n).Continues limit) ?_ m events d hd h
  intro loop ih m events d hloop hcontinues
  have hfirst : m.Continues limit := hcontinues 0
  simp only [hfirst.running, hfirst.unspent, hfirst.ok, if_true, Bool.false_eq_true, if_false] at hloop
  exact ih _ _ _ hloop fun n => hcontinues (n + 1)

/-- The loop of a drive goes on forever, or there is a number of steps after which it ends. -/
theorem drain_cases (limit : Nat) (m : Machine) (events : Array Event) :
    (drain limit m events = none ∧ ∀ n, (m.stepN n).Continues limit) ∨
    ∃ k d, drain limit m events = some d ∧ (∀ t < k, (m.stepN t).Continues limit) ∧
      Ends limit (m.stepN k) (events ++ m.transcript k) d := by
  by_cases h : ∀ n, (m.stepN n).Continues limit
  · exact .inl ⟨drain_eq_none h events, h⟩
  · right
    classical
    have hstop : ∃ n, ¬ (m.stepN n).Continues limit := not_forall.1 h
    have hbefore : ∀ t < Nat.find hstop, (m.stepN t).Continues limit :=
      fun t ht => Decidable.not_not.1 (Nat.find_min hstop ht)
    obtain hcontinues | ⟨d, hd⟩ := (m.stepN (Nat.find hstop)).continues_or_ends limit
      (events ++ m.transcript (Nat.find hstop))
    · exact absurd hcontinues (Nat.find_spec hstop)
    · exact ⟨_, d, (drain_stepN hbefore events).trans hd.drain_eq, hbefore, hd⟩

/-- A running machine counts the steps that succeed. -/
theorem steps_step_of_ok (hrun : m.status = .running) (hok : m.step.result = .ok ()) :
    m.step.machine.steps = m.steps + 1 := by
  rcases step_cases m with ⟨hdeed, -⟩ | ⟨i, t, -, -, h, -⟩ | ⟨fault, handler, -, -, h, -⟩ |
    ⟨fault, -, -, h, -⟩
  · -- a running machine that does nothing is off the grid, and its step fails
    rw [deed?, if_pos hrun, Option.map_eq_none_iff] at hdeed
    rw [step, if_pos hrun, hdeed] at hok
    cases hok
  all_goals rw [h]; rfl

/-- A drive that is not stopped has made as many steps as it has counted. -/
theorem steps_stepN_of_continues {limit k : Nat} (h : ∀ t < k, (m.stepN t).Continues limit) :
    (m.stepN k).steps = m.steps + k := by
  induction k with
  | zero => rfl
  | succ k ih =>
    have hlast := h k (Nat.lt_succ_self k)
    have hstep := steps_step_of_ok (of_decide_eq_true hlast.running) hlast.ok
    rw [stepN_succ, hstep, ih fun t ht => h t (Nat.lt_succ_of_lt ht)]
    rfl

/-- A machine has steps left as long as it has made fewer than the limit, if there is one. -/
theorem isSpent_eq_false_iff {limit : Nat} : m.isSpent limit = false ↔ limit = 0 ∨ m.steps < limit := by
  rw [isSpent, decide_eq_false_iff_not]
  omega

/-- A drive with a limit ends. -/
theorem exists_drive (m : Machine) (limit : Nat) (hlimit : limit ≠ 0) : ∃ d, m.drive limit = some d := by
  rcases drain_cases limit m.run (m.runEvents ++ [Event.started limit m.grid.width m.grid.height]).toArray
    with ⟨-, hcontinues⟩ | ⟨k, d, hd, -⟩
  · -- after as many steps as the limit allows, none are left
    have hsteps : (m.run.stepN limit).steps = 0 + limit :=
      steps_stepN_of_continues fun t _ => hcontinues t
    have hleft := isSpent_eq_false_iff.1 (hcontinues limit).unspent
    omega
  · exact ⟨d, hd⟩

/-- A drive ends after some number of steps, at most as many as its limit allows. It reports what the machine
has printed, or the error of the last step, or that the limit was reached. -/
theorem drive_cases {limit : Nat} {d : Drive} (h : m.drive limit = some d) :
    ∃ k, (limit = 0 ∨ k ≤ limit) ∧ d.machine = m.run.stepN k ∧
      (d.result = .ok ⟨d.machine.steps, d.machine.state.output.text⟩ ∨
        (∃ j error, k = j + 1 ∧ (m.run.stepN j).step.result = .error error ∧
          d.result = .error (.step error)) ∨
        d.result = .error (.stepLimit limit)) := by
  have hdrain : drain limit m.run _ = some d := h
  rcases drain_cases limit m.run _ with ⟨hnone, -⟩ | ⟨k, d', hd', hcontinues, hends⟩
  · cases hnone.symm.trans hdrain
  · obtain rfl : d' = d := Option.some.inj (hd'.symm.trans hdrain)
    have hsteps : (m.run.stepN k).steps = 0 + k := steps_stepN_of_continues hcontinues
    have hallowed : limit = 0 ∨ k ≤ limit := by
      obtain _ | j := k
      · exact .inr (Nat.zero_le limit)
      · have hleft := isSpent_eq_false_iff.1 (hcontinues j (Nat.lt_succ_self j)).unspent
        have hj : (m.run.stepN j).steps = 0 + j :=
          steps_stepN_of_continues fun t ht => hcontinues t (Nat.lt_succ_of_lt ht)
        omega
    cases hends with
    | finished hrun => exact ⟨k, hallowed, rfl, .inl rfl⟩
    | spent hrun hspent => exact ⟨k, hallowed, rfl, .inr (.inr rfl)⟩
    | @failed hrun hleft error herror =>
      have hleft := isSpent_eq_false_iff.1 hleft
      refine ⟨k + 1, by omega, (stepN_succ m.run k).symm, .inr (.inl ⟨k, error, rfl, herror, rfl⟩)⟩

/-- A driven machine is a started one after some number of steps, at most as many as are allowed. -/
theorem drive_machine {limit : Nat} {d : Drive} (h : m.drive limit = some d) :
    ∃ k, (limit = 0 ∨ k ≤ limit) ∧ d.machine = m.run.stepN k := by
  obtain ⟨k, hle, hmachine, -⟩ := drive_cases h
  exact ⟨k, hle, hmachine⟩

/-- The output of a report is what the machine has printed at the end. -/
theorem drive_report {limit : Nat} {d : Drive} {report : Report} (h : m.drive limit = some d)
    (hreport : d.result = .ok report) : report.output = d.machine.state.output.text := by
  obtain ⟨k, -, -, hok | ⟨j, error, -, -, hfailed⟩ | hlimit⟩ := drive_cases h
  · rw [hreport] at hok
    cases hok
    rfl
  · cases hreport.symm.trans hfailed
  · cases hreport.symm.trans hlimit

/-- An error that driving reports is the error of a step after some number of steps from the start. -/
theorem drive_error {limit : Nat} {d : Drive} {error : StepError} (h : m.drive limit = some d)
    (herror : d.result = .error (.step error)) : ∃ k, (m.run.stepN k).step.result = .error error := by
  obtain ⟨k, -, -, hok | ⟨j, other, -, hother, hfailed⟩ | hlimit⟩ := drive_cases h
  · cases herror.symm.trans hok
  · cases herror.symm.trans hfailed
    exact ⟨j, hother⟩
  · cases herror.symm.trans hlimit

/-! ## Commands and operations in any order -/

/-- The machine after a command. -/
def obey (m : Machine) : Command → Machine
  | .run => m.run
  | .reset => m.reset
  | .step => m.step.machine

/-- The machine after commands in a row, the first of them first. -/
def obeyAll (m : Machine) (commands : List Command) : Machine :=
  commands.foldl obey m

/-- The last of some commands is obeyed last. -/
theorem obeyAll_concat (m : Machine) (commands : List Command) (command : Command) :
    m.obeyAll (commands ++ [command]) = (m.obeyAll commands).obey command := by
  rw [obeyAll, List.foldl_append]
  rfl

/-- The machine after an operation, if the operation comes to an end. -/
def perform (m : Machine) : Operation → Option Machine
  | .command command => some (m.obey command)
  | .drive limit => (m.drive limit).map Drive.machine

/-- The machine after a history of operations, the first of them first, if all of them come to an end. -/
def performAll (m : Machine) (operations : List Operation) : Option Machine :=
  operations.foldlM perform m

/-- A history goes on where its beginning has led to. -/
theorem performAll_append (m : Machine) (operations later : List Operation) :
    m.performAll (operations ++ later) = (m.performAll operations).bind fun k => k.performAll later :=
  List.foldlM_append

/-- A history comes to an end if its first operation and the rest of it do. -/
theorem performAll_cons_eq_some_iff {operation : Operation} {rest : List Operation} {k : Machine} :
    m.performAll (operation :: rest) = some k ↔
      ∃ next, m.perform operation = some next ∧ next.performAll rest = some k := by
  rw [performAll, List.foldlM_cons, Option.bind_eq_bind, Option.bind_eq_some_iff]
  rfl

/-- A history without drives comes to an end. -/
theorem performAll_map_command (m : Machine) (commands : List Command) :
    m.performAll (commands.map .command) = some (m.obeyAll commands) := by
  induction commands generalizing m with
  | nil => rfl
  | cons command rest ih => exact ih (m.obey command)

/-- A history comes to an end if all its drives have a limit. -/
theorem exists_performAll (m : Machine) (operations : List Operation)
    (h : .drive 0 ∉ operations) : ∃ k, m.performAll operations = some k := by
  induction operations generalizing m with
  | nil => exact ⟨m, rfl⟩
  | cons operation rest ih =>
    rw [List.mem_cons, not_or] at h
    have hperform : ∃ next, m.perform operation = some next := by
      cases operation with
      | command command => exact ⟨_, rfl⟩
      | drive limit =>
        obtain ⟨d, hd⟩ := m.exists_drive limit fun hzero => h.1 (by rw [hzero])
        exact ⟨d.machine, congrArg (Option.map Drive.machine) hd⟩
    obtain ⟨next, hnext⟩ := hperform
    obtain ⟨k, hk⟩ := ih next h.2
    exact ⟨k, performAll_cons_eq_some_iff.2 ⟨next, hnext, hk⟩⟩

/-- An operation is a step, or it sets the machine back, or it starts it and makes some number of steps. -/
theorem perform_cases {operation : Operation} {k : Machine} (h : m.perform operation = some k) :
    (operation = .command .step ∧ k = m.step.machine) ∨ k = m.reset ∨ ∃ n, k = m.run.stepN n := by
  cases operation with
  | command command =>
    cases h
    cases command with
    | run => exact .inr (.inr ⟨0, rfl⟩)
    | reset => exact .inr (.inl rfl)
    | step => exact .inl ⟨rfl, rfl⟩
  | drive limit =>
    obtain ⟨d, hd, rfl⟩ := Option.map_eq_some_iff.1 h
    obtain ⟨n, -, hn⟩ := drive_machine hd
    exact .inr (.inr ⟨n, hn⟩)

/-- What starting, resetting and stepping keep, every history keeps. -/
theorem performAll_induction {P : Machine → Prop} (hrun : ∀ m, P m → P m.run)
    (hreset : ∀ m, P m → P m.reset) (hstep : ∀ m, P m → P m.step.machine) (hm : P m)
    {operations : List Operation} {k : Machine} (h : m.performAll operations = some k) : P k := by
  induction operations generalizing m with
  | nil => exact Option.some.inj h ▸ hm
  | cons operation rest ih =>
    obtain ⟨next, hnext, hrest⟩ := performAll_cons_eq_some_iff.1 h
    refine ih ?_ hrest
    rcases perform_cases hnext with ⟨-, rfl⟩ | rfl | ⟨n, rfl⟩
    · exact hstep m hm
    · exact hreset m hm
    · exact stepN_induction hstep (hrun m hm) n

/-- What holds at every start and after every reset, and is kept by steps, holds after every history in
which the machine is not only stepped. -/
theorem performAll_of_restart {P : Machine → Prop} (hrun : ∀ m : Machine, P m.run)
    (hreset : ∀ m : Machine, P m.reset) (hstep : ∀ m, P m → P m.step.machine) {operations : List Operation}
    (hstart : P m ∨ ∃ operation ∈ operations, operation ≠ .command .step) {k : Machine}
    (h : m.performAll operations = some k) : P k := by
  induction operations generalizing m with
  | nil =>
    rcases hstart with hm | ⟨operation, hmem, -⟩
    · exact Option.some.inj h ▸ hm
    · cases hmem
  | cons operation rest ih =>
    obtain ⟨next, hnext, hrest⟩ := performAll_cons_eq_some_iff.1 h
    refine ih ?_ hrest
    rcases perform_cases hnext with ⟨rfl, rfl⟩ | rfl | ⟨n, rfl⟩
    · rcases hstart with hm | ⟨other, hmem, hne⟩
      · exact .inl (hstep m hm)
      · -- what starts the machine over comes later
        exact .inr ⟨other, List.mem_of_ne_of_mem hne hmem, hne⟩
    · exact .inl (hreset m)
    · exact .inl (stepN_induction hstep (hrun m) n)

/-- No history writes to the grid. -/
theorem grid_performAll {operations : List Operation} {k : Machine}
    (h : m.performAll operations = some k) : k.grid = m.grid :=
  performAll_induction (P := fun k => k.grid = m.grid) (fun _ hk => hk) (fun _ hk => hk)
    (fun k hk => (grid_step k).trans hk) rfl h

/-! ## Starting over -/

/-- An input moves on in its codes and leaves them alone, and no other instruction touches the input. -/
theorem codes_of_executes {g : Grid} {s t : State} {i : Instruction} (h : Executes g s i t) :
    t.input.codes = s.input.codes := by
  cases h <;> rfl

/-- A step does not write to the codes of the input. -/
theorem codes_step (m : Machine) : m.step.machine.state.input.codes = m.state.input.codes := by
  rcases step_cases m with ⟨-, h⟩ | ⟨i, t, -, hexec, h, -⟩ | ⟨fault, handler, -, -, h, -⟩ |
    ⟨fault, -, -, h, -⟩
  · rw [h]
  · have ht : t.input.codes = m.state.input.codes := codes_of_executes hexec
    rw [h]
    exact ht
  · rw [h]
    rfl
  · rw [h]
    rfl

/-- Steps do not write to the codes of the input. -/
theorem codes_stepN (m : Machine) (n : Nat) :
    (m.stepN n).state.input.codes = m.state.input.codes :=
  stepN_induction (P := fun k => k.state.input.codes = m.state.input.codes)
    (fun k hk => (codes_step k).trans hk) rfl n

/-- No history writes to the codes of the input. -/
theorem codes_performAll {operations : List Operation} {k : Machine}
    (h : m.performAll operations = some k) : k.state.input.codes = m.state.input.codes :=
  performAll_induction (P := fun k => k.state.input.codes = m.state.input.codes) (fun _ hk => hk)
    (fun _ hk => hk) (fun k hk => (codes_step k).trans hk) rfl h

/-- A reset keeps the grid and the codes of the input, and nothing else. -/
theorem reset_eq_new (m : Machine) : m.reset = new m.grid ⟨m.state.input.codes, 0⟩ := by
  rw [reset, State.reset_eq_start]
  rfl

/-- Starting over forgets all history. Whatever was done with a machine, a reset makes it the machine that
was made of its grid and input, with the input unread; a reset once more changes nothing; and a start or a
drive leads to where it leads from the machine that was made, with the same result and reports, or to no end
if that one's does not. -/
theorem restart_performAll (g : Grid) (input : Input) (operations : List Operation) (m : Machine)
    (h : (new g input).performAll operations = some m) :
    m.reset = new g ⟨input.codes, 0⟩ ∧
    (input.position = 0 → m.reset = new g input) ∧
    m.reset.reset = m.reset ∧
    m.run = (new g input).run ∧
    ∀ limit, m.drive limit = (new g input).drive limit := by
  have hgrid : m.grid = g := grid_performAll h
  have hcodes : m.state.input.codes = input.codes := codes_performAll h
  have hreset : m.reset = new g ⟨input.codes, 0⟩ := by
    rw [reset_eq_new, hgrid, hcodes]
  have hrun : m.run = (new g input).run := by
    have hfresh : (new g input).reset = new g ⟨input.codes, 0⟩ := reset_eq_new (new g input)
    rw [run, run, hreset, hfresh]
  refine ⟨hreset, ?_, rfl, hrun, ?_⟩
  · intro hunread
    rw [hreset, ← hunread]
  · intro limit
    -- what a drive reports before the first step is about the grid
    have hreports : m.runEvents = (new g input).runEvents := by
      rw [runEvents, runEvents, resetEvents, resetEvents, hgrid]
      rfl
    rw [drive, drive, hrun, hreports, hgrid]
    rfl

/-- A program that reads a code and binds a function. -/
def learner : Grid := .paint 2 1 #[⟨9, 0, 1⟩, ⟨3, 4, 7⟩] (by decide)

/-- A history with every kind of operation, two steps after the last start. The register holds the code that
was read and the function is bound; a reset takes both back, and a drive is the first one over again. -/
theorem restart_performAll_learner :
    let fresh := new learner (.ofCodes [72, 105, 33])
    let earlier : List Operation :=
      [.command .step, .command .run, .command .step, .command .reset, .drive 1]
    ∃ m, fresh.performAll (earlier ++ [.command .run, .command .step, .command .step]) = some m ∧
      m.state.register 1 = 72 ∧ (m.state.function? 7).isSome ∧
      m.reset = fresh ∧ m.drive 2 = fresh.drive 2 := by
  intro fresh earlier
  obtain ⟨k, hk⟩ := fresh.exists_performAll earlier (by decide)
  obtain ⟨-, -, -, hrun, -⟩ := restart_performAll learner (.ofCodes [72, 105, 33]) earlier k hk
  -- a start forgets what was done earlier, so what is left of the history is two steps
  have hm : fresh.performAll (earlier ++ [.command .run, .command .step, .command .step]) =
      some (fresh.run.stepN 2) := by
    rw [performAll_append, hk, ← hrun]
    rfl
  obtain ⟨-, hunread, -, -, hdrive⟩ := restart_performAll learner (.ofCodes [72, 105, 33]) _ _ hm
  exact ⟨_, hm, by decide +kernel, by decide +kernel, hunread rfl, hdrive 2⟩

end Machine

end PixelMachine
