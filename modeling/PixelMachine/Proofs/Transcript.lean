import PixelMachine.Proofs.CallReturn
import PixelMachine.Proofs.Driving

/-!
# The transcript of a run

A machine reports what it does as it goes. The instruction that it reads is reported before it is carried
out, and what is made of it afterwards, so what a step reports is known from the machines before and after
it: `Machine.step_tells` opens a step once more, with its events.

The log of a run is what its start and its steps report (`Machine.log`). Each kind of event in it is compared
with the machine at the end: first for one step, as what the step adds to the log and to the machine, and
then, by induction, for all steps of a run. The instructions read are listed by
`Machine.filter_execute_log`; calls and returns balance to the depth of the stack
(`Machine.count_call_log`), and tries and recoveries to the pending handler (`Machine.count_try_log`); and a
log ends as its machine does (`Machine.concluded_log`). A drive speaks for itself only before the steps and
after the last (`Machine.drive_events`). The main result is `Machine.transcript_run`.
-/

set_option autoImplicit false

namespace PixelMachine

/-! ## What an instruction reports -/

/-- What executing an instruction reports, with the state before it and the state that it leads to. -/
def Instruction.reports (i : Instruction) (s t : State) : List Event :=
  match i.kind with
  | .defineFunction => [.functionBound i.b i.g s.location]
  | .defineTry =>
    [if s.tryHandler.isSome then .tryReplaced s.location else .tryInstalled s.location i.b]
  | .ret => [.returned t.location t.callStack.depth]
  | .call => [.called i.b t.location t.callStack.depth]
  | _ => []

/-- A handler that succeeds reports its instruction, and one that fails reports nothing. -/
structure Effect.Told (e : Effect) (s : State) (i : Instruction) : Prop where
  events_of_ok : ∀ control, e.outcome = .ok control → e.events = i.reports s e.state
  events_of_error : ∀ fault, e.outcome = .error fault → e.events = []

namespace Effect.Told

variable {s t : State} {i : Instruction}

/-- A success is told if it reports its instruction. -/
theorem done {events : List Event} (h : events = i.reports s t) : (Effect.done t events).Told s i :=
  ⟨fun _ _ => h, nofun⟩

/-- A failure reports nothing. -/
theorem raise (fault : Fault) : (Effect.raise s fault).Told s i :=
  ⟨nofun, fun _ _ => rfl⟩

end Effect.Told

namespace Handler

/-- Whatever the kind of an instruction, its handler reports it. -/
theorem lookup_told (s : State) (g : Grid) (i : Instruction) : (lookup i.kind i s g).Told s i := by
  obtain ⟨kind, green, blue⟩ := i
  rw [lookup_eq]
  cases kind with
  | halt => exact ⟨fun _ _ => rfl, nofun⟩
  | setVar =>
    simp only [ofOpcode, setVar]
    split
    · exact .done rfl
    · exact .raise _
  | calculate =>
    simp only [ofOpcode, calculate]
    split
    · split
      · exact .done rfl
      · exact .raise _
    · exact .raise _
  | defineFunction => exact .done rfl
  | defineTry => exact .done rfl
  | ret =>
    simp only [ofOpcode, ret]
    split
    · exact .done rfl
    · exact .raise _
  | branch =>
    simp only [ofOpcode, branch]
    split
    · exact .done rfl
    · exact .done rfl
  | throw => exact .raise _
  | output =>
    simp only [ofOpcode, output]
    split
    · exact .done rfl
    · exact .raise _
  | input =>
    simp only [ofOpcode, input]
    split
    · exact .done rfl
    · exact .raise _
  | call =>
    simp only [ofOpcode, call]
    split
    · exact .done rfl
    · exact .raise _
  | nop => exact .done rfl

end Handler

namespace Machine

variable {m : Machine} {i : Instruction} {fault : Fault}

/-! ## What a step reports -/

/-- The instruction under the cursor, if the pixel there is one. -/
def read? (m : Machine) : Option Instruction :=
  (m.grid.get? m.state.location).bind fun p => (Instruction.decode p).toOption

/-- What the next step reports of the instruction that it reads. -/
def execution? (m : Machine) : Option Event :=
  m.read?.map fun i => .execute m.steps m.state.location i

/-- The instruction that is carried out is the one that is read. -/
theorem read?_of_executed (h : m.deed? = some (.executed i)) : m.read? = some i := by
  unfold read?
  rw [(executes_of_deed? h).1, Option.bind_some, Instruction.decode_toPixel]
  rfl

/-- A machine that does nothing reports nothing. -/
theorem events_step_of_deed?_none (h : m.deed? = none) : m.step.events = [] := by
  unfold deed? at h
  by_cases hrun : m.status = .running
  · rw [if_pos hrun, Option.map_eq_none_iff] at h
    rw [step, if_pos hrun, h]
  · rw [step_of_not_running hrun]

/-- An executed instruction is reported as read, as executed, and, if it halts, as halting. -/
theorem events_step_of_executed {t : State} (h : m.deed? = some (.executed i))
    (hexec : Executes m.grid m.state i t) :
    m.step.events = m.execution?.toList ++ i.reports m.state t ++
      if i.kind = .halt then [.halted m.state.location (m.steps + 1)] else [] := by
  obtain ⟨hok, hstate⟩ := hexec.outcome_lookup
  have hevents := (Handler.lookup_told m.state m.grid i).events_of_ok _ hok
  rw [hstate] at hevents
  rw [step_of_get? (status_of_deed? h) (executes_of_deed? h).1,
    execute_of_decode_ok (Instruction.decode_toPixel i), execution?, read?_of_executed h]
  by_cases hhalt : i.kind = .halt
  · simp only [hok, hevents, Control.after, if_pos hhalt]
    rfl
  · simp only [hok, hevents, Control.after, if_neg hhalt, List.append_nil]
    rfl

/-- A fault is reported after the instruction that raised it, and after nothing if there is none. -/
theorem events_step_of_raised (h : m.deed? = some (.raised fault)) :
    m.step.events = m.execution?.toList ++
      ({ m with steps := m.steps + 1 }.raise fault m.state.location).events := by
  have hrun := status_of_deed? h
  rw [deed?, if_pos hrun] at h
  obtain ⟨p, hp, hdeed⟩ := Option.map_eq_some_iff.1 h
  rw [step_of_get? hrun hp, execution?, read?, hp, Option.bind_some]
  rcases Deed.ofPixel_eq_raised_iff.1 hdeed with hdecode | ⟨i, hdecode, houtcome⟩
  · rw [execute_of_decode_error hdecode, hdecode]
    rfl
  · have hevents := (Handler.lookup_told m.state m.grid i).events_of_error fault houtcome
    have hstate := (Handler.lookup_lawful m.state m.grid i).state_eq fault houtcome
    rw [execute_of_decode_ok hdecode, hdecode]
    simp [houtcome, hstate, hevents, Except.toOption]

/-- What a step reports, for each of the ways in which it can go. -/
theorem step_tells (m : Machine) :
    (m.deed? = none ∧ m.step.machine = m ∧ m.step.events = []) ∨
    (∃ i t, m.deed? = some (.executed i) ∧ Executes m.grid m.state i t ∧
      m.step.machine = m.after i t ∧
      m.step.events = m.execution?.toList ++ i.reports m.state t ++
        if i.kind = .halt then [.halted m.state.location (m.steps + 1)] else []) ∨
    (∃ fault handler, m.deed? = some (.raised fault) ∧ m.state.tryHandler = some handler ∧
      m.step.machine = m.recover fault handler ∧
      m.step.events = m.execution?.toList ++
        [.recovered fault fault.code m.state.location handler.location handler.dest]) ∨
    (∃ fault, m.deed? = some (.raised fault) ∧ m.state.tryHandler = none ∧
      m.step.machine = m.fail fault ∧
      m.step.events = m.execution?.toList ++ [.uncaught fault fault.code m.state.location]) := by
  rcases step_cases m with ⟨hdeed, h⟩ | ⟨i, t, hdeed, hexec, h, -⟩ |
    ⟨fault, handler, hdeed, htry, h, -⟩ | ⟨fault, hdeed, htry, h, -⟩
  · exact .inl ⟨hdeed, h, events_step_of_deed?_none hdeed⟩
  · exact .inr (.inl ⟨i, t, hdeed, hexec, h, events_step_of_executed hdeed hexec⟩)
  · have hevents := events_step_of_raised hdeed
    simp only [raise, htry] at hevents
    exact .inr (.inr (.inl ⟨fault, handler, hdeed, htry, h, hevents⟩))
  · have hevents := events_step_of_raised hdeed
    simp only [raise, htry] at hevents
    exact .inr (.inr (.inr ⟨fault, hdeed, htry, h, hevents⟩))

end Machine

/-! ## Counting events -/

namespace Event

/-- How many events in a log have a name. -/
def count (name : String) (log : List Event) : Nat := log.countP fun e => e.message = name

variable {name : String}

/-- An empty log has no events of any name. -/
@[simp] theorem count_nil : count name [] = 0 := rfl

/-- The events of a name in two logs are those in one and those in the other. -/
@[simp] theorem count_append (v w : List Event) : count name (v ++ w) = count name v + count name w :=
  List.countP_append

/-- A single event counts if it has the name. -/
theorem count_singleton (e : Event) : count name [e] = if e.message = name then 1 else 0 := by
  simp [count, List.countP_singleton]

/-- No event has the name if none is counted. -/
theorem count_eq_zero_iff {log : List Event} : count name log = 0 ↔ ∀ e ∈ log, e.message ≠ name := by
  simp [count, List.countP_eq_zero]

end Event

open Event (count)

/-- How many try-handlers are pending. -/
def State.pending (s : State) : Nat := s.tryHandler.toList.length

/-- One handler is pending, or none. -/
theorem State.pending_eq (s : State) : s.pending = if s.tryHandler.isSome then 1 else 0 := by
  unfold pending
  cases s.tryHandler <;> rfl

namespace Executes

variable {g : Grid} {s t : State} {i : Instruction}

/-- Calls and returns are reported as the stack grows and shrinks. -/
theorem count_call (h : Executes g s i t) :
    count "call" (i.reports s t) + s.callStack.depth =
      count "return" (i.reports s t) + t.callStack.depth := by
  cases h with
  | ret caller rest hcalls =>
    simp [Instruction.reports, Event.count_singleton, Event.message, hcalls, Nat.add_comm]
  | call slot hslot =>
    simp [Instruction.reports, Event.count_singleton, Event.message, Nat.add_comm]
  | defineTry green blue =>
    simp only [Instruction.reports, Event.count_singleton]
    split <;> simp [Event.message]
  | _ =>
    simp [Instruction.reports, Event.count_singleton, Event.message, State.setRegister,
      State.bindFunction]

/-- A try is reported as installed exactly if none was pending, and one is pending after it. -/
theorem count_try (h : Executes g s i t) :
    count "try-handler installed" (i.reports s t) + s.pending =
      count "fault recovered" (i.reports s t) + t.pending := by
  cases h with
  | defineTry green blue =>
    rw [State.pending_eq]
    by_cases htry : s.tryHandler.isSome
    · simp [Instruction.reports, Event.count_singleton, Event.message, State.pending, htry]
    · simp [Instruction.reports, Event.count_singleton, Event.message, State.pending, htry]
  | _ =>
    -- what is pending is as it was, and neither is reported
    refine congrArg₂ (· + ·) ?_ rfl
    simp [Instruction.reports, Event.count_singleton, Event.message]

/-- The depth that is reported is that of the stack afterwards. -/
theorem depth_reported (h : Executes g s i t) {e : Event} (he : e ∈ i.reports s t)
    (hname : e.message = "call" ∨ e.message = "return") :
    e.fields.lookup "depth" = some (toString t.callStack.depth) := by
  cases h with
  | ret caller rest hcalls =>
    obtain rfl := List.mem_singleton.1 he
    rfl
  | call slot hslot =>
    obtain rfl := List.mem_singleton.1 he
    rfl
  | defineFunction green blue =>
    obtain rfl := List.mem_singleton.1 he
    simp [Event.message] at hname
  | defineTry green blue =>
    simp only [Instruction.reports] at he
    split at he
    all_goals
      obtain rfl := List.mem_singleton.1 he
      simp [Event.message] at hname
  | _ => cases he

end Executes

/-- No instruction reports an end of the run, nor does one speak for the driver. -/
theorem Instruction.reports_quiet (i : Instruction) (s t : State) :
    ∀ e ∈ i.reports s t, e.target = .handlers ∧ e.message ≠ "execute" ∧ e.message ≠ "halted" ∧
      e.message ≠ "uncaught fault" := by
  obtain ⟨kind, green, blue⟩ := i
  cases kind with
  | defineTry =>
    intro e he
    obtain rfl := List.mem_singleton.1 he
    split <;> simp [Event.target, Event.message]
  | _ => simp [reports, Event.target, Event.message]

namespace Machine

variable {m : Machine} {name : String}

/-- What is reported of the instruction that is read is its execution. -/
theorem exists_of_mem_execution? {e : Event} (he : e ∈ m.execution?.toList) :
    ∃ i, e = .execute m.steps m.state.location i := by
  obtain ⟨i, -, rfl⟩ := Option.map_eq_some_iff.1 (Option.mem_toList.1 he)
  exact ⟨i, rfl⟩

/-- What is reported of the instruction that is read has one name only. -/
theorem count_execution? (m : Machine) (h : name ≠ "execute") : count name m.execution?.toList = 0 := by
  rw [Event.count_eq_zero_iff]
  intro e he
  obtain ⟨i, rfl⟩ := exists_of_mem_execution? he
  exact h.symm

/-- An event of a step tells of the instruction that was read, of what it did, of a halt, or of a fault. -/
theorem cases_of_mem_step {e : Event} (he : e ∈ m.step.events) :
    (∃ i, e = .execute m.steps m.state.location i) ∨
    (∃ i t, Executes m.grid m.state i t ∧ m.step.machine = m.after i t ∧ e ∈ i.reports m.state t) ∨
    (∃ location steps, e = .halted location steps) ∨
    (∃ fault code source destination dest, e = .recovered fault code source destination dest) ∨
    (∃ fault code location, e = .uncaught fault code location) := by
  rcases step_tells m with ⟨-, -, hevents⟩ | ⟨i, t, -, hexec, h, hevents⟩ |
    ⟨fault, handler, -, -, -, hevents⟩ | ⟨fault, -, -, -, hevents⟩
  · rw [hevents] at he
    cases he
  · rw [hevents, List.mem_append, List.mem_append] at he
    obtain (he | he) | he := he
    · exact .inl (exists_of_mem_execution? he)
    · exact .inr (.inl ⟨i, t, hexec, h, he⟩)
    · split at he
      · exact .inr (.inr (.inl ⟨_, _, List.mem_singleton.1 he⟩))
      · cases he
  · rw [hevents, List.mem_append, List.mem_singleton] at he
    obtain he | he := he
    · exact .inl (exists_of_mem_execution? he)
    · exact .inr (.inr (.inr (.inl ⟨_, _, _, _, _, he⟩)))
  · rw [hevents, List.mem_append, List.mem_singleton] at he
    obtain he | he := he
    · exact .inl (exists_of_mem_execution? he)
    · exact .inr (.inr (.inr (.inr ⟨_, _, _, he⟩)))

/-- What a step adds to the calls and the returns in the log is what it adds to the stack. -/
theorem count_call_step (m : Machine) :
    count "call" m.step.events + m.state.callStack.depth =
      count "return" m.step.events + m.step.machine.state.callStack.depth := by
  rcases step_tells m with ⟨-, h, hevents⟩ | ⟨i, t, -, hexec, h, hevents⟩ |
    ⟨fault, handler, -, htry, h, hevents⟩ | ⟨fault, -, htry, h, hevents⟩
  · simp [h, hevents]
  · have hcall := hexec.count_call
    rw [h, hevents]
    split <;> simpa [count_execution?, after, Event.count_singleton, Event.message] using hcall
  · simp [h, hevents, count_execution?, recover, Event.count_singleton, Event.message,
      State.setRegister]
  · simp [h, hevents, count_execution?, fail, Event.count_singleton, Event.message]

/-- What a step adds to the tries and the recoveries in the log is what it makes of the handler. -/
theorem count_try_step (m : Machine) :
    count "try-handler installed" m.step.events + m.state.pending =
      count "fault recovered" m.step.events + m.step.machine.state.pending := by
  rcases step_tells m with ⟨-, h, hevents⟩ | ⟨i, t, -, hexec, h, hevents⟩ |
    ⟨fault, handler, -, htry, h, hevents⟩ | ⟨fault, -, htry, h, hevents⟩
  · simp [h, hevents]
  · have hcount := hexec.count_try
    have hpending : (m.after i t).state.pending = t.pending := rfl
    rw [h, hevents, hpending]
    split <;> simpa [count_execution?, Event.count_singleton, Event.message] using hcount
  · have hbefore : m.state.pending = 1 := by rw [State.pending, htry]; rfl
    have hafter : (m.recover fault handler).state.pending = 0 := rfl
    rw [h, hevents, hbefore, hafter]
    simp [count_execution?, Event.count_singleton, Event.message]
  · have hpending : (m.fail fault).state.pending = m.state.pending := rfl
    rw [h, hevents, hpending]
    simp [count_execution?, Event.count_singleton, Event.message]

/-- A step that reports a call or a return reports the depth of the stack after it. -/
theorem depth_step {e : Event} (he : e ∈ m.step.events)
    (hname : e.message = "call" ∨ e.message = "return") :
    e.fields.lookup "depth" = some (toString m.step.machine.state.callStack.depth) := by
  rcases cases_of_mem_step he with ⟨i, rfl⟩ | ⟨i, t, hexec, h, he⟩ | ⟨location, steps, rfl⟩ |
    ⟨fault, code, source, destination, dest, rfl⟩ | ⟨fault, code, location, rfl⟩
  · simp [Event.message] at hname
  · rw [h]
    exact hexec.depth_reported he hname
  · simp [Event.message] at hname
  · simp [Event.message] at hname
  · simp [Event.message] at hname

/-- Of the instruction that it reads, a running machine reports just this. -/
theorem filter_execute_step (hrun : m.status = .running)
    (hcursor : m.grid.Contains m.state.location) :
    (m.step.events.filter fun e => e.message = "execute") = m.execution?.toList := by
  have hall : (m.execution?.toList.filter fun e => e.message = "execute") = m.execution?.toList := by
    rw [List.filter_eq_self]
    intro e he
    obtain ⟨i, rfl⟩ := exists_of_mem_execution? he
    rfl
  rcases step_tells m with ⟨hdeed, -⟩ | ⟨i, t, -, -, -, hevents⟩ |
    ⟨fault, handler, -, -, -, hevents⟩ | ⟨fault, -, -, -, hevents⟩
  · cases hdeed.symm.trans (deed?_of_running hrun hcursor)
  · have hnone : ((i.reports m.state t).filter fun e => e.message = "execute") = [] := by
      rw [List.filter_eq_nil_iff]
      intro e he
      simpa using (i.reports_quiet m.state t e he).2.1
    rw [hevents, List.filter_append, List.filter_append, hall, hnone]
    split <;> simp [Event.message]
  · rw [hevents, List.filter_append, hall]
    simp [Event.message]
  · rw [hevents, List.filter_append, hall]
    simp [Event.message]

/-- A step speaks for the machine and its handlers only. -/
theorem target_step_ne_driver {e : Event} (he : e ∈ m.step.events) : e.target ≠ .driver := by
  rcases cases_of_mem_step he with ⟨i, rfl⟩ | ⟨i, t, -, -, he⟩ | ⟨location, steps, rfl⟩ |
    ⟨fault, code, source, destination, dest, rfl⟩ | ⟨fault, code, location, rfl⟩
  · exact Log.Target.noConfusion
  · rw [(i.reports_quiet m.state t e he).1]
    exact Log.Target.noConfusion
  · exact Log.Target.noConfusion
  · exact Log.Target.noConfusion
  · exact Log.Target.noConfusion

/-! ## What a run reports -/

/-- What the start of a run and a number of steps report, in order. -/
def log (m : Machine) (n : Nat) : List Event := m.runEvents ++ m.run.transcript n

/-- A log goes on with what the next step reports. -/
theorem log_succ (m : Machine) (n : Nat) :
    m.log (n + 1) = m.log n ++ (m.run.stepN n).step.events := by
  rw [log, transcript_succ, ← List.append_assoc]
  rfl

/-- The start of a run is two events, neither of them about a step. -/
theorem count_log (hname : name ≠ "interpreter reset" ∧ name ≠ "interpreter running") (n : Nat) :
    count name (m.log n) = count name (m.run.transcript n) := by
  rw [log, Event.count_append]
  simp [runEvents, resetEvents, count, Event.message, hname.1.symm, hname.2.symm]

/-- If one kind of event adds to a number in every step what another takes from it, then so they do in a
run. -/
theorem count_transcript {gain loss : String} {f : Machine → Nat}
    (hstep : ∀ m : Machine, count gain m.step.events + f m = count loss m.step.events + f m.step.machine)
    (m : Machine) (n : Nat) :
    count gain (m.transcript n) + f m = count loss (m.transcript n) + f (m.stepN n) := by
  induction n with
  | zero => rfl
  | succ n ih =>
    have hlast := hstep (m.stepN n)
    rw [transcript_succ, Event.count_append, Event.count_append, stepN_succ]
    omega

/-- Each call that is reported returns later, or is on the stack. -/
theorem count_call_log (m : Machine) (n : Nat) :
    count "call" (m.log n) = count "return" (m.log n) + (m.run.stepN n).state.callStack.depth := by
  have hrun := count_transcript (f := fun k => k.state.callStack.depth) count_call_step m.run n
  have hstart : m.run.state.callStack.depth = 0 := rfl
  rw [count_log (by decide), count_log (by decide)]
  omega

/-- Each handler that is reported recovers a fault later, or is pending. -/
theorem count_try_log (m : Machine) (n : Nat) :
    count "try-handler installed" (m.log n) =
      count "fault recovered" (m.log n) + (m.run.stepN n).state.pending := by
  have hrun := count_transcript (f := fun k => k.state.pending) count_try_step m.run n
  have hstart : m.run.state.pending = 0 := rfl
  rw [count_log (by decide), count_log (by decide)]
  omega

/-- The log lists the instructions that were read, each with its step and its place. -/
theorem filter_execute_log (m : Machine) (n : Nat) :
    ((m.log n).filter fun e => e.message = "execute") =
      (List.range (m.run.stepN n).steps).filterMap fun k =>
        (m.run.stepN k).read?.map fun i => .execute k (m.run.stepN k).state.location i := by
  induction n with
  | zero => rfl
  | succ n ih =>
    rw [log_succ, List.filter_append, ih]
    by_cases hrun : (m.run.stepN n).status = .running
    · have hcursor := (m.placed_run_stepN n).cursor
      have hsteps : (m.run.stepN n).steps = n :=
        steps_run_stepN fun t ht => running_of_le hrun ht.le
      have hsucc : (m.run.stepN (n + 1)).steps = n + 1 := by
        rw [stepN_succ, (step_of_running_cases hrun hcursor).1, hsteps]
      rw [filter_execute_step hrun hcursor, hsucc, hsteps, List.range_succ, List.filterMap_append,
        execution?, hsteps]
      cases hread : (m.run.stepN n).read? <;> simp [hread]
    · rw [stepN_succ, step_of_not_running hrun, List.filter_nil, List.append_nil]

/-! ## How a log ends -/

end Machine

/-- Whether an event tells of the end of a run. -/
def Event.Ends (e : Event) : Prop := e.message = "halted" ∨ e.message = "uncaught fault"

namespace Machine

variable {m : Machine}

/-- How the log of a machine ends. Nothing in it tells of an end unless the machine has stopped, and then
it is the last event that does. -/
inductive Concluded (m : Machine) (log : List Event) : Prop where
  | running (hstatus : m.status = .running) (hlog : ∀ e ∈ log, ¬ e.Ends)
  | halted (before : List Event) (location : Location) (hstatus : m.status = .halted)
      (hbefore : ∀ e ∈ before, ¬ e.Ends) (hlog : log = before ++ [.halted location m.steps])
  | faulted (before : List Event) (fault : Fault) (hstatus : m.status = .faulted fault.code)
      (hbefore : ∀ e ∈ before, ¬ e.Ends)
      (hlog : log = before ++ [.uncaught fault fault.code m.state.location])

/-- A step ends the log of a running machine if it stops the machine. -/
theorem concluded_step {log : List Event} (hrun : m.status = .running)
    (hcursor : m.grid.Contains m.state.location) (hlog : ∀ e ∈ log, ¬ e.Ends) :
    m.step.machine.Concluded (log ++ m.step.events) := by
  have hread : ∀ e ∈ log ++ m.execution?.toList, ¬ e.Ends := by
    rw [List.forall_mem_append]
    refine ⟨hlog, fun e he => ?_⟩
    obtain ⟨i, rfl⟩ := exists_of_mem_execution? he
    simp [Event.Ends, Event.message]
  rcases step_tells m with ⟨hdeed, -⟩ | ⟨i, t, -, -, h, hevents⟩ |
    ⟨fault, handler, -, -, h, hevents⟩ | ⟨fault, -, -, h, hevents⟩
  · cases hdeed.symm.trans (deed?_of_running hrun hcursor)
  · have hreports : ∀ e ∈ log ++ m.execution?.toList ++ i.reports m.state t, ¬ e.Ends := by
      rw [List.forall_mem_append]
      refine ⟨hread, fun e he hends => ?_⟩
      obtain ⟨-, -, hhalted, huncaught⟩ := i.reports_quiet m.state t e he
      exact hends.elim hhalted huncaught
    rw [h, hevents]
    by_cases hhalt : i.kind = .halt
    · rw [if_pos hhalt, ← List.append_assoc, ← List.append_assoc]
      exact .halted _ m.state.location (if_pos hhalt) hreports rfl
    · rw [if_neg hhalt, List.append_nil, ← List.append_assoc]
      exact .running (if_neg hhalt) hreports
  · rw [h, hevents, ← List.append_assoc]
    refine .running hrun ?_
    rw [List.forall_mem_append]
    exact ⟨hread, by simp [Event.Ends, Event.message]⟩
  · rw [h, hevents, ← List.append_assoc]
    exact .faulted _ fault rfl hread rfl

/-- The log of a run ends as the status of the machine says. -/
theorem concluded_log (m : Machine) (n : Nat) : (m.run.stepN n).Concluded (m.log n) := by
  induction n with
  | zero =>
    refine .running rfl ?_
    simp [log, transcript_zero, runEvents, resetEvents, Event.Ends, Event.message]
  | succ n ih =>
    rw [log_succ, stepN_succ]
    by_cases hrun : (m.run.stepN n).status = .running
    · have hlog : ∀ e ∈ m.log n, ¬ e.Ends := by
        cases ih with
        | running hstatus hlog => exact hlog
        | halted before location hstatus => cases hrun.symm.trans hstatus
        | faulted before fault hstatus => cases hrun.symm.trans hstatus
      exact concluded_step hrun (m.placed_run_stepN n).cursor hlog
    · rw [step_of_not_running hrun, List.append_nil]
      exact ih

namespace Concluded

variable {log : List Event}

/-- No event that ends a run is counted where there is none. -/
theorem count_ends (h : ∀ e ∈ log, ¬ e.Ends) :
    count "halted" log = 0 ∧ count "uncaught fault" log = 0 := by
  rw [Event.count_eq_zero_iff, Event.count_eq_zero_iff]
  exact ⟨fun e he hname => h e he (.inl hname), fun e he hname => h e he (.inr hname)⟩

/-- A halt is reported if the machine is halted, once and last, with its number of steps. -/
theorem of_halted (h : m.Concluded log) (hstatus : m.status = .halted) :
    count "halted" log = 1 ∧ ∃ location, log.getLast? = some (.halted location m.steps) := by
  cases h with
  | running hrun => cases hstatus.symm.trans hrun
  | halted before location _ hbefore hlog =>
    subst hlog
    refine ⟨?_, location, List.getLast?_concat⟩
    rw [Event.count_append, (count_ends hbefore).1]
    rfl
  | faulted before fault hfaulted => cases hstatus.symm.trans hfaulted

/-- An uncaught fault is reported if the machine is faulted, once and last, with its code and place. -/
theorem of_faulted {code : UInt8} (h : m.Concluded log) (hstatus : m.status = .faulted code) :
    count "uncaught fault" log = 1 ∧
      ∃ fault, log.getLast? = some (.uncaught fault code m.state.location) := by
  cases h with
  | running hrun => cases hstatus.symm.trans hrun
  | halted before location hhalted => cases hstatus.symm.trans hhalted
  | faulted before fault hfaulted hbefore hlog =>
    subst hlog
    cases hstatus.symm.trans hfaulted
    refine ⟨?_, fault, List.getLast?_concat⟩
    rw [Event.count_append, (count_ends hbefore).2]
    rfl

/-- Neither is reported otherwise. -/
theorem status_of_reported (h : m.Concluded log) :
    (0 < count "halted" log → m.status = .halted) ∧
      (0 < count "uncaught fault" log → ∃ code, m.status = .faulted code) := by
  cases h with
  | running hstatus hlog => simp [count_ends hlog]
  | halted before location hstatus hbefore hlog =>
    simp [hlog, count_ends hbefore, hstatus, Event.count_singleton, Event.message]
  | faulted before fault hstatus hbefore hlog =>
    simp [hlog, count_ends hbefore, hstatus, Event.count_singleton, Event.message]

end Concluded

/-! ## The log of a drive -/

/-- What a drive adds to the log at its end is what its last step reports, if this step fails, and what it says
itself. -/
theorem Ends.events {limit : Nat} {reported : Array Event} {d : Drive} (h : Ends limit m reported d) :
    ∃ k later, d.machine = m.stepN k ∧
      d.events.toList = reported.toList ++ (m.transcript k ++ later) ∧ ∀ e ∈ later, e.target = .driver := by
  cases h with
  | finished hrun =>
    exact ⟨0, [.finished m.steps], rfl, Array.toList_push, by simp [Event.target]⟩
  | spent hrun hspent => exact ⟨0, [], rfl, by simp [transcript_zero], by simp⟩
  | failed hrun hleft herror => exact ⟨1, [], rfl, by simp [transcript_cons, transcript_zero], by simp⟩

/-- Leaving out what the driver says, the log of a drive is that of the run. -/
theorem drive_events {limit : Nat} {d : Drive} (h : m.drive limit = some d) :
    ∃ k, d.machine = m.run.stepN k ∧
      (d.events.toList.filter fun e => e.target ≠ .driver) = m.log k := by
  have hdrain : drain limit m.run _ = some d := h
  rcases drain_cases limit m.run _ with ⟨hnone, -⟩ | ⟨j, d', hd', -, hends⟩
  · cases hnone.symm.trans hdrain
  obtain rfl : d' = d := Option.some.inj (hd'.symm.trans hdrain)
  obtain ⟨k, later, hmachine, hevents, hlater⟩ := hends.events
  have htranscript : ((m.run.transcript (j + k)).filter fun e => e.target ≠ .driver) =
      m.run.transcript (j + k) := by
    rw [List.filter_eq_self]
    intro e he
    obtain ⟨t, -, ht⟩ := List.mem_flatMap.1 he
    exact decide_eq_true (target_step_ne_driver ht)
  have hdriver : (later.filter fun e => e.target ≠ .driver) = [] := by
    rw [List.filter_eq_nil_iff]
    intro e he
    simp [hlater e he]
  refine ⟨j + k, by rw [hmachine, stepN_add], ?_⟩
  rw [hevents, Array.toList_appendList, List.append_assoc, ← List.append_assoc (m.run.transcript j),
    ← transcript_add]
  simp only [List.filter_append, htranscript, hdriver]
  simp [log, runEvents, resetEvents, Event.target]

/-- The log is a transcript of the run. It lists the instructions that were read, each with its step and its
place, and no others; a call and a return are reported with the depth of the stack after the step, and the
calls that outnumber the returns are the depth of the stack; of the handlers that were installed, all but a
pending one have taken a fault; and a halt or an uncaught fault is reported exactly if the machine is halted
or faulted, once and last, the one with the number of steps, the other with the code and the place of the
cursor. What a drive reports is this log, but for what the driver says itself. -/
theorem transcript_run (m : Machine) (n : Nat) :
    let s := m.run.stepN
    let log := m.log n
    ((log.filter fun e => e.message = "execute") = (List.range (s n).steps).filterMap fun k =>
      (s k).read?.map fun i => .execute k (s k).state.location i) ∧
    (∀ t < n, ∀ e ∈ (s t).step.events, e.message = "call" ∨ e.message = "return" →
      e.fields.lookup "depth" = some (toString (s (t + 1)).state.callStack.depth)) ∧
    count "call" log = count "return" log + (s n).state.callStack.depth ∧
    count "try-handler installed" log =
      count "fault recovered" log + (if (s n).state.tryHandler.isSome then 1 else 0) ∧
    (0 < count "halted" log ↔ (s n).status = .halted) ∧
    (0 < count "uncaught fault" log ↔ ∃ code, (s n).status = .faulted code) ∧
    ((s n).status = .halted →
      count "halted" log = 1 ∧ ∃ location, log.getLast? = some (.halted location (s n).steps)) ∧
    (∀ code, (s n).status = .faulted code → count "uncaught fault" log = 1 ∧
      ∃ fault, log.getLast? = some (.uncaught fault code (s n).state.location)) ∧
    ∀ limit d, m.drive limit = some d → ∃ k, d.machine = s k ∧
      (d.events.toList.filter fun e => e.target ≠ .driver) = m.log k := by
  intro s log
  have hconcluded : (s n).Concluded log := m.concluded_log n
  obtain ⟨hhalted, hfaulted⟩ := hconcluded.status_of_reported
  refine ⟨m.filter_execute_log n, ?_, m.count_call_log n, ?_, ⟨hhalted, ?_⟩, ⟨hfaulted, ?_⟩,
    hconcluded.of_halted, fun code => hconcluded.of_faulted, fun limit d => drive_events⟩
  · intro t ht e he hname
    rw [depth_step he hname, show s (t + 1) = (s t).step.machine from stepN_succ m.run t]
  · rw [← State.pending_eq]
    exact m.count_try_log n
  · intro hstatus
    rw [(hconcluded.of_halted hstatus).1]
    exact Nat.one_pos
  · rintro ⟨code, hstatus⟩
    rw [(hconcluded.of_faulted hstatus).1]
    exact Nat.one_pos

/-- A program that reads a code, calls itself, and reads another. -/
def reader : Grid := .paint 3 1 #[⟨3, 9, 5⟩, ⟨9, 0, 1⟩, ⟨10, 1, 5⟩] (by decide)

/-- On an input of one code, the call is reported at depth one and never answered, and the last event is the
fault of the second reading. -/
theorem transcript_run_reader :
    let m := new reader (.ofCodes [65])
    (∃ e ∈ (m.run.stepN 2).step.events, e.fields.lookup "depth" = some "1") ∧
      count "call" (m.log 4) = 1 + count "return" (m.log 4) ∧
      count "uncaught fault" (m.log 4) = 1 ∧
      ∃ fault, (m.log 4).getLast? = some (.uncaught fault 2 ⟨1, 0⟩) := by
  intro m
  have hstatus : (m.run.stepN 4).status = .faulted 2 := by decide +kernel
  have hcall : .called 5 ⟨0, 0⟩ 1 ∈ (m.run.stepN 2).step.events := by decide +kernel
  have hdepth : (m.run.stepN 4).state.callStack.depth = 1 := by decide +kernel
  have hplace : (m.run.stepN 4).state.location = ⟨1, 0⟩ := by decide +kernel
  obtain ⟨-, hreported, hcalls, -, -, -, -, hfaulted, -⟩ := transcript_run m 4
  rw [hdepth, Nat.add_comm] at hcalls
  have hlast := hfaulted 2 hstatus
  rw [hplace] at hlast
  have hdepth₁ : (m.run.stepN 3).state.callStack.depth = 1 := by decide +kernel
  have hlookup := hreported 2 (by decide) _ hcall (.inl rfl)
  rw [hdepth₁] at hlookup
  exact ⟨⟨_, hcall, hlookup⟩, hcalls, hlast⟩

end Machine

end PixelMachine
