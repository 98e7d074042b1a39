import PixelMachine.Machine

/-!
# Bounded runs

Driving a machine starts it and steps it until the program stops by itself, until a step fails, or
until a limit on the number of steps is reached. The limit is looked at before each step, and a
program that stops with exactly the last step allowed has stopped. A program that never stops is driven
for good if there is no limit, so there is nothing that the drive comes to.
-/

set_option autoImplicit false

namespace PixelMachine

/-- What is known of a program that stopped by itself. -/
structure Report where
  /-- The number of steps, the one that stopped it included. -/
  steps : Nat
  /-- What it printed. -/
  output : String
  deriving DecidableEq

/-- Why a driven program did not stop by itself. -/
inductive DriveError where
  /-- A step failed. -/
  | step (error : StepError)
  /-- The program was still running after as many steps as were allowed. -/
  | stepLimit (limit : Nat)
  deriving DecidableEq

namespace DriveError

/-- What is reported of a program that did not stop by itself. -/
def message : DriveError → String
  | step error => error.message
  | stepLimit limit => s!"step limit of {limit} reached without halting"

end DriveError

/-- What driving a machine comes to. -/
structure Drive where
  /-- The machine at the end. -/
  machine : Machine
  /-- What there is to report, in order. -/
  events : Array Event
  /-- The report of a program that stopped by itself, or why it did not. -/
  result : Except DriveError Report

namespace Machine

/-- A machine that stopped by itself, or was not running at all. -/
def finish (m : Machine) (events : Array Event) : Drive :=
  ⟨m, events.push (.finished m.steps), .ok ⟨m.steps, m.state.output.text⟩⟩

/-- Whether a machine has made as many steps as a limit allows. Zero is no limit. -/
def isSpent (m : Machine) (limit : Nat) : Bool := limit ≠ 0 ∧ limit ≤ m.steps

/-- Steps a machine until it stops, a step fails or the limit is reached. `events` is what was reported before.
Without a limit this need not come to an end, and then there is no drive. -/
def drain (limit : Nat) (m : Machine) (events : Array Event) : Option Drive :=
  if m.isRunning then
    if m.isSpent limit then some ⟨m, events, .error (.stepLimit limit)⟩
    else
      let t := m.step
      match t.result with
      | .ok () => t.machine |>.drain limit (events ++ t.events)
      | .error error => some ⟨t.machine, events ++ t.events, .error (.step error)⟩
  else some (m.finish events)
partial_fixpoint

/-- Runs a machine from the start, for at most `limit` steps, or without a limit if it is zero. -/
def drive (m : Machine) (limit : Nat) : Option Drive :=
  drain limit m.run (m.runEvents ++ [Event.started limit m.grid.width m.grid.height]).toArray

end Machine

end PixelMachine
