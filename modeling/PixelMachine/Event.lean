import PixelMachine.Instruction
import PixelMachine.Location
import PixelMachine.Log.Record

/-!
# Events

What a machine and its driver report while a program runs. The events of a run, in order, are its
transcript; `Event.record` is the log entry of each.
-/

set_option autoImplicit false

namespace PixelMachine

/-- Something worth reporting that happened in a run. -/
inductive Event where
  /-- An instruction was decoded and is about to be executed. -/
  | execute (step : Nat) (location : Location) (instruction : Instruction)
  /-- A function was bound. -/
  | functionBound (id param : UInt8) (location : Location)
  /-- A try-handler was installed while none was pending. -/
  | tryInstalled (location : Location) (dest : UInt8)
  /-- A try-handler took the place of a pending one. -/
  | tryReplaced (location : Location)
  /-- A call was made; the depth counts it. -/
  | called (id : UInt8) (target : Location) (depth : Nat)
  /-- A call ended; the depth counts the calls that are left. -/
  | returned (target : Location) (depth : Nat)
  /-- The pending try-handler took a fault. -/
  | recovered (fault : Fault) (code : UInt8) (source destination : Location) (dest : UInt8)
  /-- No try-handler was pending for a fault. -/
  | uncaught (fault : Fault) (code : UInt8) (location : Location)
  /-- The program stopped by itself. -/
  | halted (location : Location) (steps : Nat)
  /-- The machine was set back to its start. -/
  | reset (width height : Nat)
  /-- The machine began to run. -/
  | running
  /-- The driver took up a program. -/
  | started (maxSteps width height : Nat)
  /-- The driver saw the program stop by itself. -/
  | finished (steps : Nat)
  deriving DecidableEq

namespace Event

/-- A byte as a detail of a log record. -/
def byteText (b : UInt8) : String := toString b.toNat

/-- How important an event is. -/
def level : Event → Log.Level
  | execute _ _ _ => .trace
  | uncaught _ _ _ => .warn
  | finished _ => .info
  | _ => .debug

/-- Where an event comes from. -/
def target : Event → Log.Target
  | functionBound _ _ _ | tryInstalled _ _ | tryReplaced _ | called _ _ _ | returned _ _ => .handlers
  | started _ _ _ | finished _ => .driver
  | _ => .machine

/-- What an event is called. -/
def message : Event → String
  | execute _ _ _ => "execute"
  | functionBound _ _ _ => "function bound"
  | tryInstalled _ _ => "try-handler installed"
  | tryReplaced _ => "pending try-handler replaced"
  | called _ _ _ => "call"
  | returned _ _ => "return"
  | recovered _ _ _ _ _ => "fault recovered"
  | uncaught _ _ _ => "uncaught fault"
  | halted _ _ => "halted"
  | reset _ _ => "interpreter reset"
  | running => "interpreter running"
  | started _ _ _ => "starting program"
  | finished _ => "program halted"

/-- The details of an event, by name. -/
def fields : Event → List (String × String)
  | execute step location instruction =>
    [("step", toString step), ("location", location.text), ("instruction", instruction.text)]
  | functionBound id param location =>
    [("id", byteText id), ("param", byteText param), ("location", location.text)]
  | tryInstalled location dest => [("location", location.text), ("dest", byteText dest)]
  | tryReplaced location => [("location", location.text)]
  | called id target depth =>
    [("id", byteText id), ("to", target.text), ("depth", toString depth)]
  | returned target depth => [("to", target.text), ("depth", toString depth)]
  | recovered fault code source destination dest =>
    [("fault", fault.message), ("code", byteText code), ("from", source.text),
      ("to", destination.text), ("dest", byteText dest)]
  | uncaught fault code location =>
    [("fault", fault.message), ("code", byteText code), ("location", location.text)]
  | halted location steps => [("location", location.text), ("steps", toString steps)]
  | reset width height => [("width", toString width), ("height", toString height)]
  | running => []
  | started maxSteps width height =>
    [("max_steps", toString maxSteps), ("width", toString width), ("height", toString height)]
  | finished steps => [("steps", toString steps)]

/-- The names of the details of an event. -/
def details : Event → List String
  | execute _ _ _ => ["step", "location", "instruction"]
  | functionBound _ _ _ => ["id", "param", "location"]
  | tryInstalled _ _ => ["location", "dest"]
  | tryReplaced _ => ["location"]
  | called _ _ _ => ["id", "to", "depth"]
  | returned _ _ => ["to", "depth"]
  | recovered _ _ _ _ _ => ["fault", "code", "from", "to", "dest"]
  | uncaught _ _ _ => ["fault", "code", "location"]
  | halted _ _ => ["location", "steps"]
  | reset _ _ => ["width", "height"]
  | running => []
  | started _ _ _ => ["max_steps", "width", "height"]
  | finished _ => ["steps"]

/-- The log entry of an event. -/
def record (e : Event) : Log.Record := ⟨e.level, e.target, e.message, e.fields⟩

/-- What decides whether an event is shown in the log. -/
def heading (e : Event) : Log.Heading := ⟨e.level, e.target, e.details⟩

end Event

end PixelMachine
