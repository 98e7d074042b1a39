import PixelMachine.Manifest.Basic

/-!
# Test rigs

A rig runs whole programs for tests. It is built from a manifest or from pixels, and whatever goes wrong
makes it abort with a report in full detail. It stays usable after an abort.
-/

set_option autoImplicit false

namespace PixelMachine

/-- A machine on a test rig. -/
structure Rig where
  /-- The machine. -/
  machine : Machine
  deriving DecidableEq

namespace Rig

/-- Why a rig aborts. -/
inductive Abort where
  /-- A manifest was not loaded. -/
  | load (error : ManifestError)
  /-- A manifest does not make up a grid. -/
  | paint (error : ManifestError)
  /-- Rows do not make up a grid. -/
  | rows (error : GridError)
  /-- A buffer does not make up a grid. -/
  | rgba (error : GridError)
  /-- A step failed. -/
  | step (error : StepError)
  /-- A program did not stop by itself. -/
  | drive (error : DriveError)
  deriving DecidableEq

/-- What is reported of an abort. -/
def Abort.message : Abort → String
  | load error => "Manifest failed to load: " ++ error.message
  | paint error => "manifest grid is invalid: " ++ error.detail
  | rows error => "invalid grid rows: " ++ error.detail
  | rgba error => "invalid RGBA image: " ++ error.detail
  | step error => "Step failed: " ++ error.detail
  | drive error => "Program did not halt: " ++ error.message

/-- A rig for a manifest in YAML. -/
def ofYaml (read : Manifest.Reader) (text : String) : Except Abort Rig :=
  match Manifest.ofYaml read text with
  | .error e => .error (.load e)
  | .ok m =>
    match m.machine none with
    | .error e => .error (.paint e)
    | .ok machine => .ok ⟨machine⟩

/-- A rig for rows of pixels. -/
def ofRows (rows : List (List Pixel)) (input : String) : Except Abort Rig :=
  match Grid.ofRows rows with
  | .error e => .error (.rows e)
  | .ok g => .ok ⟨.new g (.ofText input)⟩

/-- A rig for a buffer of four bytes for each pixel. -/
def ofRgba (width height : Nat) (bytes : List UInt8) (input : String) : Except Abort Rig :=
  match Grid.ofRgba width height bytes with
  | .error e => .error (.rgba e)
  | .ok g => .ok ⟨.new g (.ofText input)⟩

/-- Starts the program, also after it was started. -/
def start (r : Rig) : Rig := ⟨r.machine.run⟩

/-- Carries out one instruction. -/
def step (r : Rig) : Rig × Except Abort Unit :=
  let t := r.machine.step
  (⟨t.machine⟩, t.result.mapError .step)

/-- Carries out some instructions, up to the first that fails. -/
def runSteps (r : Rig) : Nat → Rig × Except Abort Unit
  | 0 => (r, .ok ())
  | n + 1 =>
    match r.step with
    | (r, .ok ()) => r.runSteps n
    | aborted => aborted

/-- Runs the program from the start for at most `limit` steps, or without a limit if it is zero. -/
def tryRun (r : Rig) (limit : Nat) : Option (Rig × Except DriveError Report) :=
  (r.machine.drive limit).map fun d => (⟨d.machine⟩, d.result)

/-- The number of steps within which a program has to stop by itself. -/
def defaultLimit : Nat := 100000

/-- Runs the program from the start until it stops by itself. -/
def runToHalt (r : Rig) : Option (Rig × Except Abort Report) :=
  (r.tryRun defaultLimit).map fun (r, result) => (r, result.mapError .drive)

end Rig

end PixelMachine
