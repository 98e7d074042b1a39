import PixelMachine.Main
import PixelMachine.Manifest.Document
import PixelMachine.Rig
import PixelMachine.Json.Reader
import PixelMachine.Proofs.Execution
import PixelMachine.Proofs.Step
import PixelMachine.Proofs.Failure
import PixelMachine.Proofs.History
import PixelMachine.Proofs.CallReturn
import PixelMachine.Proofs.Bindings
import PixelMachine.Proofs.Lifecycle
import PixelMachine.Proofs.Driving
import PixelMachine.Proofs.Influence
import PixelMachine.Proofs.StraightLine
import PixelMachine.Proofs.InputOutput
import PixelMachine.Proofs.Covering
import PixelMachine.Proofs.Torus
import PixelMachine.Proofs.Success
import PixelMachine.Proofs.Tiling
import PixelMachine.Proofs.Growth
import PixelMachine.Proofs.Diagnostics
import PixelMachine.Proofs.Transcript
import PixelMachine.Proofs.Documents
import PixelMachine.Proofs.Construction
import PixelMachine.Proofs.Spelling
import PixelMachine.Proofs.Painting
import PixelMachine.Proofs.Translation
import PixelMachine.Proofs.Travel
import PixelMachine.Proofs.Snapshots
import PixelMachine.Proofs.Accumulation
import PixelMachine.Proofs.DocumentText
import PixelMachine.Proofs.SnapshotText
