import Aggregation.Input.Component
import Aggregation.Input.Report
import Aggregation.Input.Settings
import Aggregation.Disk.Account
import Aggregation.Main
import Aggregation.Template.Custom
import Aggregation.Proofs.Disk.Repetition
import Aggregation.Proofs.Disk.Extension
import Aggregation.Proofs.Disk.Requests
import Aggregation.Proofs.Disk.LongNames
import Aggregation.Proofs.Disk.Sparing
import Aggregation.Proofs.Disk.Saving
import Aggregation.Proofs.Emission.Alias
import Aggregation.Proofs.Emission.Modules
import Aggregation.Proofs.Emission.Declarations
import Aggregation.Proofs.Scan.Trails
import Aggregation.Proofs.Scan.Agreement
import Aggregation.Proofs.Scan.Termination
import Aggregation.Proofs.Scan.Unbound
import Aggregation.Proofs.Scan.Reordering
import Aggregation.Proofs.Emission.Placement
import Aggregation.Proofs.Run.Site
import Aggregation.Proofs.Run.Process
import Aggregation.Proofs.Run.Batch
import Aggregation.Proofs.Run.Scanned
import Aggregation.Proofs.Run.Frame
import Aggregation.Proofs.Run.Contents
import Aggregation.Proofs.Run.Rerun
import Aggregation.Proofs.Run.Steps
import Aggregation.Proofs.Run.Locality
import Aggregation.Proofs.Run.Interleaving
import Aggregation.Proofs.Run.Turns
import Aggregation.Proofs.Run.FailFast
import Aggregation.Proofs.Run.Moves
import Aggregation.Proofs.Run.EntryPoints
import Aggregation.Proofs.Run.Extension
import Aggregation.Proofs.Run.Sparing
import Aggregation.Proofs.Run.Unbound
import Aggregation.Proofs.Run.Escapes
import Aggregation.Proofs.Run.Reported
import Aggregation.Proofs.Run.Trace
import Aggregation.Proofs.Naming.Algebra
import Aggregation.Proofs.Naming.Conventional
import Aggregation.Proofs.Scan.Spellings
import Aggregation.Proofs.Run.Rendering
import Aggregation.Proofs.Emission.Readback
import Aggregation.Proofs.Duration
import Aggregation.Proofs.Console.Literal
