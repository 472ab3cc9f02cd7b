import GridRobot.Main
import GridRobot.FileSystem.Tree
import GridRobot.Proofs.Quadrant
import GridRobot.Proofs.Expansion
import GridRobot.Proofs.FuelAccounting
import GridRobot.Proofs.Reflection
import GridRobot.Proofs.Reporting
import GridRobot.Proofs.Wire.RoundTrip
import GridRobot.Proofs.Splitting
import GridRobot.Proofs.Trace
import GridRobot.Proofs.Text.Trimming
import GridRobot.Proofs.Script.Lines
import GridRobot.Proofs.Script.Pieces
import GridRobot.Proofs.Script.Rendering
import GridRobot.Proofs.Script.Resuming
import GridRobot.Proofs.Script.Joining
import GridRobot.Proofs.Locality
import GridRobot.Proofs.Narrowing
import GridRobot.Proofs.CommandLine.Failing
import GridRobot.Proofs.Json.Framing
import GridRobot.Proofs.Wire.InRange
import GridRobot.Proofs.CommandLine.ReadingBack
import GridRobot.Proofs.Partition
import GridRobot.Proofs.Influence
import GridRobot.Proofs.EntryPoints
import GridRobot.Proofs.CommandLine.Gates
import GridRobot.Proofs.Undoing
import GridRobot.Proofs.Saturation
import GridRobot.Proofs.Rotation
import GridRobot.Proofs.TravelBudget
import GridRobot.Proofs.Naming
import GridRobot.Proofs.Replaying
import GridRobot.Proofs.Json.Packing
import GridRobot.Proofs.Wire.Spelling
import GridRobot.Proofs.Wire.IntegerFields
import GridRobot.Proofs.Config.Overlay
import GridRobot.Proofs.Heading
import GridRobot.Proofs.Logging
import GridRobot.Proofs.Fault.Additions
import GridRobot.Proofs.Fault.Chains
import GridRobot.Proofs.CommandLine.FileFaults
import GridRobot.Proofs.CommandLine.SummaryLines
import GridRobot.Proofs.Displaying
import GridRobot.Proofs.Pending
import GridRobot.Proofs.Canonical
