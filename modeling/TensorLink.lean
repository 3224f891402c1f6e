import TensorLink.Accelerator.Connection
import TensorLink.Accelerator.Registry
import TensorLink.Accelerator.Residency
import TensorLink.Accelerator.Sharing
import TensorLink.BringUp
import TensorLink.Bytes
import TensorLink.Command.Demo
import TensorLink.Command.Inspect
import TensorLink.Command.Line
import TensorLink.Command.Report
import TensorLink.Command.Run
import TensorLink.Config
import TensorLink.Error
import TensorLink.FileSource
import TensorLink.Inference.DataStream
import TensorLink.Inference.Session
import TensorLink.Main
import TensorLink.Model.Bias
import TensorLink.Model.DataType
import TensorLink.Model.Error
import TensorLink.Model.Executable
import TensorLink.Model.Hint
import TensorLink.Model.Layer
import TensorLink.Model.OutputBuffer
import TensorLink.Model.Package
import TensorLink.Part
import TensorLink.Register.Access
import TensorLink.Register.Chip
import TensorLink.Register.Field
import TensorLink.Register.Layout
import TensorLink.Register.Performance
import TensorLink.Register.RunControl
import TensorLink.Simulation.Beagle
import TensorLink.Simulation.Controller
import TensorLink.Simulation.Delayed
import TensorLink.Simulation.Device
import TensorLink.Simulation.Directory
import TensorLink.Simulation.Download
import TensorLink.Simulation.RegisterFile
import TensorLink.Simulation.ReplyStream
import TensorLink.Simulation.Scripted
import TensorLink.Table.Tree
import TensorLink.Table.View
import TensorLink.Task.Attach
import TensorLink.Task.Download
import TensorLink.Task.Host
import TensorLink.Task.Power
import TensorLink.Text.Blank
import TensorLink.Text.Fixed
import TensorLink.Text.Hex
import TensorLink.Text.Natural
import TensorLink.Text.Utf8
import TensorLink.Transport.Basic
import TensorLink.Transport.Completion
import TensorLink.Transport.Device
import TensorLink.Transport.Link
import TensorLink.Transport.PipeSet
import TensorLink.Usb.Interface
import TensorLink.Usb.Setup
import TensorLink.Wire
import TensorLink.Proofs.Sequencing
import TensorLink.Proofs.Relayout.Gather
import TensorLink.Proofs.Relayout.Addresses
import TensorLink.Proofs.Recording
import TensorLink.Proofs.Relayout.Tensor
import TensorLink.Proofs.Inference.Atomicity
import TensorLink.Proofs.Download.Play
import TensorLink.Proofs.Download.Calls
import TensorLink.Proofs.Download.Verification
import TensorLink.Proofs.Accelerator.History
import TensorLink.Proofs.Accelerator.Reopening
import TensorLink.Proofs.Octets
import TensorLink.Proofs.Table.Fields
import TensorLink.Proofs.Table.Reading
import TensorLink.Proofs.Model.RoundTrip
import TensorLink.Proofs.Inference.Bias
import TensorLink.Proofs.Download.Steps
import TensorLink.Proofs.Download.Loader
import TensorLink.Proofs.Download.Session
import TensorLink.Proofs.Download.Delivery
import TensorLink.Proofs.Download.Reattach
import TensorLink.Proofs.Inference.Calls
import TensorLink.Proofs.Accelerator.Registered
import TensorLink.Proofs.Accelerator.Freshness
import TensorLink.Proofs.Transport.Interleaving
import TensorLink.Proofs.Attach.Turns
import TensorLink.Proofs.Attach.Sessions
import TensorLink.Proofs.Register.Puts
import TensorLink.Proofs.Transport.RegisterChannel
import TensorLink.Proofs.BringUp.Settled
import TensorLink.Proofs.BringUp.Steps
import TensorLink.Proofs.BringUp.Restart
import TensorLink.Proofs.Table.Extension
import TensorLink.Proofs.Model.Extension
import TensorLink.Proofs.ClassDrivers
import TensorLink.Proofs.Attach.Custody
import TensorLink.Proofs.Download.Custody
import TensorLink.Proofs.Download.Readback
import TensorLink.Proofs.Table.Paths
import TensorLink.Proofs.Model.Reencoding
import TensorLink.Proofs.Inference.Independence
import TensorLink.Proofs.Model.PackageRoundTrip
import TensorLink.Proofs.Inference.HintProgram
import TensorLink.Proofs.BringUp.AccessProgram
import TensorLink.Proofs.BringUp.AccessTrace
import TensorLink.Proofs.BringUp.AccessOrder
import TensorLink.Proofs.BringUp.Awake
import TensorLink.Proofs.Transport.Streaming
import TensorLink.Proofs.Transport.ShortTransfers
import TensorLink.Proofs.Transport.Traffic
import TensorLink.Proofs.Transport.Timeliness
import TensorLink.Proofs.Transport.Overtaking
import TensorLink.Proofs.Transport.Exclusion
import TensorLink.Proofs.Attach.Presence
import TensorLink.Proofs.Accelerator.Mirror
import TensorLink.Proofs.Accelerator.Scenes
import TensorLink.Proofs.Accelerator.PowerBalance
import TensorLink.Proofs.Accelerator.Numbering
import TensorLink.Proofs.Accelerator.Provenance
import TensorLink.Proofs.Relayout.Coverage
import TensorLink.Proofs.Transport.RegisterMemory
import TensorLink.Proofs.Model.Sizes
import TensorLink.Proofs.Download.Runs
import TensorLink.Proofs.Download.Ending
import TensorLink.Proofs.Attach.Ending
import TensorLink.Proofs.Relayout.Padding
import TensorLink.Proofs.Relayout.Runs
import TensorLink.Proofs.Inference.Staging
import TensorLink.Proofs.Inference.Cutting
import TensorLink.Proofs.Attach.Endpoints
import TensorLink.Proofs.Accelerator.Slots
import TensorLink.Proofs.Attach.PowerEdges
import TensorLink.Proofs.Download.Releases
import TensorLink.Proofs.Register.Views
import TensorLink.Proofs.BringUp.FieldChanges
import TensorLink.Proofs.Inference.HalfRange
import TensorLink.Proofs.Transport.Framing
import TensorLink.Proofs.Transport.Records
import TensorLink.Proofs.Table.Alignment
