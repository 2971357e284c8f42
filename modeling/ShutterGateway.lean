import ShutterGateway.Command.Text
import ShutterGateway.Main
import ShutterGateway.Proofs.Command.Batch
import ShutterGateway.Proofs.Command.Bounds
import ShutterGateway.Proofs.Command.Correlation
import ShutterGateway.Proofs.Command.Listing
import ShutterGateway.Proofs.Command.Operations
import ShutterGateway.Proofs.Command.Progress
import ShutterGateway.Proofs.CommandLine.Outcome
import ShutterGateway.Proofs.Config.Validity
import ShutterGateway.Proofs.Frame.Corruption
import ShutterGateway.Proofs.Frame.RoundTrip
import ShutterGateway.Proofs.Node.Description
import ShutterGateway.Proofs.Node.Rename
import ShutterGateway.Proofs.Processor.Currency
import ShutterGateway.Proofs.Processor.Deadline
import ShutterGateway.Proofs.Processor.Finished
import ShutterGateway.Proofs.Processor.Handshake
import ShutterGateway.Proofs.Processor.Indifference
import ShutterGateway.Proofs.Processor.LinkCheck
import ShutterGateway.Proofs.Processor.Notices
import ShutterGateway.Proofs.Processor.Numbering
import ShutterGateway.Proofs.Processor.Offline
import ShutterGateway.Proofs.Processor.Pace
import ShutterGateway.Proofs.Processor.Reconnection
import ShutterGateway.Proofs.Processor.Retry
import ShutterGateway.Proofs.Processor.Routing
import ShutterGateway.Proofs.Processor.Secrecy
import ShutterGateway.Proofs.Processor.Shutdown
import ShutterGateway.Proofs.Processor.Wire
import ShutterGateway.Rehearsal.CommandLine
import ShutterGateway.Rehearsal.Play
