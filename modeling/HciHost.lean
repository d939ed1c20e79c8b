import HciHost.Text
import HciHost.JsonText
import HciHost.Bytes
import HciHost.Packet
import HciHost.Opcode
import HciHost.Event.Basic
import HciHost.Event.Reply
import HciHost.Io
import HciHost.Error
import HciHost.Log
import HciHost.Socket.Kernel
import HciHost.Command.Flags
import HciHost.Command.Basic
import HciHost.Command.Describe
import HciHost.Event.Routes
import HciHost.Demux
import HciHost.Command.Registry
import HciHost.BringUp
import HciHost.Controller
import HciHost.Link
import HciHost.Host.Basic
import HciHost.Host.Dispatch
import HciHost.Host.Replies
import HciHost.Host.Reader
import HciHost.Host.Commands
import HciHost.Host.Transport
import HciHost.Host.Threads
import HciHost.Socket.Open
import HciHost.Bench.Refusal
import HciHost.Bench.Demux
import HciHost.Bench.Registry
import HciHost.Bench.Commander
import HciHost.Bench.Transport
import HciHost.Bench.Socket
import HciHost.Proofs.Routing
import HciHost.Proofs.BringUpTrace
import HciHost.Proofs.Footprint
import HciHost.Proofs.ReadLoop
import HciHost.Proofs.ResponsePath
import HciHost.Proofs.RegistryLaws
import HciHost.Proofs.RegistryRuns
import HciHost.Proofs.CommandPackets
import HciHost.Proofs.EventRouting
import HciHost.Proofs.Deliveries
import HciHost.Proofs.SendOutcome
import HciHost.Proofs.LiveBringUp
import HciHost.Host.Senders
import HciHost.Proofs.Cancellation
import HciHost.Host.Stopping
import HciHost.Proofs.Shutdown
import HciHost.Proofs.SocketOpening
import HciHost.Host.Startup
import HciHost.Proofs.StartOnce
