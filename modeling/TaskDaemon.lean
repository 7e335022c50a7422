import TaskDaemon.Daemon.Hosted
import TaskDaemon.Machine
import TaskDaemon.Main
import TaskDaemon.Proofs.Store.Order
import TaskDaemon.Proofs.Store.Rows
import TaskDaemon.Proofs.Store.Run
import TaskDaemon.Proofs.Store.Ledger
import TaskDaemon.Proofs.Store.Identity
import TaskDaemon.Proofs.Text.Utf8
import TaskDaemon.Proofs.Rpc.Hearing
import TaskDaemon.Proofs.Json.OneLine
import TaskDaemon.Proofs.Rpc.Exchange
import TaskDaemon.Proofs.Rpc.Overlong
import TaskDaemon.Proofs.Daemon.Link
import TaskDaemon.Proofs.Rpc.Verdict
import TaskDaemon.Proofs.Attempt
import TaskDaemon.Proofs.Daemon.Stop
import TaskDaemon.Proofs.Json.Canonical
import TaskDaemon.Proofs.Json.Shape
import TaskDaemon.Proofs.Json.Skip
import TaskDaemon.Proofs.Rpc.Remote
import TaskDaemon.Proofs.Rest.Parity
import TaskDaemon.Proofs.Daemon.Life
import TaskDaemon.Proofs.Daemon.Launch
import TaskDaemon.Proofs.Rpc.Peers
import TaskDaemon.Proofs.Daemon.Clearing
import TaskDaemon.Proofs.Daemon.Neighbours
import TaskDaemon.Proofs.Daemon.Meeting
import TaskDaemon.Proofs.Rest.Failures
import TaskDaemon.Proofs.Command.Printing
import TaskDaemon.Proofs.Command.ReadBack
import TaskDaemon.Proofs.Task.Masked
import TaskDaemon.Proofs.Store.Commuting
import TaskDaemon.Proofs.Store.Times
import TaskDaemon.Proofs.Daemon.Sockets
import TaskDaemon.Proofs.Rest.Deadline
import TaskDaemon.Proofs.Rpc.Echo
import TaskDaemon.Proofs.Json.Front
import TaskDaemon.Proofs.Rest.Misread
import TaskDaemon.Proofs.Error.Alike
import TaskDaemon.Proofs.Rest.Discretion
import TaskDaemon.Proofs.Error.Cause
import TaskDaemon.Proofs.Rpc.Relayed
import TaskDaemon.Proofs.Rpc.Lossless
import TaskDaemon.Proofs.Daemon.Settings
import TaskDaemon.Proofs.Daemon.Clones
