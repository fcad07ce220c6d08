import FileServer.Buffer
import FileServer.Cache.Basic
import FileServer.Cache.Recency
import FileServer.Client
import FileServer.CommandLine
import FileServer.Config
import FileServer.Connection.Basic
import FileServer.Connection.Drive
import FileServer.Connection.Outgoing
import FileServer.Connection.Traffic
import FileServer.Content
import FileServer.Counters
import FileServer.Disk.Crew
import FileServer.Disk.Worker
import FileServer.Error
import FileServer.Http.MediaType
import FileServer.Http.Reader
import FileServer.Http.Response
import FileServer.Http.Status
import FileServer.Hub
import FileServer.Intake.Ring
import FileServer.Intake.Scanner
import FileServer.Key
import FileServer.LoadQueue
import FileServer.Log.Basic
import FileServer.Log.Filter
import FileServer.Log.Pattern.Basic
import FileServer.Log.Pattern.Class
import FileServer.Log.Pattern.Escape
import FileServer.Log.Pattern.Switches
import FileServer.Log.Rule
import FileServer.Main
import FileServer.Net.Address
import FileServer.Net.Host
import FileServer.Net.Network
import FileServer.Notifier
import FileServer.Options
import FileServer.Poller
import FileServer.Proofs.Cache.Chain
import FileServer.Proofs.Cache.Inclusion
import FileServer.Proofs.Cache.Integrity
import FileServer.Proofs.Cache.Loading
import FileServer.Proofs.Cache.Recency
import FileServer.Proofs.Cache.Refinement
import FileServer.Proofs.Cache.Strict
import FileServer.Proofs.Connection.Books
import FileServer.Proofs.Connection.Bounds
import FileServer.Proofs.Connection.Calls
import FileServer.Proofs.Connection.Contract
import FileServer.Proofs.Connection.Corking
import FileServer.Proofs.Connection.Course
import FileServer.Proofs.Connection.Ending
import FileServer.Proofs.Connection.Moves
import FileServer.Proofs.Connection.Replies
import FileServer.Proofs.Connection.Resting
import FileServer.Proofs.Connection.Serving
import FileServer.Proofs.Connection.Spurious
import FileServer.Proofs.Connection.Stream
import FileServer.Proofs.Connection.Tickets
import FileServer.Proofs.Connection.Transparency
import FileServer.Proofs.Disk.Batch
import FileServer.Proofs.Disk.Sequence
import FileServer.Proofs.Disk.Shutdown
import FileServer.Proofs.Http.Reader
import FileServer.Proofs.Intake.Lines
import FileServer.Proofs.Intake.Queue
import FileServer.Proofs.Intake.Ring
import FileServer.Proofs.Intake.Scanner
import FileServer.Proofs.Key
import FileServer.Proofs.Key.Canonical
import FileServer.Proofs.Key.Grammar
import FileServer.Proofs.Loads
import FileServer.Proofs.Network
import FileServer.Proofs.Poller
import FileServer.Proofs.Reactor.Arming
import FileServer.Proofs.Reactor.Conditions
import FileServer.Proofs.Reactor.Conservation
import FileServer.Proofs.Reactor.Events
import FileServer.Proofs.Reactor.History
import FileServer.Proofs.Reactor.Keys
import FileServer.Proofs.Reactor.Ledger
import FileServer.Proofs.Reactor.Owners
import FileServer.Proofs.Reactor.Ownership
import FileServer.Proofs.Reactor.Past
import FileServer.Proofs.Reactor.Progress
import FileServer.Proofs.Reactor.Requeue
import FileServer.Proofs.Reactor.Rounds
import FileServer.Proofs.Reactor.Routing
import FileServer.Proofs.Reactor.Stopping
import FileServer.Proofs.Reactor.Strokes
import FileServer.Proofs.Reactor.Wakeups
import FileServer.Proofs.Slab
import FileServer.Proofs.Wire
import FileServer.Reactor.Basic
import FileServer.Reactor.Threads
import FileServer.Server
import FileServer.Site.Basic
import FileServer.Site.Change
import FileServer.Slab
import FileServer.SystemError
import FileServer.Text.Blank
import FileServer.Text.Cut
import FileServer.Text.Decimal
import FileServer.Text.Hexadecimal
import FileServer.Text.Letter
import FileServer.Text.Utf8
import FileServer.Wire
