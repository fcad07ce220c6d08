import Std.Async.TCP
import Std.Async.DNS
import Std.Async.Signal
import Std.Sync.Channel
import FileServer.Server
import FileServer.Client

/-!
# Programs

The outer layer of the server and of the test client: sockets, files, signals, the environment and
standard error. Nothing is decided here. What happens outside is told to the pure `Server`, one
thing at a time and on one thread; afterwards its loads are handed to the worker threads and what it
has written goes out to the sockets.

The system takes whatever a connection writes and keeps it until it can be sent, so a connection
never waits for room here, and corking has nothing to hold back.
-/

namespace FileServer.Outer

open Std.Async

/-- The system's end of a connection. -/
abbrev Stream := TCP.Socket.Client

/-! ## Addresses and files -/

/-- An endpoint in the system's form. -/
def socketAddress (endpoint : Net.Endpoint) : Std.Net.SocketAddress :=
  match endpoint.address with
  | .v4 a b c d => .v4 ⟨⟨#v[a, b, c, d]⟩, endpoint.port⟩
  | .v6 groups => .v6 ⟨⟨groups⟩, endpoint.port⟩

/-- An endpoint of the system. -/
def endpointOf : Std.Net.SocketAddress → Net.Endpoint
  | .v4 ⟨⟨octets⟩, port⟩ => ⟨.v4 octets[0] octets[1] octets[2] octets[3], port, 0⟩
  | .v6 ⟨⟨groups⟩, port⟩ => ⟨.v6 groups, port, 0⟩

/-- Why the system has refused something, in its own words. The numbers of its errors come negated,
as words of 32 bits. -/
def reasonOf (e : IO.Error) : String :=
  let code := match e with
    | .resourceBusy code _ => code
    | .unsupportedOperation code _ => code
    | .invalidArgument _ code _ => code
    | .permissionDenied _ code _ => code
    | _ => 0
  match SystemError.ofNumber? (-code).toNat with
  | some error => error.message
  | none => toString e

/-- Reads the file at a path. What can be opened and not be read, as a directory, has failed in
reading. -/
def loadFile (path : String) : IO Content := do
  let opened ← try pure (some (← IO.FS.Handle.mk path .read)) catch _ => pure none
  match opened with
  | none => return .failed .notFound
  | some handle =>
    try return .file (← handle.readBinToEnd).toList catch _ => return .failed .read

/-- Shows the lines of a log that a filter chooses. -/
def report (filter : Log.Filter) (entries : List Log.Entry) : IO Unit := do
  for line in filter.lines entries do
    IO.eprintln line

/-! ## The server -/

/-- What the server hears of. -/
inductive Happening where
  /-- A client has connected. -/
  | accepted (stream : Stream)
  /-- Bytes have arrived from the client of a number. -/
  | received (number : Nat) (bytes : ByteArray)
  /-- A client has ended its stream. -/
  | ended (number : Nat)
  /-- The connection of a client has failed. -/
  | failed (number : Nat)
  /-- A worker has done a load. -/
  | loaded (key : String) (ticket : Ticket) (content : Content)
  /-- Somebody asks the server to end. -/
  | stop

/-- Where the server hears of things. -/
abbrev Inbox := Std.CloseableChannel Happening

/-- Lets the server hear of something. -/
def tell (inbox : Inbox) (happening : Happening) : BaseIO Unit :=
  discard (inbox.trySend happening)

/-- Listens to a client until it has nothing more to say. -/
partial def listenTo (inbox : Inbox) (number : Nat) (stream : Stream) : Async Unit := do
  let heard ← try pure (Except.ok (← stream.recv? 65536)) catch _ => pure (Except.error ())
  match heard with
  | .ok (some bytes) =>
    tell inbox (.received number bytes)
    listenTo inbox number stream
  | .ok none => tell inbox (.ended number)
  | .error () => tell inbox (.failed number)

/-- Waits for clients. -/
partial def awaitClients (inbox : Inbox) (listener : TCP.Socket.Server) : Async Unit := do
  let stream ← try pure (some (← listener.accept)) catch _ => pure none
  if let some stream := stream then
    tell inbox (.accepted stream)
  awaitClients inbox listener

/-- Waits for the signals that ask the server to end. -/
def awaitSignal (inbox : Inbox) (signal : Signal) : IO Unit := do
  let waiter ← Signal.Waiter.mk signal false
  let asked ← waiter.wait
  discard <| AsyncTask.mapIO (fun _ => tell inbox .stop) asked

/-- The loads that wait for a worker. -/
abbrev Loads := Std.CloseableChannel (String × Ticket)

/-- What one worker thread does until there are no more loads. -/
partial def workOn (loads : Loads) (inbox : Inbox) : IO Unit := do
  if let some (key, ticket) ← loads.sync.recv then
    tell inbox (.loaded key ticket (← loadFile key))
    workOn loads inbox

/-- A server and the system's ends of its connections, by number. -/
structure Running where
  /-- The server. -/
  server : Server
  /-- The streams that are open. -/
  streams : Array (Option Stream)

/-- Tells the server of what a client has done. -/
def Running.tellOf (running : Running) (number : Nat) (act : Net.ClientAct) : Running :=
  { running with server.reactor := running.server.reactor.client number act }

/-- Tells the server of what has happened. -/
def Running.hear (running : Running) (inbox : Inbox) : Happening → IO Running
  | .accepted stream => do
    if running.server.config.noDelay then
      try stream.noDelay catch _ => pure ()
    let (number, reactor) := running.server.reactor.connect
    discard (listenTo inbox number stream).toIO
    return ⟨{ running.server with reactor }, running.streams.push (some stream)⟩
  | .received number bytes => return running.tellOf number (.send bytes.toList)
  | .ended number => return running.tellOf number .finish
  | .failed number => return running.tellOf number .reset
  | .loaded key ticket content =>
    let reactor := running.server.reactor.deliver key ticket content
    return { running with server.reactor := reactor }
  | .stop => return running

/-- Hands the loads of the server to the workers. -/
def Running.handLoads (running : Running) (loads : Loads) : IO Running := do
  let (tasks, reactor) := running.server.reactor.takeLoads
  for task in tasks do
    discard (loads.trySend task)
  return { running with server.reactor := reactor }

/-- Sends what the server has written, and ends the streams that it has closed. -/
def Running.flush (running : Running) (inbox : Inbox) : IO Running := do
  let mut reactor := running.server.reactor
  let mut streams := running.streams
  for number in [0:streams.size] do
    if let some (some stream) := streams[number]? then
      let (bytes, next) := reactor.collect number
      reactor := next
      if !bytes.isEmpty then
        let sending : Async Unit := do
          try stream.send ⟨bytes.toArray⟩ catch _ => tell inbox (.failed number)
        discard sending.toIO
      if (reactor.network.sockets[number]?.map (·.serverClosed)).getD true then
        let ending : Async Unit := do
          try stream.shutdown catch _ => pure ()
        discard ending.toIO
        streams := streams.set! number none
  return ⟨{ running.server with reactor }, streams⟩

/-- Serves until somebody asks the server to end. -/
partial def Running.serve (running : Running) (inbox : Inbox) (loads : Loads) : IO Running := do
  match ← inbox.sync.recv with
  | none => return running
  | some .stop => return running
  | some happening =>
    let running ← running.hear inbox happening
    let reactor := running.server.reactor.pump Server.mostEvents
    let running ← Running.handLoads { running with server.reactor := reactor } loads
    (← running.flush inbox).serve inbox loads

/-- Runs a server that listens already until somebody asks it to end. -/
def runServer (filter : Log.Filter) (listener : TCP.Socket.Server) (server : Server) :
    IO UInt32 := do
  let inbox : Inbox ← Std.CloseableChannel.new
  let loads : Loads ← Std.CloseableChannel.new
  for signal in [Signal.sigint, Signal.sigterm] do
    awaitSignal inbox signal
  let mut workers := #[]
  for _ in [0:server.pool.workers] do
    workers := workers.push (← IO.asTask (workOn loads inbox) .dedicated)
  discard (awaitClients inbox listener).toIO
  report filter [server.startedEntry]
  let running ← Running.serve ⟨server, #[]⟩ inbox loads
  report filter [Launch.stopEntry]
  discard loads.close.toBaseIO
  for worker in workers do
    discard (IO.wait worker)
  report filter (running.server.stop fun _ => .failed .notFound).1
  return 0

/-- Makes the system listen. -/
def listen (endpoint : Net.Endpoint) : IO (TCP.Socket.Server × Net.Endpoint) := do
  let listener ← TCP.Socket.Server.mk
  listener.bind (socketAddress endpoint)
  listener.listen 511
  return (listener, endpointOf (← listener.getSockName))

/-- The code of a program that the system has ended for want of memory. -/
def killedExit : UInt32 := 134

/-- The code with which the program ends. -/
def exitWith (launch : Launch) : UInt32 := launch.exitCode.getD killedExit

/-- The server program, with the filter of its log. -/
def serve (filter : Log.Filter) (args : List String) : IO UInt32 := do
  match Options.grammar.read args with
  | .help => IO.print Options.usage; return exitWith .help
  | .refused => IO.eprint Options.usage; return exitWith .refused
  | .done given _ =>
    let config := Options.config given
    let bound ← try pure (Except.ok (← listen config.endpoint)) catch e => pure (.error e)
    let started := match bound with
      | .error e => Except.error (StartError.bind config.endpoint (reasonOf e))
      | .ok (listener, endpoint) =>
        (Server.ofEndpoint config endpoint).map fun server => (listener, server)
    match started with
    | .ok (listener, server) => runServer filter listener server
    | .error e =>
      let launch := Launch.ofError e
      if launch.entries.isEmpty then IO.eprintln e.message
      report filter launch.entries
      return exitWith launch

/-- The server program. -/
def serverMain (args : List String) : IO UInt32 := do
  match Log.Filter.ofVariable (← IO.getEnv "RUST_LOG") with
  | some filter => serve filter args
  | none =>
    IO.eprintln "a rule for the log cuts a character"
    return exitWith .broken

/-! ## The client -/

/-- Where a server is found by the name of its host and its port. -/
def lookUp (server : String) : IO (Option Std.Net.SocketAddress) := do
  match Net.Endpoint.parse server with
  | some endpoint => return some (socketAddress endpoint)
  | none =>
    let cs := server.toList.reverse
    let portText := (cs.takeWhile (· ≠ ':')).reverse
    let host := String.ofList ((cs.dropWhile (· ≠ ':')).drop 1).reverse
    match Text.Decimal.readNat 65535 portText with
    | none => return none
    | some port =>
      let found ← try (DNS.getAddrInfo host (String.ofList portText)).block catch _ => pure #[]
      return found[0]?.map fun
        | .v4 address => .v4 ⟨address, UInt16.ofNat port⟩
        | .v6 address => .v6 ⟨address, UInt16.ofNat port⟩

/-- Reads one answer from a stream, where `unread` holds what has arrived and was not read. -/
partial def readAnswer (stream : Stream) (unread : IO.Ref Bytes) :
    IO (Except Http.ReadFault Http.Received) := do
  match Http.Reader.readSoFar (← unread.get) with
  | some (.ok (received, rest)) =>
    unread.set rest
    return .ok received
  | some (.error fault) => return .error fault
  | none =>
    let more ← try (stream.recv? 65536).block catch _ => pure none
    match more with
    | some bytes =>
      unread.modify (· ++ bytes.toList)
      readAnswer stream unread
    | none =>
      let (answer, rest) := match Http.Reader.read (← unread.get) with
        | .ok (received, rest) => (.ok received, rest)
        | .error fault => (.error fault, [])
      unread.set rest
      return answer

/-- The link to a server. -/
def link (server : String) : Client.Link IO where
  connect := do
    match ← lookUp server with
    | none => return none
    | some address =>
      let stream ← TCP.Socket.Client.mk
      let connected ← try (stream.connect address).block; pure true catch _ => pure false
      if !connected then return none
      let unread ← IO.mkRef []
      return some {
        send := fun bytes => do
          try (stream.send ⟨bytes.toArray⟩).block; return true catch _ => return false
        read := readAnswer stream unread }

/-- The client program. -/
def clientMain (args : List String) : IO UInt32 := do
  match Client.Launch.ofArguments args with
  | .help => IO.print Client.usage; return 0
  | .refused => IO.eprint Client.usage; return Options.usageExit
  | .ready order =>
    let result ← Client.carryOut (link order.server) order
    IO.eprint result.text
    if let some reason := result.panic then
      IO.eprintln reason
    return result.exit

end FileServer.Outer

/-- Runs the server program. -/
def main (args : List String) : IO UInt32 := FileServer.Outer.serverMain args
