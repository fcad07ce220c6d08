import FileServer.CommandLine
import FileServer.Http.Reader
import FileServer.Net.Host
import FileServer.Options

/-!
# The test client

A client that asks a server for one target and checks the answers: once (`smoke`), several times on
one connection (`keepAlive`), or many times on several connections with several requests under way
at once (`bench`). It stops at the first answer that it cannot read or does not expect.

The client is written against a `Link`, which makes connections, so that it is the same over sockets
and over a `Peer`, whose answers are given in advance. The time that a benchmark takes is not part
of its report.
-/

namespace FileServer.Client

/-! ## Links -/

/-- A connection as the client uses it. -/
structure Line (m : Type → Type) where
  /-- Sends bytes. Gives whether that was possible. -/
  send : Bytes → m Bool
  /-- Reads one answer. -/
  read : m (Except Http.ReadFault Http.Received)

/-- The means to make connections. -/
structure Link (m : Type → Type) where
  /-- Makes a connection, if that is possible. -/
  connect : m (Option (Line m))

/-- The other side: what it answers to the lines that it is sent. -/
structure Peer where
  /-- Whether it can be reached. -/
  reachable : Bool
  /-- The answers, in order. Behind the last one the stream ends. -/
  replies : List Bytes
  /-- Whether the last answer is given again and again. -/
  forever : Bool
  /-- What the client has not read of the answers given on its connection. -/
  given : Bytes := []

namespace Peer

/-- The answer to one line. -/
def answer (peer : Peer) : Bytes × Peer :=
  match peer.replies with
  | [] => ([], peer)
  | [reply] => (reply, if peer.forever then peer else { peer with replies := [] })
  | reply :: rest => (reply, { peer with replies := rest })

/-- Answers a number of lines. -/
def hear (peer : Peer) : Nat → Peer
  | 0 => peer
  | lines + 1 =>
    let (reply, peer) := peer.answer
    { peer with given := peer.given ++ reply }.hear lines

/-- Gives the client its next answer. -/
def give (peer : Peer) : Except Http.ReadFault Http.Received × Peer :=
  match Http.Reader.read peer.given with
  | .error fault => (.error fault, peer)
  | .ok (received, given) => (.ok received, { peer with given })

/-- A connection to a peer. -/
def line : Line (StateM Peer) where
  send bytes := do
    modify fun peer => peer.hear (bytes.count 0x0A)
    return true
  read := modifyGet give

/-- The link to a peer. A new connection begins with nothing given. -/
def link : Link (StateM Peer) where
  connect := modifyGet fun peer =>
    if peer.reachable then (some line, { peer with given := [] }) else (none, peer)

end Peer

/-! ## What the client does -/

/-- What a client has to say at its end. -/
structure Report where
  /-- The lines that it has written. -/
  text : String
  /-- The code with which it ends. -/
  exit : UInt32
  /-- Why it has given up, if it has. -/
  panic : Option String := none
deriving DecidableEq

namespace Report

/-- All is well. -/
def passed (text : String) : Report := ⟨text, 0, none⟩

/-- The client gives up. -/
def gaveUp (text reason : String) : Report := ⟨text, 101, some reason⟩

end Report

/-- What the client asks for. -/
inductive Plan where
  /-- The target, once. -/
  | smoke
  /-- The target so many times, on one connection. -/
  | keepAlive (requests : Nat)
  /-- The target so many times on each connection, with so many requests under way at once. -/
  | bench (connections requests window : Nat)
deriving DecidableEq, Repr

/-- What a client is told. -/
structure Order where
  /-- The server and its port. -/
  server : String
  /-- What is asked for. -/
  target : String
  /-- How it is asked for. -/
  plan : Plan
deriving DecidableEq

/-- A number in a report. -/
def shown (n : Nat) : String := Text.Decimal.print n

/-- The bytes of one request. -/
def request (target : String) : Bytes := Text.encode (target ++ "\n")

/-- No connection could be made. -/
def noConnection : String := "failed to connect"

/-- Nothing could be sent. -/
def noSending : String := "failed to write"

section

variable {m : Type → Type} [Monad m]

/-- Asks once and shows the header block of the answer. -/
def smoke (link : Link m) (order : Order) : m Report := do
  let text := "smoke test: " ++ order.target ++ " from " ++ order.server ++ "\n"
  match ← link.connect with
  | none => return .gaveUp text noConnection
  | some line =>
    if !(← line.send (request order.target)) then return .gaveUp text noSending
    match ← line.read with
    | .error fault => return .gaveUp text fault.message
    | .ok received =>
      let text := text ++ received.head ++ "  body: " ++ shown received.body.length ++ " bytes\n"
      if received.status = 200 then return .passed (text ++ "smoke test: PASSED\n")
      else return ⟨text ++ "smoke test: got status " ++ shown received.status ++ "\n", 1, none⟩

/-- The bodies of two answers have different lengths. -/
def lengthChanged (number : Nat) : String :=
  "assertion `left == right` failed: request " ++ shown number ++ ": body length changed"

/-- Asks another `left` times. The answer of number `number` must have a body as long as the first
one. Gives the reason for giving up, or how many requests were made until the server closed. -/
def askAgain (line : Line m) (target : String) (first? : Option Nat) (number : Nat) :
    Nat → m (Except String (Option Nat))
  | 0 => return .ok none
  | left + 1 => do
    if !(← line.send (request target)) then return .error noSending
    match ← line.read with
    | .error fault => return .error fault.message
    | .ok received =>
      let length := received.body.length
      let first := first?.getD length
      if length ≠ first then return .error (lengthChanged number)
      else if !received.keepAlive then return .ok (some (number + 1))
      else askAgain line target (some first) (number + 1) left

/-- Asks a number of times on one connection. -/
def keepAlive (link : Link m) (order : Order) (requests : Nat) : m Report := do
  let text := "keep-alive test: " ++ shown requests ++ " sequential requests for " ++ order.target
    ++ " on one connection\n"
  match ← link.connect with
  | none => return .gaveUp text noConnection
  | some line =>
    match ← askAgain line order.target none 0 requests with
    | .error reason => return .gaveUp text reason
    | .ok (some made) =>
      return .passed
        (text ++ "server does not keep connections alive; stopped after " ++ shown made ++ "\n")
    | .ok none =>
      return .passed (text ++ "keep-alive test: PASSED (" ++ shown requests ++ " requests)\n")

/-- The server has closed a connection of a benchmark. -/
def closedEarly : String := "server closed the connection mid-bench"

/-- A request of a benchmark could not be sent. -/
def benchNoSending : String := "write failed"

/-- Makes a number of requests at once. Gives whether all could be sent. -/
def askMany (line : Line m) (target : String) : Nat → m Bool
  | 0 => return true
  | more + 1 => do
    if ← line.send (request target) then askMany line target more else return false

/-- Reads another `left` answers on one connection of a benchmark, of which `sent` requests are not
answered and `unsent` are not made. Gives the reason for giving up, if there is one. -/
def benchOne (line : Line m) (target : String) (window sent unsent : Nat) : Nat → m (Option String)
  | 0 => return none
  | left + 1 => do
    let now := min unsent (max window 1 - sent)
    if !(← askMany line target now) then return some benchNoSending
    match ← line.read with
    | .error fault => return some fault.message
    | .ok received =>
      if !received.keepAlive then return some closedEarly
      else benchOne line target window (sent + now - 1) (unsent - now) left

/-- Makes so many connections of a benchmark, one after the other, and asks on each. -/
def benchAll (link : Link m) (target : String) (window requests : Nat) : Nat → m (Option String)
  | 0 => return none
  | connections + 1 => do
    match ← link.connect with
    | none => return some noConnection
    | some line =>
      match ← benchOne line target window 0 requests requests with
      | some reason => return some reason
      | none => benchAll link target window requests connections

/-- Asks many times on several connections. -/
def bench (link : Link m) (order : Order) (connections requests window : Nat) : m Report := do
  let text := "bench: " ++ shown connections ++ " connections x " ++ shown requests
    ++ " requests (window " ++ shown window ++ ") for " ++ order.target ++ " at " ++ order.server
    ++ "\n"
  match ← benchAll link order.target window requests connections with
  | some reason => return .gaveUp text reason
  | none =>
    if connections * requests = 0 then return .passed (text ++ "no samples collected\n")
    else return .passed (text ++ "bench: " ++ shown (connections * requests) ++ " requests\n")

/-- Carries an order out. -/
def carryOut (link : Link m) (order : Order) : m Report :=
  match order.plan with
  | .smoke => smoke link order
  | .keepAlive requests => keepAlive link order requests
  | .bench connections requests window => bench link order connections requests window

end

/-! ## The command line -/

open CommandLine

/-- Whether a text is a number. -/
def isNumber (text : String) : Bool := (Options.number? text).isSome

/-- What the client may be told before its command. -/
def grammar : Grammar where
  options :=
    [⟨"addr", some 'a', some fun _ => true⟩,
     ⟨"port", some 'p', some fun text => (Options.port? text).isSome⟩,
     ⟨"target", some 't', some fun _ => true⟩]
  operands := []
  commands := true

/-- The number that an option was given, or another one. -/
def numberOr (given : Given) (name : String) (other : Nat) : Nat :=
  ((given.value? name).bind Options.number?).getD other

/-- The commands, what each may be told, and what it then plans. -/
def commands : List (String × List Opt × (Given → Plan)) :=
  [("smoke", [], fun _ => .smoke),
   ("keepalive", [⟨"requests", some 'r', some isNumber⟩],
     fun given => .keepAlive (numberOr given "requests" 100)),
   ("bench",
     [⟨"connections", some 'c', some isNumber⟩, ⟨"requests", some 'r', some isNumber⟩,
      ⟨"window", some 'w', some isNumber⟩],
     fun given => .bench (numberOr given "connections" 4) (numberOr given "requests" 10000)
       (numberOr given "window" 32))]

/-- How the client is used. -/
def usage : String :=
  "Usage: [OPTIONS] [smoke | keepalive | bench]\n\n"
    ++ "  -a, --addr <ADDR>      server address [default: 127.0.0.1]\n"
    ++ "  -p, --port <PORT>      server port [default: 8080]\n"
    ++ "  -t, --target <TARGET>  target to request [default: /index.html]\n"
    ++ "  -h, --help             show this\n"

/-- What the client does with its command line. -/
inductive Launch where
  /-- It shows how it is used. -/
  | help
  /-- It was used in a wrong way. -/
  | refused
  /-- It carries out an order. -/
  | ready (order : Order)
deriving DecidableEq

/-- The order made of what was given before the command. -/
def order (given : Given) (plan : Plan) : Order where
  server := (given.value? "addr").getD "127.0.0.1" ++ ":"
    ++ shown (((given.value? "port").bind Options.port?).getD 8080).toNat
  target := (given.value? "target").getD "/index.html"
  plan := plan

/-- Reads the command line of a client. Without a command it asks once. -/
def Launch.ofArguments (args : List String) : Launch :=
  match grammar.read args with
  | .help => .help
  | .refused => .refused
  | .done given [] => .ready (order given .smoke)
  | .done _ ["help"] => .help
  | .done _ ["help", command] =>
    if (commands.lookup command).isSome || command = "help" then .help else .refused
  | .done given (command :: rest) =>
    match commands.lookup command with
    | none => .refused
    | some (options, plan) =>
      match Grammar.read ⟨options, [], false⟩ rest with
      | .help => .help
      | .refused => .refused
      | .done inner _ => .ready (order given (plan inner))

end FileServer.Client
