import FileServer.Config
import FileServer.Log.Filter
import FileServer.Net.Host
import FileServer.Options
import FileServer.Reactor.Basic

/-!
# Servers

A server is a listening endpoint, a pool of disk workers and a reactor, made from one configuration.
Starting it takes three things that can fail, in this order: listening, making the pool, and having
a reactor. It serves until it is told to stop; then the reactor ends with the connections it has,
and the pool ends after the loads that are queued.

What it reports on the way is part of the result of every function here.
-/

namespace FileServer

/-- A server that is running. -/
structure Server where
  /-- What it was told. -/
  config : Config
  /-- Where it listens. -/
  endpoint : Net.Endpoint
  /-- Its disk workers. -/
  pool : Pool
  /-- Its connections. -/
  reactor : Reactor

namespace Server

/-- The name of the program in the log. -/
def programName : String := "ferrofile"

/-- The name of the part that starts and ends servers. -/
def serverName : String := programName ++ "::server"

/-- The name of the part that owns the connections. -/
def reactorName : String := programName ++ "::reactor"

/-- How many events one round handles at most. -/
def mostEvents : Nat := 1024

/-- What is reported when a server has started. -/
def startedEntry (server : Server) : Log.Entry where
  level := .info
  origin := serverName
  text := "listening on " ++ server.endpoint.print
    ++ " (root " ++ Text.decode server.config.root
    ++ ", " ++ Text.Decimal.print server.pool.workers ++ " disk workers"
    ++ ", cache " ++ Text.Decimal.print server.config.cacheBytes ++ " bytes"
    ++ ", keep-alive " ++ (if server.config.keepAlive then "true" else "false") ++ ")"

/-- Makes a server that listens on an endpoint already. -/
def ofEndpoint (config : Config) (endpoint : Net.Endpoint) : Except StartError Server := do
  let pool ← Pool.start config.workers
  return ⟨config, endpoint, pool,
    .start config.settings config.noDelay ⟨config.hub, .quiet⟩⟩

/-- Starts a server on a host. -/
def start (host : Net.Host) (config : Config) : Except StartError (Server × Net.Host) :=
  match host.listen config.endpoint with
  | .error reason => .error (.bind config.endpoint reason.message)
  | .ok (endpoint, host) => (ofEndpoint config endpoint).map fun server => (server, host)

/-- Lets the reactor handle what is ready and a worker do one load, in turn, until neither has
anything to do, at most `turns` times. -/
def settleFor (read : Path → Content) : Nat → Server → Server
  | 0, server => server
  | turns + 1, server =>
    let reactor := server.reactor.pump mostEvents
    match reactor.work read with
    | (.loaded, reactor) => settleFor read turns { server with reactor }
    | (_, reactor) => { server with reactor }

/-- How much there is to do at most: every line that waits on a connection, and every load that is
queued, can make every other load necessary again. -/
def backlog (server : Server) : Nat :=
  let lines := server.reactor.network.sockets.foldl (fun n socket => n + socket.wire.unread) 0
  let loads := server.reactor.shop.hub.queue.length + server.reactor.network.sockets.size
  let most := lines + loads + Ring.capacity * server.reactor.network.sockets.size + 1
  most * most

/-- Serves until nobody is left waiting for anything but input. -/
def settle (read : Path → Content) (server : Server) : Server :=
  settleFor read server.backlog server

/-- Tells the server to stop and lets it end. Gives what is reported meanwhile. -/
def stop (read : Path → Content) (server : Server) : List Log.Entry × Server :=
  let reactor := server.reactor.shutdown
  let (pool, shop) := server.pool.shutdown read reactor.shop
  let text := "reactor stopping with " ++ Text.Decimal.print reactor.conns.length
    ++ " open connections"
  ([⟨.info, reactorName, text⟩, ⟨.info, serverName, "server stopped"⟩],
    { server with pool, reactor := { reactor with shop } })

end Server

/-- What the server program does with its command line. -/
inductive Launch where
  /-- It breaks off: the filter of its log cannot be read, or it is told to have more workers than
  any memory has room for. -/
  | broken
  /-- It is ended by the system, because it was not given the memory that it needs. -/
  | killed
  /-- It shows how it is used. -/
  | help
  /-- It was used in a wrong way. -/
  | refused
  /-- It could not start. -/
  | failed (error : StartError)
  /-- It serves. -/
  | running (server : Server) (host : Net.Host)

namespace Launch

/-- What becomes of the program if the server does not start. -/
def ofError : StartError → Launch
  | .overflow => .broken
  | .memory _ => .killed
  | error => .failed error

/-- Starts the server program on a host. The filter of the log comes first. -/
def ofArguments (host : Net.Host) (filter : Option Log.Filter) (args : List String) : Launch :=
  if filter.isNone then .broken
  else match Options.grammar.read args with
    | .help => .help
    | .refused => .refused
    | .done given _ =>
      match Server.start host (Options.config given) with
      | .ok (server, host) => .running server host
      | .error error => .ofError error

/-- What is reported when the program has started or failed. -/
def entries : Launch → List Log.Entry
  | broken => []
  | killed => []
  | help => []
  | refused => []
  | failed error => [⟨.error, Server.programName, error.message⟩]
  | running server _ => [server.startedEntry]

/-- The code with which the program ends, once it ends. There is none if the system ends it. -/
def exitCode : Launch → Option UInt32
  | broken => some 101
  | killed => none
  | help => some 0
  | refused => some Options.usageExit
  | failed _ => some 1
  | running .. => some 0

/-- What is reported when somebody asks the running program to end. -/
def stopEntry : Log.Entry := ⟨.info, Server.programName, "shutdown requested"⟩

end Launch

end FileServer
