import FileServer.Net.Address

/-!
# Start-up errors

What keeps a server from starting. None of it is tried again: the server reports the error and
ends.
-/

namespace FileServer

/-- Why a server did not start. Where the system has refused something, its reason is kept. -/
inductive StartError where
  /-- No listening socket could be made. -/
  | socket (reason : String)
  /-- The socket could not be bound to its endpoint. -/
  | bind (endpoint : Net.Endpoint) (reason : String)
  /-- The socket could not be made to listen. -/
  | listen (reason : String)
  /-- The notifier could not be made. -/
  | notifier (reason : String)
  /-- The poller has failed. -/
  | poller (reason : String)
  /-- A disk worker could not be started. -/
  | worker (number : Nat) (reason : String)
  /-- The configuration makes no sense. -/
  | config (reason : String)
  /-- More room was needed than any memory has. -/
  | overflow
  /-- The system has not given so many bytes of memory. -/
  | memory (bytes : Nat)
deriving DecidableEq

namespace StartError

/-- The error as it is reported. -/
def message : StartError → String
  | socket reason => "failed to create listening socket: " ++ reason
  | bind endpoint reason => "failed to bind " ++ endpoint.print ++ ": " ++ reason
  | listen reason => "failed to listen: " ++ reason
  | notifier reason => "failed to create eventfd: " ++ reason
  | poller reason => "epoll failure: " ++ reason
  | worker number reason =>
    "failed to spawn disk worker " ++ Text.Decimal.print number ++ ": " ++ reason
  | config reason => "invalid configuration: " ++ reason
  | overflow => "capacity overflow"
  | memory bytes => "memory allocation of " ++ Text.Decimal.print bytes ++ " bytes failed"

/-- The reason that the system gave, where there is one behind the error. -/
def reason? : StartError → Option String
  | socket reason => some reason
  | bind _ reason => some reason
  | listen reason => some reason
  | notifier reason => some reason
  | poller reason => some reason
  | worker _ reason => some reason
  | config _ => none
  | overflow => none
  | memory _ => none

/-- A server needs a disk worker. -/
def noWorkers : StartError := .config "worker count must be at least 1"

end StartError

end FileServer
