import FileServer.Net.Address
import FileServer.SystemError

/-!
# Hosts

What the system of a host decides about listening and connecting: which endpoints can be bound, and
whether a connection can be made at all. A host whose interfaces are down still lets a server
listen. It has no table of its own addresses then, takes every address of version 4 for a broadcast
address and binds it, and of version 6 it binds only the unspecified address and those that stand
for one of version 4. Nobody can connect to it.

Two sockets can listen on one port if they cannot be reached at one address. The lowest ports are
kept for privileged programs, and none of the programs here is one. Which of two faults of an
endpoint is reported depends on the version: on a socket of version 4 the address is looked at
before the port, on one of version 6 the port before the address, unless that is one for many hosts.
-/

namespace FileServer.Net

/-- A host with its listening sockets. -/
structure Host where
  /-- Whether its interfaces are up. -/
  isUp : Bool
  /-- Where something listens. -/
  listening : List Endpoint

namespace Host

/-- A host whose interfaces are down, and on which nothing listens. -/
def down : Host := ⟨false, []⟩

/-- A host whose interfaces are up, and on which nothing listens. -/
def up : Host := ⟨true, []⟩

/-- Whether the host can listen on an address of version 4: one of the loop, or one that is for no
single host. -/
def ownsV4 (host : Host) (a b c d : UInt8) : Bool :=
  !host.isUp || a = 127 || (224 ≤ a && a < 240) || (a = 0 && b = 0 && c = 0 && d = 0)
    || (a = 255 && b = 255 && c = 255 && d = 255)

/-- Refuses an address that the host cannot listen on. -/
def checkAddress (host : Host) (address : Address) : Except SystemError Unit :=
  match address.unmapped with
  | .v4 a b c d =>
    if host.ownsV4 a b c d then .ok () else .error .addressNotAvailable
  | .v6 groups =>
    match groups.toList with
    | [0, 0, 0, 0, 0, 0, 0, 0] => .ok ()
    | [0, 0, 0, 0, 0, 0, 0, 1] => if host.isUp then .ok () else .error .addressNotAvailable
    | _ =>
      -- an address of one link needs a scope
      if groups[0] &&& 0xFFC0 = 0xFE80 then .error .invalidArgument
      else .error .addressNotAvailable

/-- Where the ports begin on which every program may listen. -/
def firstOpenPort : UInt16 := 1024

/-- Refuses a port that is kept for privileged programs. Port zero is not, since the host chooses
another one for it. -/
def checkPort (port : UInt16) : Except SystemError Unit :=
  if port ≠ 0 && port < firstOpenPort then .error .permissionDenied else .ok ()

/-- Refuses an endpoint that the host cannot listen on, whoever else listens. -/
def checkEndpoint (host : Host) (endpoint : Endpoint) : Except SystemError Unit :=
  match endpoint.address with
  | .v4 .. => do
    host.checkAddress endpoint.address
    checkPort endpoint.port
  | .v6 groups => do
    -- an address for many hosts has no connections
    if groups[0] &&& 0xFF00 = 0xFF00 then
      throw .invalidArgument
    checkPort endpoint.port
    host.checkAddress endpoint.address

/-- Whether something that listens can be reached at an endpoint. -/
def isTaken (host : Host) (endpoint : Endpoint) : Bool :=
  host.listening.any fun other =>
    other.port = endpoint.port && other.address.overlaps endpoint.address

/-- The first port, from `port` on, on which nothing listens. -/
def freePort (host : Host) (port : UInt16) : Nat → UInt16
  | 0 => port
  | tries + 1 =>
    if host.listening.any fun other => other.port = port then freePort host (port + 1) tries
    else port

/-- Where the ports begin that the host chooses itself. -/
def firstPort : UInt16 := 32768

/-- Listens on an endpoint, and gives the one that was bound: for port zero the host chooses. -/
def listen (host : Host) (endpoint : Endpoint) : Except SystemError (Endpoint × Host) := do
  host.checkEndpoint endpoint
  if endpoint.port ≠ 0 && host.isTaken endpoint then
    throw .addressInUse
  let endpoint :=
    if endpoint.port = 0 then
      { endpoint with port := host.freePort firstPort host.listening.length }
    else endpoint
  return (endpoint, { host with listening := endpoint :: host.listening })

/-- Whether a client on the host can connect to an endpoint, and if not, why. -/
def connect (host : Host) (endpoint : Endpoint) : Except SystemError Unit :=
  if !host.isUp then .error .networkUnreachable
  else if host.isTaken endpoint then .ok ()
  else .error .connectionRefused

end Host

end FileServer.Net
