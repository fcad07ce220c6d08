import FileServer.Hub
import FileServer.Net.Address

/-!
# Configuration

What one server is told when it starts, and the settings and the hub that it makes of it.
-/

namespace FileServer

/-- The settings of one server. -/
structure Config where
  /-- The address to listen on. -/
  address : Net.Address := .any
  /-- The port to listen on. -/
  port : UInt16 := 8080
  /-- The directory under which resources are looked for. -/
  root : Path := Text.encode "."
  /-- The number of disk workers. -/
  workers : Nat := 4
  /-- The budget of the cache in bytes. -/
  cacheBytes : Nat := 1073741824
  /-- Whether a connection stays open after a response. -/
  keepAlive : Bool := true
  /-- Whether small writes go out without delay. -/
  noDelay : Bool := true
  /-- Whether the stream is corked while a response is sent. -/
  cork : Bool := false

namespace Config

/-- Where the server listens. -/
def endpoint (config : Config) : Net.Endpoint := ⟨config.address, config.port, 0⟩

/-- What the connections of the server are told. -/
def settings (config : Config) : Settings := ⟨config.root, config.keepAlive, config.cork⟩

/-- The cache, the queue and the counters with which the server starts. -/
def hub (config : Config) : Hub := .empty config.cacheBytes

end Config

end FileServer
