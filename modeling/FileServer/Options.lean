import FileServer.CommandLine
import FileServer.Config

/-!
# The options of the server

The command line of the server: the address and the port to listen on, and options for everything
else in its configuration.
-/

namespace FileServer.Options

open CommandLine

/-- A port: an integer, with a sign if need be, that is a number of sixteen bits. -/
def port? (text : String) : Option UInt16 :=
  match Text.Decimal.readInt (UInt64.size / 2) (UInt64.size / 2 - 1) text.toList with
  | some n => if 0 ≤ n ∧ n ≤ 65535 then some (UInt16.ofNat n.toNat) else none
  | none => none

/-- A number of 64 bits. -/
def number? (text : String) : Option Nat :=
  Text.Decimal.readNat Text.Decimal.max64 text.toList

/-- What the server may be told. The serving root must not be empty. -/
def grammar : Grammar where
  options :=
    [⟨"root", some 'r', some fun text => !text.isEmpty⟩,
     ⟨"workers", some 'w', some fun text => (number? text).isSome⟩,
     ⟨"cache-bytes", none, some fun text => (number? text).isSome⟩,
     ⟨"no-keep-alive", none, none⟩,
     ⟨"cork", none, none⟩,
     ⟨"no-nodelay", none, none⟩]
  operands :=
    [fun text => (Net.Address.parse text).isSome, fun text => (port? text).isSome]

/-- The configuration that a server is given. What is not given stays as it is without it. -/
def config (given : Given) : Config :=
  let base : Config := {}
  let address := match given.operands with
    | [_, address] => (Net.Address.parse address).getD base.address
    | _ => base.address
  let port := match given.operands with
    | port :: _ => (port? port).getD base.port
    | [] => base.port
  { address := address
    port := port
    root := ((given.value? "root").map Text.encode).getD base.root
    workers := ((given.value? "workers").bind number?).getD base.workers
    cacheBytes := ((given.value? "cache-bytes").bind number?).getD base.cacheBytes
    keepAlive := !given.has "no-keep-alive"
    noDelay := !given.has "no-nodelay"
    cork := given.has "cork" }

/-- The code with which a program ends that was used in a wrong way. -/
def usageExit : UInt32 := 2

/-- How the server is used. -/
def usage : String :=
  "Usage: [OPTIONS] <ADDR> <PORT>\n\n"
    ++ "  -r, --root <DIRECTORY>     directory to serve files from [default: .]\n"
    ++ "  -w, --workers <COUNT>      number of disk workers [default: 4]\n"
    ++ "      --cache-bytes <BYTES>  budget of the cache [default: 1073741824]\n"
    ++ "      --no-keep-alive        close each connection after its first response\n"
    ++ "      --cork                 cork sockets while a response is written\n"
    ++ "      --no-nodelay           do not send small writes without delay\n"
    ++ "  -h, --help                 show this text\n"

end FileServer.Options
