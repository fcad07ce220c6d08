/-!
# Status codes

The number of a response and the phrase that follows it on the status line.
-/

namespace FileServer.Http

/-- The number of a response: any number of sixteen bits. -/
abbrev Status := UInt16

/-- The phrase of a status. Only the codes this server sends, and three redirections, have one of
their own; every other code is a server error. -/
def Status.reason (status : Status) : String :=
  match status.toNat with
  | 200 => "OK"
  | 301 => "Moved Permanently"
  | 302 => "Moved Temporarily"
  | 303 => "See Other"
  | 400 => "Bad Request"
  | 404 => "Not Found"
  | 414 => "URI Too Long"
  | _ => "Server Error"

end FileServer.Http
