import FileServer.Text.Utf8
import FileServer.Text.Decimal
import FileServer.Http.Status
import FileServer.Http.MediaType

/-!
# Responses

A response is a header block and a body. The header block has four lines, each ended by carriage
return and line feed: the status line, the media type, the length of the body in bytes and whether
the connection is kept; an empty line ends it (`headText`). The body follows as it is, so the
length in the header block is what tells a reader where it ends.
-/

namespace FileServer.Http

/-- Ends every line of a header block. -/
def lineEnd : String := "\r\n"

/-- The name of the server in the footer of its own pages. -/
def serverName : String := "ferrofile"

/-- Whether the connection is kept, as its header says it. -/
def connectionToken (keepAlive : Bool) : String :=
  if keepAlive then "keep-alive" else "close"

/-- The number and the phrase of a status. -/
def statusPhrase (status : Status) : String :=
  Text.Decimal.print status.toNat ++ " " ++ status.reason

/-- The lines of a header block, without their ends and without the empty line. -/
def headLines (status : Status) (mediaType : String) (length : Nat) (keepAlive : Bool) :
    List String :=
  ["HTTP/1.1 " ++ statusPhrase status,
   "Content-Type: " ++ mediaType,
   "Content-Length: " ++ Text.Decimal.print length,
   "Connection: " ++ connectionToken keepAlive]

/-- A list of lines, each with its end. -/
def endLines : List String → String
  | [] => ""
  | line :: lines => line ++ lineEnd ++ endLines lines

/-- The header block of a response whose body has `length` bytes. -/
def headText (status : Status) (mediaType : String) (length : Nat) (keepAlive : Bool) : String :=
  endLines (headLines status mediaType length keepAlive ++ [""])

/-- The bytes of a header block. -/
def head (status : Status) (mediaType : String) (length : Nat) (keepAlive : Bool) : Bytes :=
  Text.encode (headText status mediaType length keepAlive)

/-- The page that is the body of an error response. -/
def errorPage (status : Status) : Bytes :=
  Text.encode <| endLines
    ["<html>",
     "<head><title>" ++ statusPhrase status ++ "</title></head>",
     "<body>",
     "<center><h1>" ++ statusPhrase status ++ "</h1></center>",
     "<hr><center>" ++ serverName ++ "</center>",
     "</body>",
     "</html>"]

/-- One answer to one request. -/
structure Response where
  /-- The number on the status line. -/
  status : Status
  /-- The media type of the body. -/
  mediaType : String
  /-- What follows the header block. -/
  body : Bytes
  /-- Whether the connection stays open after this response. -/
  keepAlive : Bool
deriving DecidableEq

namespace Response

/-- The header block of a response: its length is that of its body. -/
def head (r : Response) : Bytes :=
  Http.head r.status r.mediaType r.body.length r.keepAlive

/-- A response as it goes out: header block, then body. -/
def bytes (r : Response) : Bytes :=
  r.head ++ r.body

/-- The response that says that a request failed. -/
def error (status : Status) (keepAlive : Bool) : Response where
  status := status
  mediaType := MediaType.html
  body := errorPage status
  keepAlive := keepAlive

end Response

end FileServer.Http
