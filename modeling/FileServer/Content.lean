import FileServer.Http.Response

/-!
# Loaded content

What a disk load leaves behind under its key: the bytes of a file, or the reason why there are
none. A failure is a value like any other. It is kept in the cache, weighs as much as its short
diagnostic text, and is served as an error page.
-/

namespace FileServer

/-- Why a load produced no file. -/
inductive LoadFailure where
  /-- The path could not be opened. -/
  | notFound
  /-- The path opened, but what it names is not a regular file. -/
  | metadata
  /-- Reading the file failed part way. -/
  | read
deriving DecidableEq, Repr

namespace LoadFailure

/-- The failure in a few words. -/
def describe : LoadFailure → String
  | notFound => "file not found"
  | metadata => "failed to stat"
  | read => "failed to read"

/-- The line that is kept in place of the file. -/
def diagnostic (cause : LoadFailure) : String :=
  cause.describe ++ "\n"

/-- The status with which the failure is answered: only a missing file is the client's doing. -/
def status : LoadFailure → Http.Status
  | notFound => 404
  | metadata => 500
  | read => 500

end LoadFailure

/-- The result of one load. -/
inductive Content where
  /-- The bytes of a file. -/
  | file (bytes : Bytes)
  /-- The reason why there is no file. -/
  | failed (cause : LoadFailure)
deriving DecidableEq, Repr

namespace Content

/-- What the cache holds in memory for a result. -/
def bytes : Content → Bytes
  | file bytes => bytes
  | failed cause => Text.encode cause.diagnostic

/-- What a result counts against the budget of the cache: its bytes. -/
def weight (content : Content) : Nat :=
  content.bytes.length

/-- The response that serves a result loaded under `key`. A file takes its media type from the
key; a failure becomes an error page. -/
def response (key : String) (keepAlive : Bool) : Content → Http.Response
  | file bytes => ⟨200, Http.MediaType.ofPath key, bytes, keepAlive⟩
  | failed cause => Http.Response.error cause.status keepAlive

end Content

end FileServer
