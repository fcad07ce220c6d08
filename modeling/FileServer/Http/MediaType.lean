/-!
# Media types

The media type of a resource is read off its name: the extension of the last path segment, upper
and lower case alike, is looked up in a fixed table. A name without an extension, and an extension
that the table does not hold, count as plain text.
-/

namespace FileServer.Http.MediaType

/-- The type of what has no known extension. -/
def plain : String := "text/plain"

/-- The type of a page that the server writes itself. -/
def html : String := "text/html"

/-- The known extensions, in lower case, and their types. -/
def table : List (String × String) :=
  [("html", html), ("htm", html), ("xml", "text/xml"), ("xhtml", "application/xhtml+xml"),
   ("css", "text/css"), ("js", "application/javascript"), ("json", "application/json"),
   ("txt", plain), ("png", "image/png"), ("gif", "image/gif"), ("jpg", "image/jpeg"),
   ("jpeg", "image/jpeg"), ("svg", "image/svg+xml"), ("ico", "image/x-icon")]

/-- The last segment of a path, last character first. -/
def lastSegmentReversed (path : List Char) : List Char :=
  path.reverse.takeWhile (· ≠ '/')

/-- What follows the last dot of the last segment of a path, if there is a dot. -/
def extension? (path : List Char) : Option (List Char) :=
  let name := lastSegmentReversed path
  if '.' ∈ name then some (name.takeWhile (· ≠ '.')).reverse else none

/-- The media type of the resource at a path. -/
def ofPath (path : String) : String :=
  match extension? path.toList with
  | none => plain
  | some ext => (table.lookup (String.ofList (ext.map Char.toLower))).getD plain

example : ofPath "/a.tar/b.HtMl" = html ∧ ofPath "/a.html/b" = plain ∧
    ofPath ".css" = "text/css" := by
  decide +kernel

end FileServer.Http.MediaType
