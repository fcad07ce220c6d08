import FileServer.Text.Utf8
import FileServer.Text.Blank

/-!
# Resource keys

A request line names a resource; its key is the path under which the file is opened and cached.
`resolve` finds the path in the line, refuses what would leave the serving root, and appends the
segments that remain to the root one by one. The order of the checks is part of the rule: a line
without a path is refused first, then a path with a NUL, then one with a `..` segment.
-/

namespace FileServer

/-- A path of the file system: bytes that need not be text. -/
abbrev Path := Bytes

/-- The byte that separates the segments of a path. -/
def Path.separator : UInt8 := 0x2F

/-- Why a request line names no resource. -/
inductive KeyError where
  /-- The line has several words and none of them is a path. -/
  | noPath
  /-- The path holds a NUL, which no file name can. -/
  | invalidByte
  /-- The path has a `..` segment, which could leave the serving root. -/
  | traversal
deriving DecidableEq, Repr

namespace Key

/-- The resource that stands for a directory. -/
def indexName : String := "index.html"

/-- The path on a request line. A line of one word is the path itself; on a line of several words
it is the first that begins with a slash, as in `GET /a HTTP/1.1`. -/
def pathOfLine (line : List Char) : Except KeyError (List Char) :=
  let line := Text.trim line
  if line.any Text.isBlank then
    match (Text.words line).find? (fun word => word.head? = some '/') with
    | some word => .ok word
    | none => .error .noPath
  else .ok line

/-- A path without its query and its fragment. -/
def withoutQuery (path : List Char) : List Char :=
  path.takeWhile fun c => c ≠ '?' && c ≠ '#'

/-- The stretches between slashes, empty ones included, where `segment` holds, last character
first, what has been read of the current one. -/
def splitFrom (segment : List Char) : List Char → List (List Char)
  | [] => [segment.reverse]
  | c :: cs =>
    if c = '/' then segment.reverse :: splitFrom [] cs else splitFrom (c :: segment) cs

/-- The stretches between slashes. -/
def split (path : List Char) : List (List Char) :=
  splitFrom [] path

/-- A path under construction, and whether a segment was added to the root. -/
structure Build where
  /-- The root and what has been added to it, last byte first, so that adding a segment costs no
  more than its length. -/
  back : Path
  /-- Whether anything has been added. -/
  extended : Bool

namespace Build

/-- A path to which nothing was added. -/
def ofRoot (root : Path) : Build := ⟨root.reverse, false⟩

/-- The path so far. -/
def path (build : Build) : Path := build.back.reverse

/-- Extends the path by one segment. A separator is put between them unless the path is empty or
ends with one. -/
def push (build : Build) (segment : Path) : Build :=
  if build.back.isEmpty || build.back.head? = some Path.separator then
    ⟨segment.reverse ++ build.back, true⟩
  else ⟨segment.reverse ++ Path.separator :: build.back, true⟩

/-- Adds one segment. Empty and `.` segments name the directory they stand in and add nothing; a
`..` segment is refused. -/
def add (build : Build) (segment : List Char) : Except KeyError Build :=
  if segment = [] ∨ segment = ['.'] then .ok build
  else if segment = ['.', '.'] then .error .traversal
  else .ok (build.push (Text.encodeChars segment))

/-- A path begins as the root. -/
@[simp] theorem path_ofRoot (root : Path) : (ofRoot root).path = root := by
  simp [ofRoot, path]

/-- A segment comes to stand behind the path, and a separator between them where there is none. -/
theorem path_push (build : Build) (segment : Path) :
    (build.push segment).path
      = if build.path = [] ∨ build.path.getLast? = some Path.separator then build.path ++ segment
        else build.path ++ Path.separator :: segment := by
  simp only [path, push, List.getLast?_reverse, List.reverse_eq_nil_iff]
  split <;> simp_all

end Build

/-- The key of a path that holds no query, relative to a serving root. A path that ends with a
slash, or adds nothing to the root, names a directory and stands for the index in it. -/
def ofPath (root : Path) (path : List Char) : Except KeyError String :=
  if path.any (· = '\x00') then .error .invalidByte
  else do
    let build ← (split path).foldlM Build.add (.ofRoot root)
    let build :=
      if !build.extended || path.getLast? = some '/' then build.push (Text.encode indexName)
      else build
    return Text.decode build.path

/-- The key of the resource that a request line names under a serving root, or why there is none. -/
def resolve (root : Path) (line : String) : Except KeyError String := do
  let path ← pathOfLine line.toList
  ofPath root (withoutQuery path)

end Key

end FileServer
