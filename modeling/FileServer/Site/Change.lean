import FileServer.Site.Basic

/-!
# Changing a site

How files, directories and links come into a site, by the rules of the file system. A file is
written through links: it comes to stand, or is overwritten, where the last of them points. A link
or a directory is made only where nothing stands, not even a link that points nowhere. `put` makes
the directories above an item first, as far as they are missing.
-/

namespace FileServer.Site

/-- Why an item was not put into a site. -/
inductive Refusal where
  /-- The system has refused it. -/
  | system (error : SystemError)
  /-- Its path holds a NUL, which no path of the system can. -/
  | nulByte
deriving DecidableEq, Repr

/-- A refusal as it is reported. -/
def Refusal.message : Refusal → String
  | system error => error.message
  | nulByte => "file name contained an unexpected NUL byte"

/-- The names in a path, which may be `.` and `..`. Empty segments are left out. -/
def names (path : Path) : List Path := (segmentsFrom [] path).filter (!·.isEmpty)

/-- Whether a path ends with a slash. -/
def endsWithSlash (path : Path) : Bool := path.getLast? = some Path.separator

/-- A place in a directory, where something stands or may come to stand. -/
structure Place where
  /-- The directory. -/
  directory : Nat
  /-- The name in it. -/
  name : Path
deriving DecidableEq, Repr

/-- The node at a place. -/
def at? (site : Site) (place : Place) : Option Nat := site.entry? place.directory place.name

/-- What stands at a place. -/
def itemAt? (site : Site) (place : Place) : Option Item := (site.at? place).bind site.item?

/-- Puts an item at a place where nothing stands. -/
def add (site : Site) (place : Place) (item : Item) : Site :=
  let node := site.nodes.size
  let holder (directory : Node) : Node :=
    { directory with entries := directory.entries.insert place.name node }
  { site with
    nodes := (site.nodes.modify place.directory holder).push ⟨item, place.directory, ∅⟩ }

/-- Puts an item at a node in the place of what it was. -/
def replace (site : Site) (node : Nat) (item : Item) : Site :=
  { site with nodes := site.nodes.modify node ({ · with item }) }

/-- The place of the last of some names, whatever stands there, with the links that are left. There
is no such place for `.` and `..` or without a name: `refusal` says why. -/
def placeFor (site : Site) (links : Nat) (start : Nat) (names : List Path)
    (refusal : SystemError) : Except SystemError (Nat × Place) := do
  let (links, directory) ← site.walk links start names.dropLast
  if site.item? directory ≠ some .directory then throw .notDirectory
  match names.getLast? with
  | none => throw refusal
  | some name =>
    if name = dot || name = dotDot then throw refusal
    else if longestName < name.length then throw .nameTooLong
    else return (links, ⟨directory, name⟩)

/-- Where a file comes to stand that is written at a path: behind the links there, of which at most
`most` are followed, and no more than `links` on the whole way. -/
def landing (site : Site) (most links : Nat) (start : Nat) (path : Path) :
    Except SystemError Place := do
  let (links, place) ← site.placeFor links (startOf path start) (names path) .isDirectory
  if endsWithSlash path then throw .isDirectory
  match site.itemAt? place with
  | some (.link target) =>
    match most, links with
    | most + 1, links + 1 => landing site most links place.directory target
    | _, _ => throw .tooManyLinks
  | some .directory => throw .isDirectory
  | _ => return place

/-- Writes a file. A device takes what is written, and what cannot be read cannot be written. -/
def writeFile (site : Site) (path : Path) (bytes : Bytes) : Except SystemError Site := do
  let place ← site.landing mostLinks mostLinks site.here path
  match site.at? place with
  | none => return site.add place (.file bytes)
  | some node =>
    match site.item? node with
    | some .device => return site
    | some .unreadable => if bytes.isEmpty then return site else throw .inputOutput
    | _ => return site.replace node (.file bytes)

/-- Makes an item at the last of some names, where nothing stands. -/
def make (site : Site) (start : Nat) (names : List Path) (item : Item) :
    Except SystemError Site := do
  let (_, place) ← site.placeFor mostLinks start names .fileExists
  if (site.at? place).isSome then throw .fileExists
  return site.add place item

/-- Makes a link, or what is reached by one. -/
def makeLink (site : Site) (path target : Path) (item : Item) : Except SystemError Site := do
  if target.isEmpty then throw .notFound
  if longestPath < target.length then throw .nameTooLong
  let made ← site.make (startOf path site.here) (names path) item
  if endsWithSlash path then throw .notFound
  return made

/-- Whether names lead to a directory. -/
def isDirectory (site : Site) (start : Nat) (names : List Path) : Bool :=
  match site.walk mostLinks start names with
  | .ok (_, node) => site.item? node = some .directory
  | .error _ => false

/-- Makes a directory unless it is there. -/
def ensureDirectory (site : Site) (start : Nat) (names : List Path) :
    Except SystemError Site :=
  match site.make start names .directory with
  | .ok site => .ok site
  | .error e => if site.isDirectory start names then .ok site else .error e

/-- Makes the first of some directories, and if there is nothing to make it in, those that follow
it first. -/
def makeDirectories (site : Site) (start : Nat) :
    List (List Path) → Except SystemError Site
  | [] => .ok site
  | names :: above =>
    match site.ensureDirectory start names with
    | .error .notFound => do (← site.makeDirectories start above).ensureDirectory start names
    | made => made

/-- The front parts of a list, from the longest one to the empty one. -/
def fronts (names : List Path) : List (List Path) :=
  (List.range (names.length + 1)).map fun n => names.take (names.length - n)

/-- Puts an item at a path, and makes the directories above it. -/
def put (site : Site) (path : Path) (item : Item) : Except Refusal Site :=
  if path.any (· = 0) then .error .nulByte
  else
    let start := startOf path site.here
    let above := fronts ((names path).filter (· ≠ dot)).dropLast
    let done : Except SystemError Site := do
      match item with
      | .directory => site.makeDirectories start (names path :: above)
      | .file bytes => (← site.makeDirectories start above).writeFile path bytes
      | .link target => (← site.makeDirectories start above).makeLink path target item
      | .unreadable => (← site.makeDirectories start above).makeLink path dot item
      | .device => (← site.makeDirectories start above).makeLink path dot item
    done.mapError .system

end FileServer.Site
