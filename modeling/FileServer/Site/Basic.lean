import Std.Data.TreeMap
import FileServer.Content
import FileServer.Key
import FileServer.SystemError

/-!
# Sites

A site is a tree of files, as the disk workers see it: regular files, directories and symbolic
links. Whatever is in the tree is a node with a number. A directory knows the nodes in it by their
names, and every node knows the directory in which it stands.

`find` follows a path through the tree by the rules of the file system. A path is taken apart at its
slashes; an empty segment and `.` stay where they are, `..` goes up, and a name goes down. A link on
the way is replaced by what it points to, at most forty times. Only a directory can be gone through,
so a path that ends with a slash names nothing but a directory.

`load` is what a worker does with a path: the bytes of the file, or why there are none.
-/

namespace FileServer

open Std (TreeMap)

/-- What a node is. -/
inductive Site.Item where
  /-- A regular file. -/
  | file (bytes : Bytes)
  /-- A regular file of which every read fails. -/
  | unreadable
  /-- A directory. -/
  | directory
  /-- What opens like a file and is none, such as a device. -/
  | device
  /-- A symbolic link to a path. -/
  | link (target : Path)
deriving DecidableEq

/-- A node of the tree. -/
structure Site.Node where
  /-- What it is. -/
  item : Site.Item
  /-- The directory in which it stands; the root stands in itself. -/
  above : Nat
  /-- The nodes in it by their names, if it is a directory. -/
  entries : TreeMap Path Nat

/-- A directory that stands in another one, with some nodes in it. -/
def Site.Node.directory (above : Nat) (entries : List (String × Nat)) : Site.Node :=
  ⟨.directory, above, .ofList (entries.map fun (name, node) => (Text.encode name, node))⟩

/-- A tree of files, and the place in it where relative paths begin. -/
structure Site where
  /-- The nodes by their numbers. -/
  nodes : Array Site.Node
  /-- The directory in which relative paths begin. -/
  here : Nat

namespace Site

/-- The node at which absolute paths begin. -/
def root : Nat := 0

/-- A site of which the current directory is empty. Around it stands a little of what every host
has. The current directory is one of the temporary ones, which are made anew under a name that
nobody can guess: its name is missing above it, and no path goes down to it. -/
def empty : Site where
  nodes :=
    #[.directory root [("tmp", 1), ("dev", 3), ("etc", 4), ("proc", 5), ("usr", 6)],
      .directory root [],
      .directory 1 [],
      .directory root [("null", 7), ("zero", 8), ("random", 9), ("urandom", 10)],
      .directory root [],
      .directory root [],
      .directory root [],
      ⟨.device, 3, ∅⟩,
      ⟨.device, 3, ∅⟩,
      ⟨.device, 3, ∅⟩,
      ⟨.device, 3, ∅⟩]
  here := 2

/-- What a node is, if there is one of the number. -/
def item? (site : Site) (node : Nat) : Option Item := site.nodes[node]?.map Node.item

/-- The directory in which a node stands. -/
def above (site : Site) (node : Nat) : Nat := (site.nodes[node]?.map Node.above).getD root

/-- The node of a name in a directory. -/
def entry? (site : Site) (node : Nat) (name : Path) : Option Nat :=
  site.nodes[node]?.bind (·.entries[name]?)

/-- The segments of a path, where `segment` holds, last byte first, what has been read of the
current one. -/
def segmentsFrom (segment : Path) : Path → List Path
  | [] => [segment.reverse]
  | b :: bs =>
    if b = Path.separator then segment.reverse :: segmentsFrom [] bs
    else segmentsFrom (b :: segment) bs

/-- The segment that stays where it is. -/
def dot : Path := Text.encode "."

/-- The segment that goes up. -/
def dotDot : Path := Text.encode ".."

/-- The segments of a path, with `.` for the empty ones. -/
def segments (path : Path) : List Path :=
  (segmentsFrom [] path).map fun segment => if segment.isEmpty then dot else segment

/-- Whether a path begins at the root. -/
def isAbsolute (path : Path) : Bool := path.head? = some Path.separator

/-- The greatest length of a name. -/
def longestName : Nat := 255

/-- The greatest length of a path. -/
def longestPath : Nat := 4095

/-- How many links may be followed on the way. -/
def mostLinks : Nat := 40

/-- Where paths of a form begin: at the root, or in another directory. -/
def startOf (path : Path) (node : Nat) : Nat :=
  if isAbsolute path then root else node

/-- Follows segments from a node, with so many links still to be followed. Gives how many of them
are left, and the node. -/
def walk (site : Site) (links : Nat) (node : Nat) (segments : List Path) :
    Except SystemError (Nat × Nat) :=
  match segments with
  | [] => .ok (links, node)
  | segment :: rest =>
    if site.item? node ≠ some .directory then .error .notDirectory
    else if segment = dot then walk site links node rest
    else if segment = dotDot then walk site links (site.above node) rest
    else if longestName < segment.length then .error .nameTooLong
    else match site.entry? node segment with
      | none => .error .notFound
      | some next =>
        match site.item? next, links with
        | some (.link _), 0 => .error .tooManyLinks
        | some (.link target), links + 1 =>
          walk site links (startOf target node) (Site.segments target ++ rest)
        | _, links => walk site links next rest
termination_by (links, segments.length)

/-- What a path names. -/
def find (site : Site) (path : Path) : Option Item :=
  if path.isEmpty || longestPath < path.length || path.any (· = 0) then none
  else match site.walk mostLinks (startOf path site.here) (segments path) with
    | .ok (_, node) => site.item? node
    | .error _ => none

/-- Loads the file that a path names. -/
def load (site : Site) (path : Path) : Content :=
  match site.find path with
  | none => .failed .notFound
  | some .directory => .failed .metadata
  | some .device => .failed .metadata
  | some .unreadable => .failed .read
  | some (.file bytes) => .file bytes
  | some (.link _) => .failed .notFound

end Site

end FileServer
