import FileServer.Log.Pattern.Escape

/-!
# Classes of a pattern

A class stands in brackets and matches one character: a member of it, or one that is none. Members
are characters, ranges of them, classes with a name (`[:alpha:]`), escapes and other classes; a
doubled sign between members combines the classes on its two sides.

A class is read only to find its end and its height. A member that is no class has the height zero;
a class is one higher than what is in it, and so are several members side by side, and two classes
that are combined.
-/

namespace FileServer.Log.Pattern

/-- Things that stand side by side. -/
structure Row where
  /-- How many there are. -/
  count : Nat := 0
  /-- The height of the highest. -/
  height : Nat := 0
deriving DecidableEq, Repr

namespace Row

/-- One more thing of a height. -/
def add (row : Row) (height : Nat) : Row := ⟨row.count + 1, max row.height height⟩

/-- The height of all together. -/
def whole (row : Row) : Nat := if row.count ≤ 1 then row.height else row.height + 1

end Row

/-- A class that has been read up to somewhere. -/
structure OpenClass where
  /-- The height of what stands before the last doubled sign, if there was one. -/
  before : Option Nat := none
  /-- The members since then. -/
  members : Row := {}
deriving DecidableEq, Repr

namespace OpenClass

/-- The height of what is in the class. -/
def height (c : OpenClass) : Nat :=
  match c.before with
  | none => c.members.whole
  | some before => max before c.members.whole + 1

/-- Behind one more member of a height. -/
def add (c : OpenClass) (height : Nat) : OpenClass := { c with members := c.members.add height }

/-- Behind a doubled sign. -/
def combine (c : OpenClass) : OpenClass := { before := some c.height }

end OpenClass

/-- The names of the classes of ASCII characters. -/
def classNames : List (List Char) :=
  ["alnum", "alpha", "ascii", "blank", "cntrl", "digit", "graph", "lower", "print", "punct",
   "space", "upper", "word", "xdigit"].map String.toList

/-- Reads the name of a class, with its colons, behind the bracket before it. Says whether
everything else is meant. -/
def readNamedClass (cs : List Char) : Option (Bool × List Char) :=
  let named (complement : Bool) (cs : List Char) :=
    let name := cs.takeWhile (· ≠ ':')
    match cs.drop name.length with
    | ':' :: ']' :: rest => if classNames.contains name then some (complement, rest) else none
    | _ => none
  match cs with
  | ':' :: '^' :: cs => named true cs
  | ':' :: cs => named false cs
  | _ => none

/-- Reads a member of a class, and gives the number of the character if it is one. -/
def readMember (s : Switches) : List Char → Option (Option Nat × List Char)
  | [] => none
  | '\\' :: cs => do
    match ← Escape.read s cs with
    | (.literal literal, rest) =>
      if s.allowsMember literal then some (some literal.code, rest) else none
    | (.group complement, rest) => if s.unicode || complement then none else some (none, rest)
    | (.textEnd, _) => none
    | (.wordEnd, _) => none
  | c :: cs => if s.allowsMember ⟨c.toNat, false⟩ then some (some c.toNat, cs) else none

/-- Reads a member of a class or a range of them. A minus sign before the end of the class or
another minus sign makes no range. -/
def readRange (s : Switches) (cs : List Char) : Option (List Char) := do
  let (first, rest) ← readMember s cs
  match s.skip rest with
  | '-' :: behind =>
    if s.peek? behind = some ']' || s.peek? behind = some '-' then some ('-' :: behind)
    else
      let (last, rest) ← readMember s (s.skip behind)
      let low ← first
      let high ← last
      if low ≤ high then some rest else none
  | rest => some rest

/-- Reads the minus signs at the beginning of a class, which stand for themselves. There are
`most` of them at most. -/
def readSigns (s : Switches) (c : OpenClass) : Nat → List Char → OpenClass × List Char
  | most + 1, '-' :: cs => readSigns s (c.add 0) most (s.skip cs)
  | _, cs => (c, cs)

/-- Reads the beginning of a class behind its bracket: the sign for everything else, and what stands
for itself as the first of the members only, a closing bracket or minus signs, of which there are
`most` at most. Like other characters they have to be allowed. -/
def readClassStart (s : Switches) (most : Nat) (cs : List Char) :
    Option (OpenClass × List Char) :=
  let members (cs : List Char) :=
    let (c, rest) :=
      match cs with
      | ']' :: rest => (OpenClass.add {} 0, rest)
      | cs => readSigns s {} most cs
    if c.members.count = 0 || s.allowsMember ⟨']'.toNat, false⟩ then some (c, rest) else none
  match s.skip cs with
  | '^' :: cs => if s.unicode then members (s.skip cs) else none
  | cs => members cs

/-- Reads a class from its members on, inside the classes `outer`, the innermost first, with so many
steps at most. Gives its height. -/
def readClass (s : Switches) :
    Nat → OpenClass → List OpenClass → List Char → Option (Nat × List Char)
  | 0, _, _, _ => none
  | steps + 1, c, outer, cs =>
    match s.skip cs with
    | [] => none
    | '[' :: cs =>
      match readNamedClass cs with
      | some (complement, rest) =>
        if s.allowsNamed complement then readClass s steps (c.add 0) outer rest else none
      | none => do
        let (inner, rest) ← readClassStart s steps cs
        readClass s steps inner (c :: outer) rest
    | ']' :: cs =>
      match outer with
      | [] => some (c.height + 1, cs)
      | around :: outer => readClass s steps (around.add (c.height + 1)) outer cs
    | '&' :: '&' :: cs => readClass s steps c.combine outer cs
    | '-' :: '-' :: cs => readClass s steps c.combine outer cs
    | '~' :: '~' :: cs => readClass s steps c.combine outer cs
    | cs => (readRange s cs).bind (readClass s steps (c.add 0) outer)

end FileServer.Log.Pattern
