import FileServer.Log.Pattern.Class
import FileServer.Text.Letter

/-!
# Patterns

A rule of the log may ask that the value of a field matches a pattern, a regular expression. Nothing
that this program reports is chosen by the value of a field, so all that counts of a pattern is
whether it is one: `isWellFormed`.

A pattern is a sequence of pieces. A piece is a character, a dot, a place (`^`, `$`), a class in
brackets, an escape, or a group in parentheses, and behind it may stand `?`, `*` and `+`, each
followed by another `?` or not; `|` separates alternatives. A group may have a name, and may begin
with switches, which then hold in it; switches alone in parentheses hold to the end of the group
around them. There are no repetitions with a count: a pattern ends at the first closing brace, so
that what an opening brace begins is never complete.

No pattern is higher than 250. A character has the height zero, and whatever is made of other things
is one higher than the highest of them: a repetition, a group, several pieces in sequence, several
alternatives.
-/

namespace FileServer.Log.Pattern

/-- One thing in a sequence. -/
structure Piece where
  /-- How high it is. -/
  height : Nat := 0
  /-- Whether it can be repeated. Switches cannot. -/
  isRepeatable : Bool := true
deriving DecidableEq, Repr

/-- What has been read since the beginning of a group. -/
structure Body where
  /-- The height of the alternatives before the last one, if there are any. -/
  alternatives : Option Nat := none
  /-- The pieces of the last alternative, the last one first. -/
  pieces : List Piece := []
deriving DecidableEq, Repr

namespace Body

/-- The height of the last alternative. -/
def sequenceHeight (body : Body) : Nat :=
  (body.pieces.foldl (fun row piece => row.add piece.height) ({} : Row)).whole

/-- The height of all that has been read. -/
def height (body : Body) : Nat :=
  match body.alternatives with
  | none => body.sequenceHeight
  | some before => max before body.sequenceHeight + 1

/-- Behind one more piece. -/
def add (body : Body) (piece : Piece) : Body := { body with pieces := piece :: body.pieces }

/-- Behind the sign that separates alternatives. -/
def separate (body : Body) : Body :=
  { alternatives := some (max (body.alternatives.getD 0) body.sequenceHeight) }

/-- Behind a sign that repeats the last piece, if there is one that can be repeated. -/
def repeated (body : Body) : Option Body :=
  match body.pieces with
  | ⟨height, true⟩ :: pieces => some { body with pieces := ⟨height + 1, true⟩ :: pieces }
  | _ => none

end Body

/-! ## Groups -/

/-- Whether a character may begin the name of a group. -/
def mayBeginName (c : Char) : Bool := c = '_' || Text.isLetter c

/-- Whether a character may stand in the name of a group. -/
def mayContinueName (c : Char) : Bool :=
  c = '_' || c = '.' || c = '[' || c = ']' || Text.isLetterOrNumeral c

/-- Where a pattern has been read up to. -/
structure Reader where
  /-- What is switched on. -/
  switches : Switches := {}
  /-- What has been read since the last group began that is open. -/
  body : Body := {}
  /-- What was switched on before each of the open groups, and what had been read, the innermost
  first. -/
  outer : List (Switches × Body) := []
  /-- The names of the groups so far. -/
  names : List (List Char) := []

namespace Reader

/-- A group begins in which these switches hold. -/
def enter (r : Reader) (s : Switches) : Reader :=
  { r with switches := s, body := {}, outer := (r.switches, r.body) :: r.outer }

/-- The last open group ends. What was switched on in it is so no longer. -/
def leave (r : Reader) : Option Reader :=
  match r.outer with
  | [] => none
  | (switches, body) :: outer =>
    some { r with switches, body := body.add { height := r.body.height + 1 }, outer }

/-- Behind one more piece. -/
def add (r : Reader) (piece : Piece) : Reader := { r with body := r.body.add piece }

/-- A group with a name begins, if it may have it. -/
def enterNamed (r : Reader) (cs : List Char) : Option (Reader × List Char) :=
  let name := cs.takeWhile (· ≠ '>')
  match name, cs.drop name.length with
  | c :: rest, _ :: behind =>
    if mayBeginName c && rest.all mayContinueName && !r.names.contains name then
      some ({ r.enter r.switches with names := name :: r.names }, behind)
    else none
  | _, _ => none

/-- Reads behind an opening parenthesis: the beginning of a group, or switches alone. -/
def openGroup (r : Reader) (cs : List Char) : Option (Reader × List Char) :=
  match r.switches.skip cs with
  | '?' :: 'P' :: '<' :: cs => r.enterNamed cs
  | '?' :: '<' :: cs => r.enterNamed cs
  | '?' :: cs => do
    let (s, isGroup, rest) ← r.switches.read [] true cs
    if isGroup then some (r.enter s, rest)
    else some ({ r.add { isRepeatable := false } with switches := s }, rest)
  | cs => some (r.enter r.switches, cs)

/-- Reads a class behind its bracket, with so many steps at most. -/
def readClass (r : Reader) (steps : Nat) (cs : List Char) : Option (Reader × List Char) := do
  let (start, rest) ← readClassStart r.switches steps cs
  let (height, rest) ← Pattern.readClass r.switches steps start [] rest
  return (r.add { height }, rest)

/-- Behind a sign that repeats the last piece. The sign may be followed by another one. -/
def readRepeated (r : Reader) (cs : List Char) : Option (Reader × List Char) := do
  let body ← r.body.repeated
  let rest := match cs with
    | '?' :: rest => rest
    | _ => cs
  return ({ r with body }, rest)

/-- Behind one more piece of no height, if it may stand here. -/
def addIf (r : Reader) (allowed : Bool) (cs : List Char) : Option (Reader × List Char) :=
  if allowed then some (r.add {}, cs) else none

/-- Reads whatever begins with a character, with so many steps at most if that is a class. -/
def step (r : Reader) (steps : Nat) (c : Char) (cs : List Char) : Option (Reader × List Char) :=
  if c = '(' then r.openGroup cs
  else if c = ')' then r.leave.map fun r => (r, cs)
  else if c = '|' then some ({ r with body := r.body.separate }, cs)
  else if c = '[' then r.readClass steps cs
  else if c = '?' || c = '*' || c = '+' then r.readRepeated cs
  else if c = '{' then none
  else if c = '\\' then do
    let (escape, rest) ← Escape.read r.switches cs
    r.addIf (r.switches.allows escape) rest
  else if c = '.' then r.addIf r.switches.unicode cs
  else if c = '^' || c = '$' then r.addIf true cs
  else r.addIf (r.switches.allowsLiteral ⟨c.toNat, false⟩) cs

/-- Reads the rest of a pattern, with so many steps at most, and gives the height of the whole. -/
def run : Nat → Reader → List Char → Option Nat
  | 0, _, _ => none
  | steps + 1, r, cs =>
    match r.switches.skip cs with
    | [] => if r.outer.isEmpty then some r.body.height else none
    | c :: cs => (r.step steps c cs).bind fun (r, rest) => run steps r rest

end Reader

/-- The height of a pattern, if a text is one. Every step reads a character at least. -/
def height? (text : List Char) : Option Nat := ({} : Reader).run (text.length + 1) text

/-- The greatest height of a pattern. -/
def greatestHeight : Nat := 250

/-- Whether a text is a pattern that is not too high. -/
def isWellFormed (text : List Char) : Bool := (height? text).any (· ≤ greatestHeight)

example : (["", "x", "]", "a|b", "(a)*?", "[a-z&&[^m]]", "(?i-u:é)", "(?P<n>x)", "(?i)[^&&]"].all
    fun text => isWellFormed text.toList) = true := by decide +kernel
example : (["(", ")", "*", "[", "[z-a]", "(?i)a", "\\d", "\\1", "(?)", "x\x7b2"].any fun text =>
    isWellFormed text.toList) = false := by decide +kernel
example : height? "(a|bc)*[d[e]&&f]".toList = some 5 := by decide +kernel

end FileServer.Log.Pattern
