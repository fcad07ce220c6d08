import FileServer.Text.Blank

/-!
# Switches of a pattern

What can be turned on and off inside a pattern: ignoring case, Unicode, and leaving out blanks and
comments. Some switches have a letter and make no difference to whether a pattern is one.
-/

namespace FileServer.Log.Pattern

/-- What is switched on at some place of a pattern. -/
structure Switches where
  /-- Case is ignored. -/
  caseless : Bool := false
  /-- Characters are those of Unicode, not bytes. -/
  unicode : Bool := true
  /-- Blanks and comments are left out. -/
  spaced : Bool := false
deriving DecidableEq, Repr

namespace Switches

/-- The letters of the switches. -/
def letters : List Char := "imsUuRx".toList

/-- Turns the switch of a letter on or off. Those that make no difference here are left out. -/
def turn (s : Switches) (letter : Char) (on : Bool) : Switches :=
  if letter = 'i' then { s with caseless := on }
  else if letter = 'u' then { s with unicode := on }
  else if letter = 'x' then { s with spaced := on }
  else s

/-- Reads switches up to the colon or the parenthesis that ends them, where `seen` holds what has
been read, last first, and `on` says whether they are turned on. Says also whether they begin a
group. No letter may come twice, nor the minus sign, behind which switches are turned off and
something has to stand. -/
def read (s : Switches) (seen : List Char) (on : Bool) :
    List Char → Option (Switches × Bool × List Char)
  | [] => none
  | ':' :: cs => if seen.head? = some '-' then none else some (s, true, cs)
  | ')' :: cs => if seen.isEmpty || seen.head? = some '-' then none else some (s, false, cs)
  | '-' :: cs => if seen.contains '-' then none else read s ('-' :: seen) false cs
  | c :: cs =>
    if seen.contains c || !letters.contains c then none
    else read (s.turn c on) (c :: seen) on cs

/-- A text without the blanks and comments at its beginning; a comment goes from a number sign to
the end of the line. -/
def withoutBlanks (inComment : Bool) : List Char → List Char
  | [] => []
  | c :: cs =>
    if inComment then withoutBlanks (c ≠ '\n') cs
    else if c = '#' then withoutBlanks true cs
    else if Text.isBlank c then withoutBlanks false cs
    else c :: cs

/-- Leaves out the blanks and comments at the beginning, if that is switched on. -/
def skip (s : Switches) (cs : List Char) : List Char :=
  if s.spaced then withoutBlanks false cs else cs

/-- The first character that is no blank. Of a comment only the number sign before it is passed
over. -/
def firstSign (inComment : Bool) : List Char → Option Char
  | [] => none
  | c :: cs =>
    if Text.isBlank c then firstSign inComment cs
    else if c = '#' && !inComment then firstSign true cs
    else some c

/-- Looks at what comes next without reading it. Where blanks are left out, the look goes past them,
and into a comment. -/
def peek? (s : Switches) (cs : List Char) : Option Char :=
  if s.spaced then (firstSign false cs).or cs.head? else cs.head?

end Switches

end FileServer.Log.Pattern
