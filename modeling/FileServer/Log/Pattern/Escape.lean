import FileServer.Log.Pattern.Switches
import FileServer.Text.Hexadecimal

/-!
# Characters and escapes of a pattern

A character stands for itself or is given by an escape: a letter for one of the control characters,
or a number. Other escapes stand for a class of characters or for a place in the text.

What may stand somewhere depends on the switches there. Patterns know the names and the cases of
ASCII characters only. So where characters are those of Unicode there are no classes of digits,
blanks and word characters, no ends of words, and nothing whose case could be ignored. Where they
are bytes, nothing may match a byte that is not of ASCII by itself, because the text that is matched
is not made of such bytes.
-/

namespace FileServer.Log.Pattern

/-- A character, by its number. -/
structure Literal where
  /-- The number. -/
  code : Nat
  /-- Whether two digits give the number, so that it can be that of a byte. -/
  isByte : Bool := false
deriving DecidableEq, Repr

/-- What an escape stands for. -/
inductive Escape where
  /-- A character. -/
  | literal (literal : Literal)
  /-- One of the classes of digits, blanks and word characters, or everything else. -/
  | group (complement : Bool)
  /-- One of the ends of the text. -/
  | textEnd
  /-- The end of a word, or somewhere else. -/
  | wordEnd
deriving DecidableEq, Repr

/-- Continues to read so many hexadecimal digits behind those whose value is `value`. Blanks between
them are left out like others. -/
def readHex (s : Switches) (value : Nat) : Nat → List Char → Option (Nat × List Char)
  | 0, cs => some (value, cs)
  | digits + 1, cs =>
    match s.skip cs with
    | [] => none
    | c :: cs =>
      (Text.Hexadecimal.digit? c).bind fun d => readHex s (16 * value + d) digits cs

/-- Reads the number of a character with so many hexadecimal digits. -/
def readCode (s : Switches) (digits : Nat) (cs : List Char) : Option (Escape × List Char) := do
  let (code, rest) ← readHex s 0 digits cs
  if code.isValidChar then some (.literal ⟨code, digits = 2⟩, rest) else none

/-- Reads an escape behind its backslash. What is no letter or digit of ASCII stands for itself. -/
def Escape.read (s : Switches) : List Char → Option (Escape × List Char)
  | [] => none
  | 'a' :: cs => some (.literal ⟨0x07, false⟩, cs)
  | 't' :: cs => some (.literal ⟨0x09, false⟩, cs)
  | 'n' :: cs => some (.literal ⟨0x0A, false⟩, cs)
  | 'v' :: cs => some (.literal ⟨0x0B, false⟩, cs)
  | 'f' :: cs => some (.literal ⟨0x0C, false⟩, cs)
  | 'r' :: cs => some (.literal ⟨0x0D, false⟩, cs)
  | 'x' :: cs => readCode s 2 cs
  | 'u' :: cs => readCode s 4 cs
  | 'U' :: cs => readCode s 8 cs
  | c :: cs =>
    if c = 'd' || c = 's' || c = 'w' then some (.group false, cs)
    else if c = 'D' || c = 'S' || c = 'W' then some (.group true, cs)
    else if c = 'A' || c = 'z' then some (.textEnd, cs)
    else if c = 'b' || c = 'B' || c = '<' || c = '>' then some (.wordEnd, cs)
    else if c.toNat < 0x80 && !c.isAlphanum then some (.literal ⟨c.toNat, false⟩, cs)
    else none

namespace Switches

/-- Whether a character may stand by itself. -/
def allowsLiteral (s : Switches) (literal : Literal) : Bool :=
  if s.unicode then !s.caseless else !literal.isByte || literal.code < 0x80

/-- Whether an escape may stand by itself. -/
def allows (s : Switches) : Escape → Bool
  | .literal literal => s.allowsLiteral literal
  | .group complement => !s.unicode && !complement
  | .textEnd => true
  | .wordEnd => !s.unicode

/-- Whether a character may stand in a class. -/
def allowsMember (s : Switches) (literal : Literal) : Bool :=
  if s.unicode then !s.caseless else literal.code < 0x80

/-- Whether a class with a name may stand in a class, or everything else. -/
def allowsNamed (s : Switches) (complement : Bool) : Bool :=
  if s.unicode then !s.caseless else !complement

end Switches

end FileServer.Log.Pattern
