/-!
# Log entries

What a server reports while it runs. An entry has a level, the name of the part of the program that
it comes from, and a text; this text is the only field it carries beside them. It is shown with the
characters that could control a terminal written as numbers.
-/

namespace FileServer.Log

/-- How urgent an entry is. -/
inductive Level where
  /-- Something has failed. -/
  | error
  /-- Something is not as it should be. -/
  | warn
  /-- Something has happened. -/
  | info
deriving DecidableEq, Repr

namespace Level

/-- The number of a level: zero shows nothing, five shows everything. -/
def number : Level → Nat
  | error => 1
  | warn => 2
  | info => 3

/-- The name of a level. -/
def name : Level → String
  | error => "ERROR"
  | warn => "WARN"
  | info => "INFO"

end Level

/-- Something that is reported. -/
structure Entry where
  /-- How urgent it is. -/
  level : Level
  /-- The part of the program that it comes from. -/
  origin : String
  /-- What is reported. -/
  text : String
deriving DecidableEq, Repr

namespace Entry

/-- The name of the field that holds the text of an entry. -/
def fieldName : List Char := "message".toList

/-- A character as it is shown. The escape, the bell and their like are written by their numbers,
and so are the control characters beyond ASCII. -/
def shownChar (c : Char) : List Char :=
  let digits := Nat.toDigits 16 c.toNat
  if c = '\x07' || c = '\x08' || c = '\x0c' then '\\' :: 'x' :: '0' :: digits
  else if c = '\x1b' || c = '\x7f' then '\\' :: 'x' :: digits
  else if 0x80 ≤ c.toNat && c.toNat ≤ 0x9F then '\\' :: 'u' :: '{' :: digits ++ ['}']
  else [c]

/-- An entry as it is shown. -/
def line (entry : Entry) : String :=
  entry.level.name ++ " " ++ entry.origin ++ ": "
    ++ String.ofList (entry.text.toList.flatMap shownChar)

end Entry

end FileServer.Log
