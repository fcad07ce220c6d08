import FileServer.Text.Utf8

/-!
# Cutting text at bytes

A place in a text may be given by the number of UTF-8 bytes before it. Not every number is a place:
it may fall between the bytes of one character, or behind the end. `cut?` gives what lies between
two places, if both are.
-/

namespace FileServer.Text

/-- How many bytes a list of characters takes. -/
def size (cs : List Char) : Nat := (encodeChars cs).length

/-- What follows the first `n` bytes, if they end with a character. -/
def dropBytes? : Nat → List Char → Option (List Char)
  | 0, cs => some cs
  | _ + 1, [] => none
  | n + 1, c :: cs =>
    if c.utf8Size ≤ n + 1 then dropBytes? (n + 1 - c.utf8Size) cs else none

/-- The first `n` bytes as characters, if they end with a character. -/
def takeBytes? : Nat → List Char → Option (List Char)
  | 0, _ => some []
  | _ + 1, [] => none
  | n + 1, c :: cs =>
    if c.utf8Size ≤ n + 1 then (takeBytes? (n + 1 - c.utf8Size) cs).map (c :: ·) else none

/-- What lies between two places of a text that are given in bytes, if they are places. -/
def cut? (cs : List Char) (start stop : Nat) : Option (List Char) := do
  takeBytes? (stop - start) (← dropBytes? start cs)

end FileServer.Text
