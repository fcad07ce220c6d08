/-!
# Blank characters

The characters with the Unicode property `White_Space`, and the two things a request line needs
them for: cutting them off both ends of a text (`trim`) and splitting a text into the words
between them (`words`). The library's own character class knows only four of them, so the table is
written out here.
-/

namespace FileServer.Text

/-- The twenty-five characters with the property `White_Space`: the control characters `09` to
`0D`, the space, the next-line and no-break characters of Latin-1, and the blanks of the general
punctuation blocks. -/
def isBlank (c : Char) : Bool :=
  let n := c.toNat
  (0x09 ≤ n && n ≤ 0x0D) || n = 0x20 || n = 0x85 || n = 0xA0 || n = 0x1680
    || (0x2000 ≤ n && n ≤ 0x200A) || n = 0x2028 || n = 0x2029 || n = 0x202F || n = 0x205F
    || n = 0x3000

/-- Without the blanks at its beginning. -/
def trimStart (cs : List Char) : List Char :=
  cs.dropWhile isBlank

/-- Without the blanks at its end. -/
def trimEnd (cs : List Char) : List Char :=
  (cs.reverse.dropWhile isBlank).reverse

/-- Without the blanks at either end. -/
def trim (cs : List Char) : List Char :=
  trimStart (trimEnd cs)

/-- The words of `cs`, where `word` holds, last character first, the part of the current word that
has been read. -/
def wordsFrom (word : List Char) : List Char → List (List Char)
  | [] => if word.isEmpty then [] else [word.reverse]
  | c :: cs =>
    if isBlank c then
      if word.isEmpty then wordsFrom [] cs else word.reverse :: wordsFrom [] cs
    else wordsFrom (c :: word) cs

/-- The longest stretches of a text that hold no blank, in order. -/
def words (cs : List Char) : List (List Char) :=
  wordsFrom [] cs

/-- What the library calls white space is blank. -/
theorem isBlank_of_isWhitespace {c : Char} (h : c.isWhitespace = true) : isBlank c = true := by
  simp only [Char.isWhitespace, Bool.or_eq_true, decide_eq_true_eq] at h
  rcases h with ((rfl | rfl) | rfl) | rfl <;> decide

end FileServer.Text
