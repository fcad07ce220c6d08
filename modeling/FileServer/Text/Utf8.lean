/-!
# Text as bytes, and bytes as text

A request target arrives as bytes and is handled as text; a serving root is a path, which is bytes
that need not be text at all. This file holds the two conversions. `encode` writes every character
as its one to four UTF-8 bytes. `decode` reads any byte sequence: wherever the bytes are not UTF-8,
the longest stretch that begins a character but cannot be completed becomes one replacement
character, so that reading never fails and never loses its place.

The rule for the stretch is the one of the Unicode standard for "maximal subparts": after the
leading byte, each further byte is taken while it can still belong to a character.
-/

namespace FileServer

/-- A sequence of bytes: what a socket carries, a file holds, a path is. -/
abbrev Bytes := List UInt8

namespace Text

/-- The UTF-8 bytes of a list of characters. -/
def encodeChars (cs : List Char) : Bytes :=
  cs.flatMap String.utf8EncodeChar

/-- The UTF-8 bytes of a text. -/
def encode (s : String) : Bytes :=
  encodeChars s.toList

/-- What stands for bytes that are no character. -/
def replacement : Char := '\uFFFD'

/-- Bytes `80` to `BF` continue a character and never begin one. -/
def isTail (b : UInt8) : Bool := 0x80 ≤ b && b ≤ 0xBF

/-- The bytes that may follow a leading byte of three or four. Four leading bytes narrow the range:
`E0` and `F0` leave out spellings that are too long, `ED` leaves out the surrogates and `F4` what
lies beyond the last code point. -/
def isSecond (lead b : UInt8) : Bool :=
  if lead = 0xE0 then 0xA0 ≤ b && b ≤ 0xBF
  else if lead = 0xED then 0x80 ≤ b && b ≤ 0x9F
  else if lead = 0xF0 then 0x90 ≤ b && b ≤ 0xBF
  else if lead = 0xF4 then 0x80 ≤ b && b ≤ 0x8F
  else isTail b

/-- The six payload bits of a continuing byte. -/
def tailBits (b : UInt8) : Nat := b.toNat % 0x40

/-- A character of two bytes whose leading byte is `lead`, with the bytes used after it. -/
def decodeTwo (lead : UInt8) : Bytes → Char × Nat
  | b :: _ =>
    if isTail b then (Char.ofNat (lead.toNat % 0x20 * 0x40 + tailBits b), 1) else (replacement, 0)
  | [] => (replacement, 0)

/-- A character of three bytes whose leading byte is `lead`, with the bytes used after it. -/
def decodeThree (lead : UInt8) : Bytes → Char × Nat
  | b :: c :: _ =>
    if isSecond lead b then
      if isTail c then
        (Char.ofNat (lead.toNat % 0x10 * 0x1000 + tailBits b * 0x40 + tailBits c), 2)
      else (replacement, 1)
    else (replacement, 0)
  | [b] => (replacement, if isSecond lead b then 1 else 0)
  | [] => (replacement, 0)

/-- A character of four bytes whose leading byte is `lead`, with the bytes used after it. -/
def decodeFour (lead : UInt8) : Bytes → Char × Nat
  | b :: c :: d :: _ =>
    if isSecond lead b then
      if isTail c then
        if isTail d then
          (Char.ofNat (lead.toNat % 0x08 * 0x40000 + tailBits b * 0x1000 + tailBits c * 0x40
            + tailBits d), 3)
        else (replacement, 2)
      else (replacement, 1)
    else (replacement, 0)
  | [b, c] => (replacement, if isSecond lead b then if isTail c then 2 else 1 else 0)
  | [b] => (replacement, if isSecond lead b then 1 else 0)
  | [] => (replacement, 0)

/-- The character that begins with the byte `lead`, followed by `rest`, and how many bytes of
`rest` belong to it. A byte that begins no character is one replacement character by itself. -/
def decodeFirst (lead : UInt8) (rest : Bytes) : Char × Nat :=
  if lead < 0x80 then (Char.ofNat lead.toNat, 0)
  else if 0xC2 ≤ lead && lead ≤ 0xDF then decodeTwo lead rest
  else if 0xE0 ≤ lead && lead ≤ 0xEF then decodeThree lead rest
  else if 0xF0 ≤ lead && lead ≤ 0xF4 then decodeFour lead rest
  else (replacement, 0)

/-- The characters of a byte sequence, with replacement characters where it is not UTF-8. -/
def decodeChars : Bytes → List Char
  | [] => []
  | lead :: rest =>
    (decodeFirst lead rest).1 :: decodeChars (rest.drop (decodeFirst lead rest).2)
termination_by bytes => bytes.length
decreasing_by simp only [List.length_drop, List.length_cons]; omega

/-- The text of a byte sequence, with replacement characters where it is not UTF-8. -/
def decode (bytes : Bytes) : String :=
  String.ofList (decodeChars bytes)

/-- No characters take no bytes. -/
@[simp] theorem encodeChars_nil : encodeChars [] = [] := rfl

/-- The bytes of the first character come first. -/
@[simp] theorem encodeChars_cons (c : Char) (cs : List Char) :
    encodeChars (c :: cs) = String.utf8EncodeChar c ++ encodeChars cs := rfl

/-- Texts are encoded part by part. -/
@[simp] theorem encodeChars_append (cs ds : List Char) :
    encodeChars (cs ++ ds) = encodeChars cs ++ encodeChars ds := by
  simp [encodeChars]

/-- No bytes are no characters. -/
@[simp] theorem decodeChars_nil : decodeChars [] = [] := by
  rw [decodeChars]

/-- The first character is decoded first, and the rest behind its bytes. -/
theorem decodeChars_cons (lead : UInt8) (rest : Bytes) :
    decodeChars (lead :: rest)
      = (decodeFirst lead rest).1 :: decodeChars (rest.drop (decodeFirst lead rest).2) := by
  rw [decodeChars]

/-- The characters of a decoded text. -/
@[simp] theorem toList_decode (bytes : Bytes) : (decode bytes).toList = decodeChars bytes := by
  simp [decode]

/-- A byte below `80` is the character of that number. -/
theorem decodeChars_cons_ascii {b : UInt8} (h : b < 0x80) (rest : Bytes) :
    decodeChars (b :: rest) = Char.ofNat b.toNat :: decodeChars rest := by
  simp [decodeChars_cons, decodeFirst, h]

end Text

end FileServer
