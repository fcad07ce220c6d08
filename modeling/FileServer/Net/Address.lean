import FileServer.Text.Decimal
import FileServer.Text.Hexadecimal

/-!
# Network addresses

Addresses of version 4 and 6, and the endpoints made of an address and a port, with their text
forms.

An address of version 4 is written as four numbers without leading zeros. One of version 6 is
written in lower case, the first of its longest runs of two or more zero groups shortened to `::`,
and an address that stands for one of version 4 shows that one at its end. Reading accepts more: any
run of groups may be left out, capital letters and leading zeros are allowed, and the last two
groups may be an address of version 4 always. In an endpoint an address of version 6 stands in
brackets and may carry the number of a scope.
-/

namespace FileServer.Net

/-- A network address. -/
inductive Address where
  /-- An address of version 4: four bytes. -/
  | v4 (a b c d : UInt8)
  /-- An address of version 6: eight groups of sixteen bits. -/
  | v6 (groups : Vector UInt16 8)
deriving DecidableEq

/-- An address, a port, and for version 6 the number of a scope, zero if there is none. -/
structure Endpoint where
  /-- The host. -/
  address : Address
  /-- The service on the host. -/
  port : UInt16
  /-- The scope of an address of version 6. -/
  scope : UInt32 := 0
deriving DecidableEq

namespace Address

/-- The digits of a number to base 16, in lower case. -/
def hex (n : UInt16) : String := String.ofList (Nat.toDigits 16 n.toNat)

/-- Texts with a separator between them. -/
def joined (separator : String) (parts : List String) : String :=
  separator.intercalate parts

/-- The longest run of zeros that begins at the front of the groups. -/
def zerosAtFront (groups : List UInt16) : Nat :=
  (groups.takeWhile (· = 0)).length

/-- Where the longest run of zero groups begins, and its length; the first of several. -/
def longestZeros : List UInt16 → Nat × Nat
  | [] => (0, 0)
  | group :: groups =>
    let here := zerosAtFront (group :: groups)
    let (start, length) := longestZeros groups
    if length ≤ here then (0, here) else (start + 1, length)

/-- The text of four bytes. -/
def printV4 (a b c d : UInt8) : String :=
  joined "." ([a, b, c, d].map fun byte => Text.Decimal.print byte.toNat)

/-- The upper and the lower byte of a group. -/
def bytesOf (group : UInt16) : UInt8 × UInt8 := ((group >>> 8).toUInt8, group.toUInt8)

/-- The text of eight groups. -/
def printV6 (groups : List UInt16) : String :=
  match groups with
  | [0, 0, 0, 0, 0, 0xFFFF, upper, lower] =>
    let (a, b) := bytesOf upper
    let (c, d) := bytesOf lower
    "::ffff:" ++ printV4 a b c d
  | _ =>
    let (start, length) := longestZeros groups
    if 1 < length then
      joined ":" ((groups.take start).map hex) ++ "::"
        ++ joined ":" ((groups.drop (start + length)).map hex)
    else joined ":" (groups.map hex)

/-- An address of version 6 that stands for one of version 4, as that one. -/
def unmapped : Address → Address
  | v4 a b c d => v4 a b c d
  | v6 groups =>
    match groups.toList with
    | [0, 0, 0, 0, 0, 0xFFFF, upper, lower] =>
      let (a, b) := bytesOf upper
      let (c, d) := bytesOf lower
      v4 a b c d
    | _ => v6 groups

/-- The address of version 4 that stands for every address of the host. -/
def any : Address := v4 0 0 0 0

/-- The address of version 6 that stands for every address of the host, of either version. -/
def anyV6 : Address := v6 (.replicate 8 0)

/-- Whether sockets at two addresses can be reached at one. -/
def overlaps (a b : Address) : Bool :=
  let a := a.unmapped
  let b := b.unmapped
  match a, b with
  | v4 .., v4 .. => a = b || a = any || b = any
  | _, _ => a = b || a = anyV6 || b = anyV6

/-- The text of an address. -/
def print : Address → String
  | v4 a b c d => printV4 a b c d
  | v6 groups => printV6 groups.toList

/-- The value of a digit to a base of at most 16. -/
def digit? (base : Nat) (c : Char) : Option Nat :=
  (Text.Hexadecimal.digit? c).filter (· < base)

/-- Reads all digits at the front of a text as a number up to `bound`. There must be one digit at
least and `most` digits at most, and unless `padded` no number of several digits begins with a
zero. Values beyond the bound are not told apart. -/
def readNumber (base : Nat) (most : Option Nat) (padded : Bool) (bound : Nat) (cs : List Char) :
    Option (Nat × List Char) :=
  let digits := cs.takeWhile fun c => (digit? base c).isSome
  let add (n d : Nat) : Nat := min (base * n + d) (bound + 1)
  let value := (digits.filterMap (digit? base)).foldl add 0
  if digits.isEmpty then none
  else if most.any (· < digits.length) then none
  else if !padded && digits.head? = some '0' && 1 < digits.length then none
  else if bound < value then none
  else some (value, cs.dropWhile fun c => (digit? base c).isSome)

/-- Reads one given character. -/
def readChar (expected : Char) : List Char → Option (List Char)
  | c :: cs => if c = expected then some cs else none
  | [] => none

/-- Reads one byte of an address of version 4. -/
def readByte (cs : List Char) : Option (UInt8 × List Char) :=
  (readNumber 10 (some 3) false 255 cs).map fun (n, cs) => (UInt8.ofNat n, cs)

/-- Reads an address of version 4 at the front of a text. -/
def readV4 (cs : List Char) : Option ((UInt8 × UInt8 × UInt8 × UInt8) × List Char) := do
  let (a, cs) ← readByte cs
  let (b, cs) ← readByte (← readChar '.' cs)
  let (c, cs) ← readByte (← readChar '.' cs)
  let (d, cs) ← readByte (← readChar '.' cs)
  return ((a, b, c, d), cs)

/-- The group made of an upper and a lower byte. -/
def groupOf (upper lower : UInt8) : UInt16 := upper.toUInt16 <<< 8 ||| lower.toUInt16

/-- Reads at most `limit` groups, with colons between them and, unless it is the first of the
address, before them. The last two may be written as an address of version 4; the flag says whether
they are. What follows the groups is left unread. -/
def readGroups : Nat → Bool → List Char → List UInt16 × Bool × List Char
  | 0, _, cs => ([], false, cs)
  | limit + 1, first, cs =>
    match if first then some cs else readChar ':' cs with
    | none => ([], false, cs)
    | some behind =>
      match if 0 < limit then readV4 behind else none with
      | some ((a, b, c, d), rest) => ([groupOf a b, groupOf c d], true, rest)
      | none =>
        match readNumber 16 (some 4) true 0xFFFF behind with
        | none => ([], false, cs)
        | some (group, rest) =>
          let (groups, embedded, rest) := readGroups limit false rest
          (UInt16.ofNat group :: groups, embedded, rest)

/-- Eight groups, if there are eight. -/
def ofGroups? (groups : List UInt16) : Option Address :=
  if h : groups.toArray.size = 8 then some (.v6 ⟨groups.toArray, h⟩) else none

/-- Reads an address of version 6 at the front of a text: eight groups, or fewer with `::` in the
place of at least one. -/
def readV6 (cs : List Char) : Option (Address × List Char) := do
  let (front, embedded, rest) := readGroups 8 true cs
  if front.length = 8 then
    return (← ofGroups? front, rest)
  else if embedded then none
  else
    let rest ← readChar ':' rest
    let rest ← readChar ':' rest
    let (back, _, rest) := readGroups (7 - front.length) true rest
    let zeros := List.replicate (8 - front.length - back.length) 0
    return (← ofGroups? (front ++ zeros ++ back), rest)

/-- Reads an address at the front of a text. -/
def read (cs : List Char) : Option (Address × List Char) :=
  match readV4 cs with
  | some ((a, b, c, d), rest) => some (.v4 a b c d, rest)
  | none => readV6 cs

/-- The address that a text is. -/
def parse (text : String) : Option Address :=
  match read text.toList with
  | some (address, []) => some address
  | _ => none

end Address

namespace Endpoint

/-- The text of an endpoint. -/
def print (endpoint : Endpoint) : String :=
  let host := match endpoint.address with
    | .v4 a b c d => Address.printV4 a b c d
    | .v6 groups =>
      "[" ++ Address.printV6 groups.toList
        ++ (if endpoint.scope = 0 then "" else "%" ++ Text.Decimal.print endpoint.scope.toNat)
        ++ "]"
  host ++ ":" ++ Text.Decimal.print endpoint.port.toNat

/-- Reads a colon and a port at the end of a text. -/
def readPort (cs : List Char) : Option UInt16 := do
  let cs ← Address.readChar ':' cs
  match ← Address.readNumber 10 none true 0xFFFF cs with
  | (port, []) => return UInt16.ofNat port
  | _ => none

/-- Reads the scope behind an address of version 6, zero if there is none. -/
def readScope (cs : List Char) : UInt32 × List Char :=
  match (Address.readChar '%' cs).bind (Address.readNumber 10 none true 0xFFFFFFFF) with
  | some (scope, rest) => (UInt32.ofNat scope, rest)
  | none => (0, cs)

/-- The endpoint that a text is. -/
def parse (text : String) : Option Endpoint :=
  match Address.readV4 text.toList with
  | some ((a, b, c, d), rest) => (readPort rest).map fun port => ⟨.v4 a b c d, port, 0⟩
  | none => do
    let cs ← Address.readChar '[' text.toList
    let (address, rest) ← Address.readV6 cs
    let (scope, rest) := readScope rest
    let rest ← Address.readChar ']' rest
    let port ← readPort rest
    return ⟨address, port, scope⟩

end Endpoint

end FileServer.Net
