/-!
# Decimal numbers

Numbers are written with the fewest decimal digits (`print`). They are read in two ways: a natural
number may be preceded by a plus sign (`readNat`), an integer by a plus or a minus sign
(`readInt`). Leading zeros are allowed, blanks and separators are not, and a number beyond the
given bound is refused.
-/

namespace FileServer.Text.Decimal

/-- The value of a decimal digit. -/
def digit? (c : Char) : Option Nat :=
  if '0' ≤ c ∧ c ≤ '9' then some (c.toNat - '0'.toNat) else none

/-- Continues to read digits behind those whose value is `value`, as long as that is at most
`bound`. -/
def readDigits (bound value : Nat) : List Char → Option Nat
  | [] => some value
  | c :: cs => (digit? c).bind fun d =>
    if bound < 10 * value + d then none else readDigits bound (10 * value + d) cs

/-- The value of one or more digits that is at most `bound`. -/
def readBounded (bound : Nat) : List Char → Option Nat
  | [] => none
  | c :: cs => readDigits bound 0 (c :: cs)

/-- Reads a natural number that is at most `bound`. -/
def readNat (bound : Nat) : List Char → Option Nat
  | '+' :: cs => readBounded bound cs
  | cs => readBounded bound cs

/-- Reads an integer from `low` to `high`. -/
def readInt (low high : Nat) : List Char → Option Int
  | '-' :: cs => (readBounded low cs).map fun n => -(n : Int)
  | '+' :: cs => (readBounded high cs).map fun n => (n : Int)
  | cs => (readBounded high cs).map fun n => (n : Int)

/-- The decimal digits of a number. -/
def print (n : Nat) : String :=
  String.ofList (Nat.toDigits 10 n)

/-- The largest number of 64 bits. -/
def max64 : Nat := UInt64.size - 1

example : readNat max64 "+007".toList = some 7 := by decide
example : readNat max64 "".toList = none ∧ readNat max64 "+".toList = none := by decide
example : readNat 65535 "65536".toList = none ∧ readNat 65535 "65535".toList = some 65535 := by
  decide
example : readInt 5 5 "-0".toList = some 0 ∧ readNat 5 "-0".toList = none := by decide

end FileServer.Text.Decimal
