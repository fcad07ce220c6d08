import FileServer.Log.Basic
import FileServer.Log.Pattern.Basic
import FileServer.Text.Cut
import FileServer.Text.Decimal

/-!
# Rules of the log

A rule gives the least urgent level that is shown of some entries: those from the parts of the
program whose names begin with a given text, and, if the rule names a field, those that have it.

A rule is written as a level (`warn`), a name (`a`), which shows everything from there, or both
(`a=warn`). Behind the name, or in its place, brackets may hold the name of a span, and braces in
them a field, alone or with a value: `a[span{field=value}]=warn`. There are no spans in this
program and no fields with values, so a rule that names a span or gives a value is for nothing. A
value is a number or a pattern.

Blanks around a rule count and do not count. The parts of a rule are found as if they were not
there, and their places, in bytes, are then taken in the rule as it is written. So a blank before a
rule shifts all of its parts; and where that would cut a character, the rule cannot be read at all.
-/

namespace FileServer.Log

/-- What is shown of some entries. -/
structure Rule where
  /-- How the names of the parts begin that the entries are from. Without it the rule is for all
  parts. -/
  origin : Option (List Char)
  /-- The fields that the entries have. -/
  fields : List (List Char)
  /-- The number of the least urgent level that is shown. -/
  level : Nat
deriving DecidableEq, Repr

namespace Rule

/-- Why a rule is none. -/
inductive Fault where
  /-- It is not formed as rules are. -/
  | malformed
  /-- One of its parts begins or ends inside a character. -/
  | cutCharacter
deriving DecidableEq, Repr

/-- Whether a rule is for an entry. -/
def appliesTo (rule : Rule) (entry : Entry) : Bool :=
  rule.fields.all (· = Entry.fieldName) &&
    match rule.origin with
    | none => true
    | some start => start.isPrefixOf entry.origin.toList

/-- How closely a rule names the parts it is for. -/
def closeness (rule : Rule) : Nat :=
  match rule.origin with
  | none => 0
  | some start => start.length + 1

/-- Whether a rule counts where another one applies too: it names the part more closely, or just as
closely and at least as many fields. -/
def outranks (rule other : Rule) : Bool :=
  other.closeness < rule.closeness
    || (other.closeness = rule.closeness && other.fields.length ≤ rule.fields.length)

/-! ## Levels and values -/

/-- The levels and their numbers. -/
def levels : List (List Char × Nat) :=
  [("off".toList, 0), ("error".toList, 1), ("warn".toList, 2), ("info".toList, 3),
   ("debug".toList, 4), ("trace".toList, 5)]

/-- The number of a level that is given by its name, in any case, or by its number. -/
def readLevel (text : List Char) : Option Nat :=
  match Text.Decimal.readNat Text.Decimal.max64 text with
  | some n => if n ≤ 5 then some n else none
  | none => levels.lookup (text.map Char.toLower)

/-- The number of the level that shows everything. -/
def everything : Nat := 5

/-- Whether a text is a fraction: digits with a point before, between or behind them, or without
one. -/
def isFraction (text : List Char) : Bool :=
  let whole := text.takeWhile Char.isDigit
  match text.drop whole.length with
  | [] => !whole.isEmpty
  | '.' :: rest => rest.all Char.isDigit && !(whole.isEmpty && rest.isEmpty)
  | _ => false

/-- A text without a sign before it. -/
def withoutSign : List Char → List Char
  | '+' :: cs => cs
  | '-' :: cs => cs
  | cs => cs

/-- Whether a text is a number, with a sign and an exponent or without them. The infinite ones have
names, and so has what is none. -/
def isNumber (text : List Char) : Bool :=
  let text := (withoutSign text).map Char.toLower
  let mantissa := text.takeWhile (· ≠ 'e')
  ["inf".toList, "infinity".toList, "nan".toList].contains text
    || (isFraction mantissa &&
      match text.drop mantissa.length with
      | [] => true
      | _ :: exponent =>
        let digits := withoutSign exponent
        !digits.isEmpty && digits.all Char.isDigit)

/-- Whether a text may be the value of a field. -/
def isValue (text : List Char) : Bool := isNumber text || Pattern.isWellFormed text

/-! ## Reading -/

/-- Reads a rule. -/
abbrev Reading := Except Fault

/-- What lies between two places of a rule. -/
def part (text : List Char) (start stop : Nat) : Reading (List Char) :=
  match Text.cut? text start stop with
  | some part => .ok part
  | none => .error .cutCharacter

/-- Reads the level of a rule, which begins at a place and goes to the end. -/
def readBound (text : List Char) (start : Nat) : Reading Nat := do
  let bound ← part text start (Text.size text)
  if bound.isEmpty then .ok everything
  else match readLevel bound with
    | some level => .ok level
    | none => .error .malformed

/-- Reads what follows the brackets: nothing, or an equals sign and a level. It begins at `start`
and is `rest` but for the blanks around the rule. -/
def readBehindSpan (text : List Char) (start : Nat) (rest : List Char) : Reading Nat :=
  match rest with
  | [] => .ok everything
  | '=' :: _ => readBound text (start + 1)
  | _ => .error .malformed

/-- A field as it is named in a rule, and whether a value is given. What follows another equals sign
behind the value is left out. -/
def readField (field : List Char) : Reading (List Char × Bool) :=
  let name := field.takeWhile (· ≠ '=')
  match field.drop name.length with
  | [] => if name.isEmpty then .error .malformed else .ok (name, false)
  | _ :: rest =>
    if isValue (rest.takeWhile (· ≠ '=')) then .ok (name, true) else .error .malformed

/-- Reads the brackets of a rule and what follows them, behind the opening one. Gives nothing if the
rule is for nothing. -/
def readSpan (text : List Char) (origin : Option (List Char)) (start : Nat) (rest : List Char) :
    Reading (Option Rule) := do
  let name := rest.takeWhile fun c => c ≠ ']' && c ≠ '{'
  let stop := start + Text.size name
  match rest.drop name.length with
  | [] => .error .malformed
  | ']' :: behind =>
    discard (part text start stop)
    discard (readBehindSpan text (stop + 1) behind)
    return none
  | _ :: rest =>
    let span ← part text start stop
    let inner := rest.takeWhile (· ≠ '}')
    let start := stop + 1
    let stop := start + Text.size inner
    match rest.drop inner.length with
    | [] => .error .malformed
    | _ :: behind =>
      let (field, hasValue) ← readField (← part text start stop)
      match behind with
      | ']' :: behind =>
        let level ← readBehindSpan text (stop + 2) behind
        return if span.isEmpty && !hasValue then some ⟨origin, [field], level⟩ else none
      | _ => .error .malformed

/-- Whether a rule may begin with a character. -/
def mayBegin (c : Char) : Bool :=
  c = '-' || c = ':' || c = '_' || Text.isLetterOrNumeral c

/-- Reads one rule. Gives nothing if it is for nothing. -/
def read (text : List Char) : Reading (Option Rule) :=
  match Text.trim text with
  | [] => .error .malformed
  | '[' :: rest => readSpan text none 1 rest
  | c :: cs =>
    if !mayBegin c then .error .malformed
    else
      let name := (c :: cs).takeWhile fun c => c ≠ '=' && c ≠ '['
      let stop := Text.size name
      match (c :: cs).drop name.length with
      | [] =>
        .ok <| some <| match readLevel text with
          | some level => ⟨none, [], level⟩
          | none => ⟨some text, [], everything⟩
      | '=' :: _ => do
        let origin ← part text 0 stop
        return some ⟨some origin, [], ← readBound text (stop + 1)⟩
      | _ :: rest => do
        readSpan text (some (← part text 0 stop)) (stop + 1) rest

end Rule

end FileServer.Log
