import FileServer.Log.Rule

/-!
# Filters of the log

A filter is a list of rules and chooses what is shown. Of the rules that are for an entry the one
counts that names its part most closely, of those the one with the most fields, and of those the
last. Without a rule for it, an entry is not shown.

Filters are written as rules with commas between them. A filter with a malformed rule is not used,
and one with a rule that cannot be read breaks the program off.
-/

namespace FileServer.Log

/-- A list of rules. -/
structure Filter where
  /-- The rules, in the order in which they were given. -/
  rules : List Rule
deriving DecidableEq, Repr

namespace Filter

/-- The texts between commas, where `text` holds, last character first, what has been read of the
current one. -/
def splitFrom (text : List Char) : List Char → List (List Char)
  | [] => [text.reverse]
  | c :: cs => if c = ',' then text.reverse :: splitFrom [] cs else splitFrom (c :: text) cs

/-- Reads a filter, up to the first rule that is none. Texts of no length between commas are left
out. -/
def read (text : String) : Except Rule.Fault Filter := do
  let rules ← ((splitFrom [] text.toList).filter (!·.isEmpty)).mapM Rule.read
  return ⟨rules.filterMap id⟩

/-- The filter that shows everything from information on. -/
def info : Filter := ⟨[⟨none, [], 3⟩]⟩

/-- The filter that a variable of the environment asks for: that for information if it is not set or
malformed. There is none if a rule would cut a character; the program cannot go on then. -/
def ofVariable (setting : Option String) : Option Filter :=
  match setting with
  | none => some info
  | some text =>
    match read text with
    | .ok filter => some filter
    | .error .malformed => some info
    | .error .cutCharacter => none

/-- The rule that counts for an entry. -/
def ruleFor (filter : Filter) (entry : Entry) : Option Rule :=
  (filter.rules.filter (·.appliesTo entry)).foldl
    (fun best rule =>
      match best with
      | none => some rule
      | some other => if rule.outranks other then some rule else some other)
    none

/-- Whether an entry is shown. -/
def shows (filter : Filter) (entry : Entry) : Bool :=
  match filter.ruleFor entry with
  | none => false
  | some rule => entry.level.number ≤ rule.level

/-- The lines that are shown. -/
def lines (filter : Filter) (entries : List Entry) : List String :=
  (entries.filter filter.shows).map Entry.line

end Filter

end FileServer.Log
