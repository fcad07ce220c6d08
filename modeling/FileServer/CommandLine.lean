/-!
# Command lines

What may stand on the command line of a program, and how it is read. Options have a name of one or
more letters behind two dashes, and some have one letter behind a single dash. An option is a flag,
or takes a value: behind an equals sign, behind its letter, or as the next argument, which must not
look like an option then. Behind two dashes alone there are only operands. Every option may be given
once.

Arguments are read from left to right and each value is checked when it is met. Asking for help ends
the reading; so does the first thing that is wrong, whichever comes first.
-/

namespace FileServer.CommandLine

/-- An option. -/
structure Opt where
  /-- Its name. -/
  name : String
  /-- Its letter, if it has one. -/
  letter : Option Char := none
  /-- Which values it may have. An option without this is a flag. -/
  valid : Option (String → Bool) := none

/-- What a program is told. -/
structure Given where
  /-- The options and their values, the last first. A flag has the empty value. -/
  options : List (String × String)
  /-- The operands, the last first. -/
  operands : List String

/-- What a program may be told. -/
structure Grammar where
  /-- The options. -/
  options : List Opt
  /-- Which values the operands may have, in order. All of them must be given. -/
  operands : List (String → Bool)
  /-- Whether the first operand is the name of a command, with which another grammar begins. -/
  commands : Bool := false

/-- What reading led to. -/
inductive Reading where
  /-- Help was asked for. -/
  | help
  /-- Something is wrong. -/
  | refused
  /-- All is well. A command, and what follows it, is left unread. -/
  | done (given : Given) (rest : List String)

namespace Given

/-- Nothing was given. -/
def none : Given := ⟨[], []⟩

/-- The value of an option. -/
def value? (given : Given) (name : String) : Option String := given.options.lookup name

/-- Whether an option was given. -/
def has (given : Given) (name : String) : Bool := (given.value? name).isSome

/-- Takes an option, if it was not given before. -/
def take (given : Given) (name value : String) : Option Given :=
  if given.has name then Option.none
  else some { given with options := (name, value) :: given.options }

end Given

/-- What an argument, or the rest of it, asks for. -/
inductive Demand where
  /-- Help. -/
  | help
  /-- Nothing that is known. -/
  | refused
  /-- An option, complete. -/
  | complete (given : Given)
  /-- An option whose value is the next argument. -/
  | value (opt : Opt) (valid : String → Bool) (given : Given)

namespace Grammar

/-- Takes an option with its value, if the value is valid. -/
def takeValue (given : Given) (opt : Opt) (valid : String → Bool) (value : String) :
    Option Given :=
  if valid value then given.take opt.name value else none

/-- Reads an argument behind its two dashes. -/
def readLong (grammar : Grammar) (given : Given) (text : List Char) : Demand :=
  let name := String.ofList (text.takeWhile (· ≠ '='))
  let attached := match text.dropWhile (· ≠ '=') with
    | [] => none
    | _ :: value => some (String.ofList value)
  if name = "help" then if attached.isSome then .refused else .help
  else match grammar.options.find? (·.name = name) with
    | none => .refused
    | some opt =>
      match opt.valid, attached with
      | none, some _ => .refused
      | none, none => ((given.take name "").map Demand.complete).getD .refused
      | some valid, some value =>
        ((takeValue given opt valid value).map Demand.complete).getD .refused
      | some valid, none => .value opt valid given

/-- Reads the letters behind a single dash. -/
def readLetters (grammar : Grammar) (given : Given) : List Char → Demand
  | [] => .complete given
  | c :: cs =>
    if c = 'h' then .help
    else match grammar.options.find? (·.letter = some c) with
      | none => .refused
      | some opt =>
        match opt.valid with
        | none =>
          match given.take opt.name "" with
          | none => .refused
          | some given => readLetters grammar given cs
        | some valid =>
          match cs with
          | [] => .value opt valid given
          | '=' :: value =>
            ((takeValue given opt valid (String.ofList value)).map Demand.complete).getD .refused
          | value =>
            ((takeValue given opt valid (String.ofList value)).map Demand.complete).getD .refused

/-- Takes an operand, if there is room for it and it is valid. -/
def takeOperand (grammar : Grammar) (given : Given) (value : String) : Option Given :=
  match grammar.operands[given.operands.length]? with
  | none => none
  | some valid =>
    if valid value then some { given with operands := value :: given.operands } else none

/-- Whether an argument looks like an option: a single dash alone does not. -/
def looksLikeOption (arg : String) : Bool :=
  arg.toList.head? = some '-' && arg ≠ "-"

/-- Ends the reading. -/
def finish (grammar : Grammar) (given : Given) : Reading :=
  if given.operands.length < grammar.operands.length then .refused else .done given []

/-- Reads arguments behind two dashes alone. -/
def readOperands (grammar : Grammar) (given : Given) : List String → Reading
  | [] => grammar.finish given
  | arg :: rest =>
    match grammar.takeOperand given arg with
    | none => .refused
    | some given => readOperands grammar given rest

/-- Reads arguments. -/
def readFrom (grammar : Grammar) (given : Given) : List String → Reading
  | [] => grammar.finish given
  | arg :: rest =>
    if arg = "--" then grammar.readOperands given rest
    else if looksLikeOption arg then
      let demand := match arg.toList with
        | '-' :: '-' :: text => grammar.readLong given text
        | _ :: letters => grammar.readLetters given letters
        | [] => .refused
      match demand with
      | .help => .help
      | .refused => .refused
      | .complete given => readFrom grammar given rest
      | .value opt valid given =>
        match rest with
        | [] => .refused
        | value :: rest =>
          if looksLikeOption value then .refused
          else match takeValue given opt valid value with
            | none => .refused
            | some given => readFrom grammar given rest
    else if grammar.commands then .done given (arg :: rest)
    else match grammar.takeOperand given arg with
      | none => .refused
      | some given => readFrom grammar given rest

/-- Reads a command line. -/
def read (grammar : Grammar) (args : List String) : Reading :=
  grammar.readFrom .none args

end Grammar

end FileServer.CommandLine
