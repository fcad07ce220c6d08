import FileServer.Text.Decimal

/-!
# System errors

Why the system of a host has refused something that it was asked to do with a file, an address or a
connection.
-/

namespace FileServer

/-- Why the system has refused something. -/
inductive SystemError where
  /-- There is nothing of that name. -/
  | notFound
  /-- The device has failed. -/
  | inputOutput
  /-- The program may not do this. -/
  | permissionDenied
  /-- There is something of that name already. -/
  | fileExists
  /-- Something on the way is no directory. -/
  | notDirectory
  /-- It is a directory, and a file is needed. -/
  | isDirectory
  /-- An argument makes no sense. -/
  | invalidArgument
  /-- A name is too long. -/
  | nameTooLong
  /-- There are too many links on the way. -/
  | tooManyLinks
  /-- Something listens on the endpoint already. -/
  | addressInUse
  /-- The address is none of this host. -/
  | addressNotAvailable
  /-- No interface leads to the address. -/
  | networkUnreachable
  /-- Nobody listens on the endpoint. -/
  | connectionRefused
deriving DecidableEq, Repr

namespace SystemError

/-- The number of an error. -/
def number : SystemError → Nat
  | notFound => 2
  | inputOutput => 5
  | permissionDenied => 13
  | fileExists => 17
  | notDirectory => 20
  | isDirectory => 21
  | invalidArgument => 22
  | nameTooLong => 36
  | tooManyLinks => 40
  | addressInUse => 98
  | addressNotAvailable => 99
  | networkUnreachable => 101
  | connectionRefused => 111

/-- An error in words. -/
def describe : SystemError → String
  | notFound => "No such file or directory"
  | inputOutput => "Input/output error"
  | permissionDenied => "Permission denied"
  | fileExists => "File exists"
  | notDirectory => "Not a directory"
  | isDirectory => "Is a directory"
  | invalidArgument => "Invalid argument"
  | nameTooLong => "File name too long"
  | tooManyLinks => "Too many levels of symbolic links"
  | addressInUse => "Address already in use"
  | addressNotAvailable => "Cannot assign requested address"
  | networkUnreachable => "Network is unreachable"
  | connectionRefused => "Connection refused"

/-- An error as it is reported. -/
def message (error : SystemError) : String :=
  error.describe ++ " (os error " ++ Text.Decimal.print error.number ++ ")"

/-- All errors. -/
def all : List SystemError :=
  [notFound, inputOutput, permissionDenied, fileExists, notDirectory, isDirectory, invalidArgument,
   nameTooLong, tooManyLinks, addressInUse, addressNotAvailable, networkUnreachable,
   connectionRefused]

/-- The error of a number. -/
def ofNumber? (number : Nat) : Option SystemError := all.find? fun error => error.number = number

/-- A number gives back the error that has it. -/
theorem ofNumber?_number (error : SystemError) : ofNumber? error.number = some error := by
  cases error <;> rfl

end SystemError

end FileServer
