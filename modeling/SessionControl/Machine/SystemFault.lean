import SessionControl.Numeric.Decimal

set_option autoImplicit false

/-! # Faults of the operating system

Why the operating system refuses something: each fault has a number and a text. -/

namespace SessionControl

/-- Why the operating system refuses something. -/
inductive SystemFault
  | notFound
  | tooManyArguments
  /-- A file is no program. -/
  | notAProgram
  | badDescriptor
  | denied
  | alreadyExists
  | notADirectory
  | isADirectory
  | invalidArgument
  | noSpace
  | nameTooLong
  | notEmpty
  | tooManyLinks
  deriving DecidableEq, Repr

namespace SystemFault

/-- The number by which programs tell faults apart. -/
def number : SystemFault → Nat
  | notFound => 2
  | tooManyArguments => 7
  | notAProgram => 8
  | badDescriptor => 9
  | denied => 13
  | alreadyExists => 17
  | notADirectory => 20
  | isADirectory => 21
  | invalidArgument => 22
  | noSpace => 28
  | nameTooLong => 36
  | notEmpty => 39
  | tooManyLinks => 40

/-- What a fault is called. -/
def title : SystemFault → String
  | notFound => "No such file or directory"
  | tooManyArguments => "Argument list too long"
  | notAProgram => "Exec format error"
  | badDescriptor => "Bad file descriptor"
  | denied => "Permission denied"
  | alreadyExists => "File exists"
  | notADirectory => "Not a directory"
  | isADirectory => "Is a directory"
  | invalidArgument => "Invalid argument"
  | noSpace => "No space left on device"
  | nameTooLong => "File name too long"
  | notEmpty => "Directory not empty"
  | tooManyLinks => "Too many levels of symbolic links"

/-- What is said of a fault. -/
def message (f : SystemFault) : String :=
  f.title ++ " (os error " ++ Decimal.natText f.number ++ ")"

end SystemFault
end SessionControl
