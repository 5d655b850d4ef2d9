set_option autoImplicit false

/-! # Grammars of command lines

Which options a command takes, and how many words besides them; and the ways in which a command line
can fail to follow its grammar. -/

namespace SessionControl.CommandLine

/-! ## Options -/

/-- An option: a word behind two dashes, perhaps a character behind one. -/
structure OptionSpec where
  long : String
  short : Option Char := none
  /-- Whether a value follows. An option without one is a switch. -/
  takesValue : Bool := true
  /-- Whether the value may begin with a dash. -/
  allowsDash : Bool := false
  /-- Whether a text can be read as the option's value. -/
  readable : String → Bool := fun _ => true

/-- The words besides the options. -/
inductive Positional
  | none | optional | required | many
  deriving DecidableEq, Repr

/-- What a command accepts. -/
structure Grammar where
  /-- The name under which the version is told. -/
  title : String
  options : List OptionSpec := []
  positional : Positional := .none
  /-- Options that exclude each other. -/
  conflicts : List (String × String) := []
  /-- The commands that may follow; a word that resembles one is taken for a misspelling. -/
  commands : List String := []

namespace Grammar

/-- The option with a long name. -/
def ofLong? (g : Grammar) (long : List Char) : Option OptionSpec :=
  g.options.find? fun o => o.long.toList = long

/-- The option with a short name. -/
def ofShort? (g : Grammar) (short : Char) : Option OptionSpec :=
  g.options.find? fun o => o.short = some short

/-- Whether one more word finds a place after `count` of them. -/
def hasRoom (g : Grammar) (count : Nat) : Bool :=
  match g.positional with
  | .none => false
  | .optional | .required => count = 0
  | .many => true

end Grammar

/-! ## Refusals -/

/-- Why a command line is not carried out. -/
inductive Refusal
  | unknownArgument
  /-- A word resembles a command, but is none. -/
  | misspelledCommand
  /-- Help was asked for on a command that does not exist. -/
  | unknownTopic
  | missingCommand
  | missingWord
  | missingValue
  | unreadableValue
  | conflict
  | repeated
  /-- Help was asked for. -/
  | help
  /-- The version was asked for, of the command with this title. -/
  | version (title : String)
  deriving DecidableEq, Repr

/-- The exit code after a refusal: asking for help is no error. -/
def Refusal.exitCode : Refusal → Nat
  | help => 0
  | version _ => 0
  | _ => 1

/-- The release that the tool belongs to. -/
def release : String := "0.1.0"

/-- What a refusal has to tell on standard output: the version, to those who ask for it. -/
def Refusal.announcement? : Refusal → Option String
  | version title => some (title ++ " " ++ release)
  | _ => none

end SessionControl.CommandLine
