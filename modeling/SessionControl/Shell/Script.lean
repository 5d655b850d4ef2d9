import SessionControl.Text.Bytes

set_option autoImplicit false

/-! # Scripts

The commands of a script as values. A word is made of parts: some stand for themselves, others for
what they are replaced by when the command is run. What was between quotes is marked, since it is
neither split nor taken for a pattern. -/

namespace SessionControl.Shell

/-- The name of a variable, a function or a parameter. -/
abbrev Name := Bytes

/-- Which end of a value a pattern is taken off. -/
inductive Side
  | front | back
  deriving DecidableEq, Repr

/-- What is made of the value of a parameter. The flag of the first four says that an empty value is
    taken for none. -/
inductive Treatment
  | plain
  | orElse (emptyToo : Bool)
  | orAssign (emptyToo : Bool)
  | orFail (emptyToo : Bool)
  | ifSet (emptyToo : Bool)
  | trim (side : Side) (longest : Bool)
  | length
  /-- Is understood only to the extent that it is refused when the word is used. -/
  | unknown
  deriving DecidableEq, Repr

/-- How a redirection opens what it leads to. -/
inductive Access
  | input
  /-- May be refused if there is a file already. -/
  | output
  | always
  | append | both
  deriving DecidableEq, Repr

mutual

/-- A part of a word. -/
inductive Part where
  | text (quoted : Bool) (bytes : Bytes)
  /-- The value of a parameter; the word belongs to the treatment. -/
  | parameter (quoted : Bool) (name : Name) (treatment : Treatment) (word : List Part)
  /-- What a command prints. -/
  | output (quoted : Bool) (command : Option Command)
  /-- The value of an expression. -/
  | arithmetic (quoted : Bool) (expression : List Part)

/-- What a redirection leads to. -/
inductive Source where
  | path (access : Access) (word : List Part)
  /-- Another descriptor, or `-` for none. -/
  | duplicate (word : List Part)
  /-- Text that stands in the script. -/
  | here (text : List Part)

/-- A redirection of a descriptor. -/
inductive Redirection where
  | mk (descriptor : Nat) (source : Source)

/-- A command. The line is the one on which it begins. -/
inductive Command where
  | simple (line : Nat) (assignments : List (Name × List Part)) (words : List (List Part))
      (redirections : List Redirection)
  | pipeline (commands : List Command)
  | negation (command : Command)
  | both (first second : Command)
  | either (first second : Command)
  | sequence (first second : Command)
  | background (command : Command)
  | redirected (line : Nat) (command : Command) (redirections : List Redirection)
  | subshell (line : Nat) (command : Command) (redirections : List Redirection)
  | choice (condition : Command) (yes : Command) (no : Option Command)
  | loop (ends : Bool) (condition body : Command)
  | each (line : Nat) (name : Name) (words : Option (List (List Part))) (body : Command)
  | cases (line : Nat) (word : List Part) (arms : List (List (List Part) × Option Command))
  | define (line : Nat) (name : Name) (body : Command)

end

/-- A word of a command, before its parts are replaced. -/
abbrev Word := List Part

/-- An arm of a case: its patterns, and the command that they guard. -/
abbrev Arm := List Word × Option Command

end SessionControl.Shell
