import SessionControl.Machine.Process
import SessionControl.Shell.Grammar

set_option autoImplicit false

/-! # The state of a shell

What a shell knows while it runs a script: its variables, functions, parameters and traps, and how
the last command ended. A shell works on a machine, whose files it shares with all processes. A
command that does not simply come to its end jumps: out of a loop, a function or the shell. -/

namespace SessionControl.Shell

open Machine (Process Signal Fate Work Launcher)

/-! ## What a shell knows -/

/-- A variable. One without a value can still be exported or read-only. -/
structure Variable where
  name : Name
  value : Option Bytes
  exported : Bool := false
  readOnly : Bool := false
  deriving Repr

/-- A command that was sent to the background. It runs when it is waited for. -/
structure Job where
  number : Nat
  work : Work Fate
  /-- How it ended, if it has. -/
  fate : Option Fate := none

/-- A shell. -/
structure State where
  /-- The shell as a process: its number, descriptors and working directory. -/
  process : Process
  /-- The number of the process that runs the script, of which this shell may be a part. -/
  mainNumber : Nat
  /-- The path by which the working directory was reached. -/
  here : Bytes
  /-- What the script is called. -/
  title : Bytes
  /-- The built-in command that is running. -/
  speaker : Option Bytes := none
  line : Nat := 1
  bindings : List Variable := []
  parameters : List Bytes := []
  functions : List (Name × Command) := []
  /-- How the last command ended. -/
  status : Nat := 0
  /-- How the last command ended whose output became part of the current one. -/
  outputStatus : Option Nat := none
  /-- The letters of the options that are on. -/
  options : Bytes := []
  /-- What to run on a signal; nothing if it is ignored. Zero stands for the end of the shell. -/
  traps : List (Signal × Bytes) := []
  /-- Signals that were caught and wait for a command to end. -/
  caught : List Signal := []
  /-- The number of loops around the current command. -/
  loops : Nat := 0
  /-- For each function around the current command, what its local variables were before. -/
  locals : List (List (Name × Option Variable)) := []
  jobs : List Job := []
  /-- The number of the last job, even if it is no longer known. -/
  newestJob : Option Nat := none
  /-- Words that stand for text at the beginning of a command. -/
  aliases : List (Bytes × Bytes) := []
  /-- The permissions that new files are not given. -/
  fileMask : Nat := 18

/-- Why a command does not simply come to its end. -/
inductive Jump
  | leaveLoop (levels : Nat)
  | nextTurn (levels : Nat)
  | return_
  /-- Out of the shell, with the code of the last command if no other is given. -/
  | exit (code : Option Nat)
  /-- Something was wrong with the command, so that the script ends. -/
  | fault
  | killed (signal : Signal)
  deriving DecidableEq, Repr

/-- A shell and the machine that it works on. -/
structure World where
  shell : State
  machine : Machine.State

/-- What a shell does. -/
abbrev Run := ExceptT Jump (StateM World)

namespace Run

/-! ## Access -/

def shell : Run State := return (← get).shell

def update (f : State → State) : Run Unit := modify fun w => { w with shell := f w.shell }

/-- Does something on the machine. -/
def onMachine {α : Type} (work : Work α) : Run α := do
  let w ← get
  let (a, machine) := work.run w.machine
  set { w with machine }
  return a

/-- Does something and returns whether it jumped. -/
def attempt {α : Type} (r : Run α) : Run (Except Jump α) := fun w =>
  match r w with
  | (result, w) => (.ok result, w)

def setStatus (n : Nat) : Run Unit := update fun s => { s with status := n }

/-- Whether an option is on. -/
def hasOption (letter : Char) : Run Bool := return (← shell).options.contains letter

/-! ## Writing -/

/-- Writes to a descriptor; the answer is whether it is open. -/
def write (descriptor : Nat) (bytes : Bytes) : Run Bool := do
  let s ← shell
  match ← onMachine (s.process.write descriptor bytes) with
  | .ok () => return true
  | .error _ => return false

/-- Writes what is wrong, with the line, and with the built-in command that is running. -/
def complain (text : Bytes) : Run Unit := do
  let s ← shell
  let speaker :=
    match s.speaker with
    | some name => name ++ ": ".toList
    | none => []
  let _ ← write 2 (s.title ++ ": ".toList ++ Decimal.digits s.line ++ ": ".toList ++ speaker ++
    text ++ ['\n'])

/-- Writes what is wrong and ends the script. -/
def fail {α : Type} (text : Bytes) : Run α := do
  complain text
  setStatus 2
  throw .fault

/-! ## Variables -/

/-- A variable by its name. -/
def variableOf? (name : Name) : Run (Option Variable) := do
  return (← shell).bindings.find? fun v => v.name = name

/-- The value of a variable. -/
def value? (name : Name) : Run (Option Bytes) := do
  match ← variableOf? name with
  | some v => return v.value
  | none => return none

/-- Puts a variable into the place of the one of its name. -/
def putVariable (v : Variable) : Run Unit := update fun s =>
  { s with bindings := v :: s.bindings.filter fun u => u.name ≠ v.name }

/-- Forgets a variable. -/
def dropVariable (name : Name) : Run Unit := update fun s =>
  { s with bindings := s.bindings.filter fun u => u.name ≠ name }

/-- Gives a variable a value. -/
def assign (name : Name) (value : Bytes) : Run Unit := do
  let all := (← shell).options.contains 'a'
  match ← variableOf? name with
  | some v =>
    if v.readOnly then fail (name ++ ": is read only".toList)
    else putVariable { v with value := some value, exported := v.exported || all }
  | none => putVariable { name, value := some value, exported := all }

/-- The variables that programs get. -/
def exported : Run (List (Bytes × Bytes)) := do
  return (← shell).bindings.filterMap fun v =>
    if v.exported then v.value.map fun value => (v.name, value) else none

/-- Makes a variable local to the running function: what it was comes back when the function
    ends. -/
def makeLocal (name : Name) : Run Unit := do
  let before ← variableOf? name
  update fun s =>
    match s.locals with
    | frame :: frames =>
      if frame.any fun e => e.1 = name then s
      else { s with locals := ((name, before) :: frame) :: frames }
    | [] => s

/-- Gives the variables of a frame back what they were. -/
def restore (frame : List (Name × Option Variable)) : Run Unit :=
  frame.forM fun (name, before) =>
    match before with
    | some v => putVariable v
    | none => dropVariable name

/-- Does something with variables of its own. -/
def withLocals {α : Type} (r : Run α) : Run α := do
  update fun s => { s with locals := [] :: s.locals }
  let result ← attempt r
  match (← shell).locals with
  | frame :: frames =>
    restore frame
    update fun s => { s with locals := frames }
  | [] => pure ()
  match result with
  | .ok a => return a
  | .error j => throw j

/-! ## Descriptors -/

/-- Lets a descriptor stand for an open file, or for none. -/
def setDescriptor (descriptor : Nat) (file : Option Nat) : Run Unit := update fun s =>
  let others := s.process.descriptors.filter fun e => e.1 ≠ descriptor
  let descriptors :=
    match file with
    | some f => (descriptor, f) :: others
    | none => others
  { s with process := { s.process with descriptors } }

/-- Does something whose redirections end with it. -/
def keepingDescriptors {α : Type} (r : Run α) : Run α := do
  let before := (← shell).process.descriptors
  let result ← attempt r
  update fun s => { s with process := { s.process with descriptors := before } }
  match result with
  | .ok a => return a
  | .error j => throw j

/-! ## Signals -/

/-- What a trap says about a signal. -/
def trap? (s : State) (signal : Signal) : Option Bytes :=
  (s.traps.find? fun e => e.1 = signal).map (·.2)

/-- Whether a signal is ignored. -/
def ignores (s : State) (signal : Signal) : Bool :=
  s.process.ignored.contains signal || trap? s signal = some []

/-- Takes note of a signal that has arrived: it is ignored, waits for its trap or ends the shell. -/
def arrive (signal : Signal) : Run Unit := do
  let s ← shell
  if signal = 0 then return ()
  else if Signal.canBeCaught signal && ignores s signal then return ()
  else if Signal.canBeCaught signal && (trap? s signal).isSome then
    update fun s => { s with caught := s.caught ++ [signal] }
  else if Signal.ends signal then throw (.killed signal)
  else return ()

/-- Looks for signals that other processes have sent. -/
def lookForSignals : Run Unit := do
  let signals ← onMachine (Machine.receive (← shell).process.number)
  signals.forM arrive

end Run

/-- The code by which a shell tells how a command ended: a signal counts from 128 on. -/
def codeOf : Fate → Nat
  | .exited code => code
  | .killed signal => 128 + signal

namespace State

/-- The shell as a part of its own script begins: traps are forgotten, except for ignored signals,
    and so are jobs. -/
def child (s : State) (number : Nat) : State :=
  { s with
    process := { s.process with number }
    traps := s.traps.filter fun e => e.2 = []
    caught := []
    jobs := [] }

/-- Whether a signal or the end of the shell makes it do something. -/
def hasTraps (s : State) : Bool := s.traps.any fun e => e.2 ≠ []

/-- The signals that programs are started with ignored. -/
def ignoredSignals (s : State) : List Signal :=
  s.process.ignored ++ s.traps.filterMap fun e => if e.2 = [] then some e.1 else none

end State
end SessionControl.Shell
