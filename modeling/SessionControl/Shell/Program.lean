import SessionControl.Shell.Execution

set_option autoImplicit false

/-! # The shell as a program

What the words mean that a shell is started with: a script in a word, in a file or on standard input,
its parameters, and options. -/

namespace SessionControl.Shell

open Machine (Process Fate Work Launcher)

/-- What the script stands on. -/
inductive Medium
  | text (bytes : Bytes)
  | file (path : Bytes)
  | standardInput

/-- What the words of a shell ask for. -/
structure Invocation where
  script : Medium
  title : Bytes
  parameters : List Bytes

namespace Invocation

/-- Reads the options in front: whether the script is a word, and whether it is on standard input. -/
def options (isText isInput : Bool) : List Bytes → Run (Bool × Bool × List Bytes)
  | [] => return (isText, isInput, [])
  | word :: rest => do
    match word with
    | ['-', '-'] | ['-'] => return (isText, isInput, rest)
    | sign :: c :: cs =>
      if sign = '-' ∨ sign = '+' then
        let on := decide (sign = '-')
        let letters := (c :: cs).filter fun l => !(['c', 's', 'o', 'l', 'i', 'm'].contains l)
        letters.forM (Builtin.setOption on)
        let isText := isText || (on && (c :: cs).contains 'c')
        let isInput := isInput || (on && (c :: cs).contains 's')
        if (c :: cs).contains 'o' then
          match rest with
          | name :: rest =>
            Builtin.setOptionByName on name
            options isText isInput rest
          | [] => return (isText, isInput, [])
        else options isText isInput rest
      else return (isText, isInput, word :: rest)
    | _ => return (isText, isInput, word :: rest)

/-- Reads the words of a shell. -/
def read (name : Bytes) (arguments : List Bytes) : Run Invocation := do
  let (isText, isInput, words) ← options false false arguments
  if isText then
    match words with
    | [] => Run.fail "-c requires an argument".toList
    | text :: rest =>
      return { script := .text text, title := rest.headD name, parameters := rest.tail }
  else if isInput then return { script := .standardInput, title := name, parameters := words }
  else
    match words with
    | [] => return { script := .standardInput, title := name, parameters := [] }
    | path :: rest => return { script := .file path, title := path, parameters := rest }

end Invocation

namespace Program

/-- The variables that a shell starts with: those that it was given, and some of its own. -/
def startingVariables (p : Process) (here : Bytes) : List Variable :=
  let given := (p.environment.filter fun v => Ascii.isName v.1).map fun (name, value) =>
    ({ name, value := some value, exported := true } : Variable)
  let own (name : String) (value : Bytes) : Variable := { name := name.toList, value := some value }
  let fixed : List Variable :=
    [own "IFS" [' ', '\t', '\n'], own "OPTIND" ['1'], own "PS1" ['#', ' '], own "PS2" ['>', ' '],
     own "PS4" ['+', ' '], own "PPID" (Decimal.digits p.parent)]
  let here : Variable := { name := "PWD".toList, value := some here, exported := true }
  let own := here :: fixed
  let path : List Variable :=
    [{ name := "PATH".toList
       value := some "/usr/local/sbin:/usr/local/bin:/usr/sbin:/usr/bin:/sbin:/bin".toList }]
  let others := given.filter fun v => !own.any fun u => u.name = v.name
  own ++ others ++ path.filter fun v => !others.any fun u => u.name = v.name

/-- The path of the working directory: the one that the shell was given, if it leads there. -/
def workingPath (disk : Machine.Disk) (p : Process) : Bytes :=
  let own := Machine.Path.ofPlace p.here
  match p.valueOf? "PWD".toList with
  | some path =>
    match disk.resolve p.here path with
    | .ok place => if Machine.Path.isAbsolute path ∧ place = p.here then path else own
    | .error _ => own
  | none => own

/-- The text of a script. -/
def load (title : Bytes) : Medium → Run Bytes
  | .text bytes => return bytes
  | .standardInput => do
    match ← Run.onMachine ((← Run.shell).process.readAll 0) with
    | .ok bytes => return bytes
    | .error _ => return []
  | .file path => do
    match ← Run.onMachine ((← Run.shell).process.readPath path) with
    | .ok bytes => return bytes
    | .error .isADirectory => return []
    | .error f =>
      Run.update fun s => { s with title }
      Run.fail (Execution.openingText .input path f)

/-- Does what the words of a shell ask for. -/
def perform (inner : Inner) (p : Process) : Run Unit := do
  let invocation ← Invocation.read p.name p.arguments
  let text ← load p.name invocation.script
  Run.update fun s =>
    { s with title := invocation.title, parameters := invocation.parameters, line := 1 }
  Execution.runText inner {} text

/-- Runs a shell to its end. -/
def run (launch : Launcher) (p : Process) : Work Fate := fun machine =>
  let inner := Execution.runner launch
  let here := workingPath machine.disk p
  let shell : State :=
    { process := p
      mainNumber := p.number
      title := p.name
      here
      line := 0
      bindings := startingVariables p here }
  let whole : Run Fate := do
    let result ← Run.attempt (perform inner p)
    Execution.conclude inner result
  match whole ⟨shell, machine⟩ with
  | (.ok fate, w) => (fate, w.machine)
  | (.error _, w) => (.exited 2, w.machine)

end Program
end SessionControl.Shell
