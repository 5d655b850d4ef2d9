import SessionControl.Shell.Builtins

set_option autoImplicit false

/-! # Running commands

How a shell runs the commands of a script. The runner is tied together over a measure of depth: the
runner of a command gets a runner for the commands inside it, and a launcher for programs. A command
whose outcome is tested does not end the script, even if it fails and an option says that it
should; the last command of a script takes the shell's place. -/

namespace SessionControl.Shell

open Machine (Process Signal Fate Work Launcher)

/-- How a command is run. -/
structure Flags where
  /-- Whether its outcome is tested. -/
  tested : Bool := false
  /-- Whether nothing comes after it in the shell. -/
  last : Bool := false

/-- What is given to the runner of a command. -/
structure Inner where
  run : Flags → Command → Run Unit
  launch : Launcher

namespace Execution

/-! ## Scripts -/

/-- Runs the complete commands of a script one after the other. -/
def runInput (inner : Inner) (flags : Flags) : Nat → Input → Run Unit
  | 0, _ => return ()
  | fuel + 1, i => do
    match Grammar.next { i with aliases := (← Run.shell).aliases } with
    | .error c =>
      Run.update fun s => { s with line := c.line }
      Run.fail c.text.toList
    | .ok none => return ()
    | .ok (some c) =>
      match c.command with
      | some command => inner.run { flags with last := flags.last && c.isLast } command
      | none => pure ()
      runInput inner flags fuel c.rest

/-- Runs a script. -/
def runText (inner : Inner) (flags : Flags) (text : Bytes) : Run Unit :=
  runInput inner flags (text.length + 1) { rest := text }

/-- Runs a script that is given as words; nothing at all succeeds. -/
def runWordsAsText (inner : Inner) (flags : Flags) (text : Bytes) : Run Nat := do
  let line := (← Run.shell).line
  match Grammar.next { rest := text, line } with
  | .ok none => return 0
  | _ =>
    if text.all fun c => Ascii.isBlank c || c = '\n' then return 0
    else
      runInput inner flags (text.length + 1) { rest := text, line }
      return (← Run.shell).status

/-! ## Signals -/

/-- Runs what traps say about the signals that have been caught. -/
def runTraps (inner : Inner) : Nat → Run Unit
  | 0 => return ()
  | fuel + 1 => do
    Run.lookForSignals
    let s ← Run.shell
    match s.caught with
    | [] => return ()
    | signal :: rest =>
      Run.update fun s => { s with caught := rest }
      match Run.trap? s signal with
      | some action =>
        runText inner { tested := true } action
        Run.setStatus s.status
      | none => pure ()
      runTraps inner fuel

/-- More signals than are waiting at a time. -/
def signalFuel : Nat := 1000

/-- Ends the script if a command has failed whose outcome is not tested, and an option asks for it. -/
def checkStatus (flags : Flags) : Run Unit := do
  let s ← Run.shell
  if s.status ≠ 0 ∧ !flags.tested ∧ s.options.contains 'e' then throw (.exit none)
  else return ()

/-! ## The end of a shell -/

/-- Ends a shell whose commands have ended this way, and says how it ends. -/
def conclude (inner : Inner) (result : Except Jump Unit) : Run Fate := do
  match result with
  | .error (.killed signal) => return .killed signal
  | _ =>
    let s ← Run.shell
    let code :=
      match result with
      | .error (.exit (some code)) => code
      | _ => s.status
    Run.setStatus code
    let fate ←
      match (Run.trap? s 0).filter (· ≠ []) with
      | none => pure (.exited (code % 256))
      | some action => do
        Run.update fun s => { s with traps := s.traps.filter fun t => t.1 ≠ 0 }
        match ← Run.attempt (runText inner {} action) with
        | .error (.exit (some code)) => pure (.exited (code % 256))
        | .error (.killed signal) => pure (.killed signal)
        | _ => pure (.exited (code % 256))
    match ← Run.attempt (Run.lookForSignals) with
    | .error (.killed signal) => return .killed signal
    | _ =>
      Builtin.finishJobs
      return fate

/-- Does something in a shell that is a part of this one, and says how that ends. A number is given
    if it takes the place of this one. -/
def inChild (inner : Inner) (number : Option Nat) (adjust : State → State) (body : Run Unit) :
    Run Fate := do
  let number ←
    match number with
    | some n => pure n
    | none => Run.onMachine Machine.newProcess
  let before ← Run.shell
  Run.update fun s => adjust (s.child number)
  let result ← Run.attempt body
  let result ← Run.attempt (conclude inner result)
  Run.update fun _ => before
  match result with
  | .ok fate => return fate
  | .error _ => return .exited 2

/-- Takes note of how a process ended. -/
def noteFate (fate : Fate) : Run Unit := do
  Run.setStatus (codeOf fate)
  match fate with
  | .killed signal =>
    match Signal.epitaph signal with
    | some text =>
      let _ ← Run.write 2 (text.toList ++ ['\n'])
    | none => pure ()
  | .exited _ => pure ()

/-- Takes the place of a process that the shell became. -/
def becomeFate (fate : Fate) : Run Unit := do
  match fate with
  | .killed signal => throw (.killed signal)
  | .exited code => Run.setStatus code

/-! ## Substitutions -/

/-- Runs a command and returns what it prints. -/
def capture (inner : Inner) : Expansion.Capture := fun command => do
  match command with
  | none =>
    Run.update fun s => { s with outputStatus := some 0 }
    return []
  | some c =>
    let pipe ← Run.onMachine (Machine.openPipe [])
    let fate ← inChild inner none id do
      Run.setDescriptor 1 (some pipe)
      inner.run { last := true } c
    Run.update fun s => { s with outputStatus := some (codeOf fate) }
    match ← Run.onMachine (Machine.readFile pipe) with
    | .ok bytes => return bytes.filter (· ≠ '\x00')
    | .error _ => return []

/-! ## Redirections -/

/-- What is said of something that cannot be opened. -/
def openingText (access : Access) (path : Bytes) (f : SystemFault) : Bytes :=
  let reading := access = .input ∨ access = .both
  let why :=
    match f with
    | .notFound => if reading then "No such file" else "Directory nonexistent"
    | .notADirectory => if reading then "No such file" else "Directory nonexistent"
    | f => f.title
  (if reading then "cannot open " else "cannot create ").toList ++ path ++ ": ".toList ++ why.toList

/-- Carries out a redirection, and says whether it could be done. -/
def redirect (inner : Inner) : Redirection → Run Bool
  | .mk descriptor source => do
    match source with
    | .here text =>
      let contents ← Expansion.expandWhole (capture inner) text
      let pipe ← Run.onMachine (Machine.openPipe contents)
      Run.setDescriptor descriptor (some pipe)
      return true
    | .duplicate word =>
      let target ← Expansion.expandWhole (capture inner) word
      let s ← Run.shell
      if target = ['-'] then
        Run.setDescriptor descriptor none
        return true
      else
        match (if target.length = 1 then Decimal.natural? target else none) with
        | none => Run.fail "Syntax error: Bad fd number".toList
        | some n =>
          match Machine.fileOf? s.process.descriptors n with
          | some file =>
            Run.setDescriptor descriptor (some file)
            return true
          | none =>
            Run.complain (target ++ ": Bad file descriptor".toList)
            return false
    | .path access word =>
      let path ← Expansion.expandWhole (capture inner) word
      let s ← Run.shell
      let mode : Machine.Mode :=
        match access with
        | .input => .read
        | .output | .always => .overwrite
        | .append => .append
        | .both => .update
      let isThere : Bool :=
        match (← get).machine.disk.find s.process.here path with
        | .ok (.file _ _) => true
        | _ => false
      if access = .output ∧ isThere ∧ s.options.contains 'C' then
        Run.complain (openingText access path .alreadyExists)
        return false
      else
        match ← Run.onMachine (Machine.openPath s.process.here s.process.descriptors path mode) with
        | .ok file =>
          Run.setDescriptor descriptor (some file)
          return true
        | .error f =>
          Run.complain (openingText access path f)
          return false

/-- Carries out redirections up to the first that cannot be done. -/
def redirectAll (inner : Inner) : List Redirection → Run Bool
  | [] => return true
  | r :: rs => do
    if ← redirect inner r then redirectAll inner rs else return false

/-! ## Programs -/

/-- What is said of a program that cannot be started, and the code for it. -/
def startingText (name : Bytes) (f : SystemFault) : Bytes × Nat :=
  match f with
  | .notFound | .notADirectory => (name ++ ": not found".toList, 127)
  | .nameTooLong | .tooManyLinks => (name ++ ": ".toList ++ f.title.toList, 127)
  | f => (name ++ ": ".toList ++ f.title.toList, 126)

/-- Starts a program, found as a shell does, in a process with this number. A file that is no program
    is run as a script. -/
def start (inner : Inner) (number : Nat) (words : List Bytes) : Run (Except SystemFault Fate) := do
  let name := words.headD []
  let s ← Run.shell
  let path ←
    if name.contains '/' then pure (some name)
    else Builtin.program? name
  match path with
  | none => return .error .notFound
  | some path =>
    let process : Process :=
      { s.process with
        number
        parent := if number = s.process.number then s.process.parent else s.process.number
        words
        environment := ← Run.exported
        ignored := s.ignoredSignals }
    match ← Run.onMachine (inner.launch path process) with
    | .error .notAProgram =>
      let shellPath := "/bin/sh".toList
      Run.onMachine (inner.launch shellPath
        { process with words := shellPath :: path :: words.tail })
    | result => return result

/-- Runs a program. -/
def runProgram (inner : Inner) (flags : Flags) (words : List Bytes) : Run Unit := do
  let s ← Run.shell
  let replaces := flags.last && !s.hasTraps
  let number ← if replaces then pure s.process.number else Run.onMachine Machine.newProcess
  match ← start inner number words with
  | .ok fate => if replaces then becomeFate fate else noteFate fate
  | .error f =>
    let (text, code) := startingText (words.headD []) f
    Run.complain text
    Run.setStatus code

/-! ## Functions and built-in commands that run others -/

/-- Calls a function. -/
def call (inner : Inner) (flags : Flags) (body : Command) (arguments : List Bytes) : Run Unit := do
  let before ← Run.shell
  Run.update fun s => { s with parameters := arguments, loops := 0 }
  let result ← Run.attempt (Run.withLocals (inner.run { tested := flags.tested } body))
  Run.update fun s => { s with parameters := before.parameters, loops := before.loops }
  match result with
  | .ok () | .error .return_ => return ()
  | .error j => throw j

/-- Leaves a number of loops, or as many as there are. -/
def leave (jump : Nat → Jump) (words : List Bytes) : Run Nat := do
  let n ←
    match words with
    | [] => pure 1
    | w :: _ => Builtin.number w
  if n = 0 then Run.fail ("Illegal number: ".toList ++ words.headD [])
  else
    let n := min n (← Run.shell).loops
    if n = 0 then return 0
    else
      Run.setStatus 0
      throw (jump n)

/-- The code that a word gives, or none. -/
def code? (words : List Bytes) : Run (Option Nat) := do
  match words with
  | [] => return none
  | w :: _ => return some (← Builtin.number w)

/-- Puts a program in the place of the shell, or keeps redirections if there is none. -/
def exec (inner : Inner) (words : List Bytes) : Run Nat := do
  match words with
  | [] => return 0
  | name :: _ =>
    match ← start inner (← Run.shell).process.number words with
    | .ok fate =>
      Run.update fun s => { s with traps := [], jobs := [] }
      match fate with
      | .exited code => throw (.exit (some code))
      | .killed signal => throw (.killed signal)
    | .error f =>
      let (text, code) := startingText name f
      Run.complain text
      throw (.exit (some code))

/-- Runs the script in a file. -/
def source (inner : Inner) (words : List Bytes) : Run Nat := do
  match words with
  | [] => return 0
  | name :: _ =>
    let path ← if name.contains '/' then pure (some name) else Builtin.program? name
    match path with
    | none => Run.fail (name ++ ": not found".toList)
    | some path =>
      let s ← Run.shell
      match ← Run.onMachine (s.process.readPath path) with
      | .error f => Run.fail (openingText .input path f)
      | .ok text =>
        match ← Run.attempt (runWordsAsText inner {} text) with
        | .ok code => return code
        | .error .return_ => return (← Run.shell).status
        | .error j => throw j

/-- The built-in command of a name. -/
def builtin? (inner : Inner) (flags : Flags) (name : Bytes) : Option (List Bytes → Run Nat) :=
  match String.ofList name with
  | "break" => some (leave .leaveLoop)
  | "continue" => some (leave .nextTurn)
  | "return" => some fun words => do
    match ← code? words with
    | some n => Run.setStatus n
    | none => pure ()
    throw .return_
  | "exit" => some fun words => do throw (.exit (← code? words))
  | "eval" => some fun words =>
    runWordsAsText inner { tested := flags.tested } (List.intercalate [' '] words)
  | "exec" => some fun words => exec inner (Builtin.dropDashes words)
  | "." => some fun words => source inner (Builtin.dropDashes words)
  | _ => Builtin.simple? name

/-- Runs a built-in command. What is wrong with a special one ends the script. -/
def runBuiltin (special : Bool) (name : Bytes) (command : Run Nat) : Run Unit := do
  let before := (← Run.shell).speaker
  Run.update fun s => { s with speaker := some name }
  let result ← Run.attempt command
  Run.update fun s => { s with speaker := before }
  match result with
  | .ok code => Run.setStatus code
  | .error .fault => if special then throw .fault else return ()
  | .error j => throw j

/-! ## Simple commands -/

/-- What the first word of a command stands for. -/
inductive Meaning
  | nothing
  | function (body : Command)
  | builtin (special : Bool) (command : List Bytes → Run Nat)
  | program

/-- Finds out what the first word of a command stands for. -/
def meaning (inner : Inner) (flags : Flags) (functions : Bool) (words : List Bytes) :
    Run Meaning := do
  match words with
  | [] => return .nothing
  | name :: _ =>
    if Builtin.isSpecial name then
      return (builtin? inner flags name).elim .program (.builtin functions)
    else
      match (← Run.shell).functions.find? fun f => f.1 = name && functions with
      | some (_, body) => return .function body
      | none => return (builtin? inner flags name).elim .program (.builtin false)

/-- The command behind the word that passes over functions, with what it asks for: to be run, or to
    be told. -/
def commandWords : List Bytes → Option Bool × List Bytes
  | ['-', 'v'] :: rest => (some false, rest)
  | ['-', 'V'] :: rest => (some true, rest)
  | ['-', 'p'] :: rest => (none, rest)
  | ['-', '-'] :: rest => (none, rest)
  | words => (none, words)

/-- Carries out words whose meaning is known. -/
def carryOut (inner : Inner) (flags : Flags) (words : List Bytes) : Meaning → Run Unit
  | .nothing => return ()
  | .function body => call inner flags body words.tail
  | .builtin special command => runBuiltin special (words.headD []) (command words.tail)
  | .program => runProgram inner flags words

/-- Passes over words that only say how the rest is looked up. -/
def lookUp (inner : Inner) (flags : Flags) : Nat → Bool → List Bytes → Run (List Bytes × Meaning)
  | 0, functions, words => return (words, ← meaning inner flags functions words)
  | fuel + 1, functions, words => do
    match words with
    | name :: rest =>
      if name = "command".toList then
        match commandWords rest with
        | (none, words) => lookUp inner flags fuel false words
        | (some inFull, names) =>
          return (words, .builtin false fun _ => Builtin.describe inFull (names.take 1))
      else return (words, ← meaning inner flags functions words)
    | [] => return ([], .nothing)

/-- Writes a command before it is run, if an option asks for it. -/
def trace (assignments : List (Name × Bytes)) (words : List Bytes) : Run Unit := do
  if ← Run.hasOption 'x' then
    let shown := assignments.map (fun (n, v) => n ++ '=' :: v) ++ words
    let _ ← Run.write 2 ("+ ".toList ++ List.intercalate [' '] shown ++ ['\n'])

/-- Gives variables their values. -/
def assignAll (inner : Inner) (local_ : Bool) (assignments : List (Name × Word)) :
    Run (List (Name × Bytes)) :=
  assignments.mapM fun (name, word) => do
    let value ← Expansion.expandValue (capture inner) word
    if local_ then Run.makeLocal name
    Run.assign name value
    if local_ then
      match ← Run.variableOf? name with
      | some v => Run.putVariable { v with exported := true }
      | none => pure ()
    return (name, value)

/-- Runs a simple command. -/
def simple (inner : Inner) (flags : Flags) (assignments : List (Name × Word)) (words : List Word)
    (redirections : List Redirection) : Run Unit := do
  Run.update fun s => { s with outputStatus := none }
  let given ← Expansion.expandCommand (capture inner) .open_ words
  let (words, what) ← lookUp inner flags given.length true given
  let keeps := words.head? = some "exec".toList && words.length = 1
  let body : Run Unit := do
    if ← redirectAll inner redirections then
      match what with
      | .nothing =>
        let values ← assignAll inner false assignments
        trace values []
        Run.setStatus ((← Run.shell).outputStatus.getD 0)
      | .builtin true _ =>
        let values ← assignAll inner false assignments
        trace values given
        carryOut inner flags words what
      | _ =>
        if assignments.isEmpty then
          trace [] given
          carryOut inner flags words what
        else
          Run.withLocals do
            let values ← assignAll inner true assignments
            trace values given
            carryOut inner flags words what
    else
      Run.setStatus 2
      match what with
      | .builtin true _ => throw .fault
      | _ => return ()
  if redirections.isEmpty ∨ keeps then body else Run.keepingDescriptors body

/-! ## Loops -/

/-- The number of turns after which a loop is given up. -/
def turnLimit : Nat := 10000000

/-- Does one turn of a loop and says whether there is to be another. -/
def turn (body : Run Unit) : Run Bool := do
  match ← Run.attempt body with
  | .ok () => return true
  | .error (.leaveLoop n) => if 1 < n then throw (.leaveLoop (n - 1)) else return false
  | .error (.nextTurn n) => if 1 < n then throw (.nextTurn (n - 1)) else return true
  | .error j => throw j

/-- Does turns until one says that it was the last; the code is that of the last body that ran. -/
def turns (condition body : Run Unit) (ends : Bool) : Nat → Nat → Run Nat
  | 0, code => return code
  | fuel + 1, code => do
    -- The condition, whose jumps count as those of the body do.
    let goesOn ← turn do
      condition
      if ((← Run.shell).status = 0) = ends then throw (.leaveLoop 0)
    if !goesOn then
      return code
    else
      let again ← turn body
      let code := (← Run.shell).status
      if again then turns condition body ends fuel code else return code

/-- Does something inside one more loop. -/
def insideLoop {α : Type} (r : Run α) : Run α := do
  Run.update fun s => { s with loops := s.loops + 1 }
  let result ← Run.attempt r
  Run.update fun s => { s with loops := s.loops - 1 }
  match result with
  | .ok a => return a
  | .error j => throw j

/-- Does one turn for each value. -/
def eachValue (name : Name) (body : Run Unit) : List Bytes → Run Unit
  | [] => return ()
  | value :: rest => do
    Run.assign name value
    if ← turn body then eachValue name body rest else return ()

/-! ## Commands -/

/-- Runs the commands of a pipeline, the first of which reads what is given. -/
def pipe (inner : Inner) : Option Nat → List Command → Run Unit
  | _, [] => return ()
  | input, [c] => do
    let fate ← inChild inner none id do
      input.forM fun file => Run.setDescriptor 0 (some file)
      inner.run { last := true } c
    Run.setStatus (codeOf fate)
  | input, c :: rest => do
    let channel ← Run.onMachine (Machine.openPipe [])
    let _ ← inChild inner none id do
      input.forM fun file => Run.setDescriptor 0 (some file)
      Run.setDescriptor 1 (some channel)
      inner.run { last := true } c
    pipe inner (some channel) rest

/-- Finds the arm of a case whose pattern stands for the value, and runs its command. -/
def arms (inner : Inner) (flags : Flags) (value : Bytes) : List Arm → Run Unit
  | [] => Run.setStatus 0
  | (patterns, body) :: rest => do
    let fits ← patterns.anyM fun w => return (← Expansion.expandPattern (capture inner) w).accepts value
    if fits then
      match body with
      | some c => inner.run flags c
      | none => Run.setStatus 0
    else arms inner flags value rest

/-- Sends a command to the background. -/
def sendToBackground (inner : Inner) (c : Command) : Run Unit := do
  let number ← Run.onMachine Machine.newProcess
  let sink ← Run.onMachine (Machine.openFile { channel := .sink })
  let shell ← Run.shell
  let body : Run Fate := inChild inner (some number) id do
    Run.setDescriptor 0 (some sink)
    inner.run { last := true } c
  let work : Work Fate := fun m =>
    match body ⟨shell, m⟩ with
    | (.ok fate, w) => (fate, w.machine)
    | (.error _, w) => (.exited 2, w.machine)
  Run.update fun s => { s with
    jobs := s.jobs ++ [{ number, work }]
    newestJob := some number
    status := 0 }

/-- Runs a command, given a runner for those inside it. -/
def runWith (inner : Inner) (flags : Flags) (command : Command) : Run Unit := do
  if ← Run.hasOption 'n' then return ()
  else
    match command with
    | .simple line assignments words redirections =>
      Run.update fun s => { s with line }
      simple inner flags assignments words redirections
      runTraps inner signalFuel
      checkStatus flags
    | .pipeline commands =>
      pipe inner none commands
      runTraps inner signalFuel
      checkStatus flags
    | .subshell line c redirections =>
      Run.update fun s => { s with line }
      let s ← Run.shell
      let replaces := flags.last && !s.hasTraps
      let fate ← inChild inner (if replaces then some s.process.number else none) id do
        if ← redirectAll inner redirections then inner.run { flags with last := true } c
        else throw (.exit (some 2))
      if replaces then becomeFate fate else Run.setStatus (codeOf fate)
      runTraps inner signalFuel
      checkStatus flags
    | .background c => sendToBackground inner c
    | .negation c =>
      inner.run { tested := true } c
      Run.setStatus (if (← Run.shell).status = 0 then 1 else 0)
    | .both a b =>
      inner.run { tested := true } a
      if (← Run.shell).status = 0 then inner.run flags b
    | .either a b =>
      inner.run { tested := true } a
      if (← Run.shell).status ≠ 0 then inner.run flags b
    | .sequence a b =>
      inner.run { flags with last := false } a
      inner.run flags b
    | .redirected line c redirections =>
      Run.update fun s => { s with line }
      Run.keepingDescriptors do
        if ← redirectAll inner redirections then inner.run { tested := flags.tested } c
        else Run.setStatus 2
    | .choice condition yes no =>
      inner.run { tested := true } condition
      if (← Run.shell).status = 0 then inner.run flags yes
      else
        match no with
        | some c => inner.run flags c
        | none => Run.setStatus 0
    | .loop ends condition body =>
      let code ← insideLoop <|
        turns (inner.run { tested := true } condition) (inner.run { tested := flags.tested } body)
          ends turnLimit 0
      Run.setStatus code
    | .each line name words body =>
      Run.update fun s => { s with line }
      let values ←
        match words with
        | some ws => Expansion.expandWords (capture inner) ws
        | none => pure (← Run.shell).parameters
      if values.isEmpty then Run.setStatus 0
      insideLoop (eachValue name (inner.run { tested := flags.tested } body) values)
    | .cases line word list =>
      Run.update fun s => { s with line }
      let value ← Expansion.expandWhole (capture inner) word
      arms inner flags value list
    | .define _ name body =>
      Run.update fun s =>
        { s with
          functions := (name, body) :: s.functions.filter fun f => f.1 ≠ name
          status := 0 }

/-- Runs a command to a depth of nesting. -/
def runTo (launch : Launcher) : Nat → Flags → Command → Run Unit
  | 0, _, _ => Run.fail "nested too deeply".toList
  | depth + 1, flags, command => runWith { run := runTo launch depth, launch } flags command

/-- The depth of nesting at which a script is given up. -/
def depthLimit : Nat := 2000

/-- What runs commands. -/
def runner (launch : Launcher) : Inner := { run := runTo launch depthLimit, launch }

end Execution
end SessionControl.Shell
