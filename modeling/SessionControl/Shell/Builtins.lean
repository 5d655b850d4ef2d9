import SessionControl.Shell.Condition
import SessionControl.Programs.Format
import SessionControl.Shell.Expansion

set_option autoImplicit false

/-! # Built-in commands

The commands that a shell carries out by itself, except for those that run other commands. Each
returns a code. A special one ends the script if something is wrong with how it is used. -/

namespace SessionControl.Shell.Builtin

open Machine (Signal Fate)

/-- Writes to standard output. -/
def say (bytes : Bytes) : Run Unit := do
  let _ ← Run.write 1 bytes

/-- Reads a number that a built-in command is given. -/
def number (word : Bytes) : Run Nat := do
  match Decimal.natural? word with
  | some n => if n < Nat.pow 2 31 then return n else Run.fail ("Illegal number: ".toList ++ word)
  | none => Run.fail ("Illegal number: ".toList ++ word)

/-- Leaves out the word that ends options. -/
def dropDashes : List Bytes → List Bytes
  | ['-', '-'] :: rest => rest
  | words => words

/-- The options at the front of the words, as letters, of which only some are known. -/
def letters (known : Bytes) : List Bytes → Run (Bytes × List Bytes)
  | [] => return ([], [])
  | word :: rest => do
    match word with
    | ['-', '-'] => return ([], rest)
    | '-' :: c :: cs =>
      match (c :: cs).find? fun l => !known.contains l with
      | some l => Run.fail ("Illegal option -".toList ++ [l])
      | none =>
        let (more, rest) ← letters known rest
        return (c :: cs ++ more, rest)
    | _ => return ([], word :: rest)

/-! ## Printing and testing -/

def echo (words : List Bytes) : Run Nat := do
  say (Programs.Echo.shellOutput words)
  return 0

def printf (words : List Bytes) : Run Nat := do
  let (_, words) ← letters [] words
  match words with
  | [] => Run.fail "usage: printf format [arg ...]".toList
  | format :: words =>
    let p := Programs.Format.print .shell format words
    p.complaints.forM Run.complain
    say p.output
    return p.code

/-- A condition; the name says whether it ends with a bracket. -/
def test (bracket : Bool) (words : List Bytes) : Run Nat := do
  let s ← Run.shell
  let disk := (← get).machine.disk
  let ask (words : List Bytes) : Run Nat := do
    let verdict := Condition.holds { disk, here := s.process.here } words
    match verdict with
    | .error f => Run.complain f.message
    | .ok _ => pure ()
    return Programs.Condition.code verdict
  if bracket then
    if (words.getLast?.getD []).head? = some ']' then ask words.dropLast
    else
      Run.complain "missing ]".toList
      return 2
  else ask words

/-! ## The working directory -/

/-- A path from the root without `.` and `..`, which go back over the name before. -/
def straightened (path : Bytes) : Bytes :=
  let step (done : List Bytes) (name : Bytes) : List Bytes :=
    if name = ['.'] then done else if name = ['.', '.'] then done.dropLast else done ++ [name]
  Machine.Path.ofPlace ((Machine.Path.names path).foldl step [])

/-- Whether a path begins with a step that says where it begins. -/
def isAnchored (path : Bytes) : Bool :=
  match path with
  | '/' :: _ => true
  | _ => [['.'], ['.', '.']].contains (path.takeWhile (· ≠ '/'))

/-- Whether a path leads to a directory. -/
def isDirectory (path : Bytes) : Run Bool := do
  let w ← get
  return match w.machine.disk.find w.shell.process.here path with
    | .ok .directory => true
    | _ => false

/-- Exports a variable with a value. -/
def export_ (name : String) (value : Bytes) : Run Unit := do
  Run.assign name.toList value
  match ← Run.variableOf? name.toList with
  | some v => Run.putVariable { v with exported := true }
  | none => return ()

/-- Goes to a directory; the flag says that the links on the way are followed for good. The answer is
    whether it is there. -/
def goTo (physical : Bool) (path : Bytes) : Run Bool := do
  let w ← get
  let whole :=
    if physical then path
    else straightened (if Machine.Path.isAbsolute path then path else w.shell.here ++ '/' :: path)
  if ← isDirectory whole then
    match w.machine.disk.resolve w.shell.process.here whole with
    | .ok place =>
      let here := if physical then Machine.Path.ofPlace place else whole
      export_ "OLDPWD" w.shell.here
      export_ "PWD" here
      Run.update fun s => { s with here, process := { s.process with here := place } }
      return true
    | .error _ => return false
  else return false

/-- Changes the working directory. -/
def cd (words : List Bytes) : Run Nat := do
  let (options, words) ← letters ['L', 'P'] words
  let physical := options.getLast? = some 'P'
  let valueOf (name : String) : Run Bytes := return (← Run.value? name.toList).getD []
  let goesBack := words.head? = some ['-']
  let target ←
    if goesBack then valueOf "OLDPWD"
    else
      match words with
      | [] => valueOf "HOME"
      | w :: _ => pure w
  let (path, isFound) ←
    if isAnchored target then pure (target, false)
    else
      let name := if target = [] then ['.'] else target
      let places := Machine.candidates (← valueOf "CDPATH") name
      let there ← places.filterM isDirectory
      pure (there.headD name, there.head?.any fun p => p ≠ name)
  if ← goTo physical path then
    if goesBack ∨ isFound then say ((← Run.shell).here ++ ['\n'])
    return 0
  else Run.fail ("can't cd to ".toList ++ target)

def pwd (words : List Bytes) : Run Nat := do
  let (options, _) ← letters ['L', 'P'] words
  let s ← Run.shell
  say ((if options.getLast? = some 'P' then Machine.Path.ofPlace s.process.here else s.here) ++
    ['\n'])
  return 0

/-! ## Variables -/

/-- A text between single quotes, so that it can be read back. -/
def quoted (bytes : Bytes) : Bytes :=
  if bytes.contains '\'' then
    '\'' :: bytes.flatMap (fun c => if c = '\'' then "'\"'\"'".toList else [c]) ++ ['\'']
  else '\'' :: bytes ++ ['\'']

/-- The variables by their names. -/
def sorted (vs : List Variable) : List Variable :=
  vs.mergeSort fun a b => !Bytes.lt b.name a.name

/-- A line that gives a variable its value. -/
def assignmentLine (before : String) (v : Variable) : Bytes :=
  before.toList ++ v.name ++
    (match v.value with | some value => '=' :: quoted value | none => []) ++ ['\n']

/-- Splits a word at its first equals sign. -/
def splitAssignment (word : Bytes) : Name × Option Bytes :=
  let name := word.takeWhile (· ≠ '=')
  match word.drop name.length with
  | _ :: value => (name, some value)
  | [] => (name, none)

/-- Marks variables, which may get values at the same time. -/
def declare (title : String) (mark : Variable → Variable) (isMarked : Variable → Bool)
    (words : List Bytes) : Run Nat := do
  let (options, words) ← letters ['p'] words
  if words = [] ∨ options ≠ [] then
    let vs := (← Run.shell).bindings.filter isMarked
    say ((sorted vs).flatMap (assignmentLine (title ++ " ")))
    return 0
  else
    words.forM fun word => do
      let (name, value) := splitAssignment word
      if !Ascii.isName name then Run.fail (name ++ ": bad variable name".toList)
      match value with
      | some value => Run.assign name value
      | none => pure ()
      let v ← Run.variableOf? name
      Run.putVariable (mark (v.getD { name, value := none }))
    return 0

/-- Makes variables local to the running function. -/
def localize (words : List Bytes) : Run Nat := do
  if (← Run.shell).locals.isEmpty then Run.fail "not in a function".toList
  else
    words.forM fun word => do
      let (name, value) := splitAssignment word
      if !Ascii.isName name then Run.fail (name ++ ": bad variable name".toList)
      Run.makeLocal name
      match value with
      | some value => Run.assign name value
      | none => pure ()
    return 0

def unset (words : List Bytes) : Run Nat := do
  let (options, words) ← letters ['f', 'v'] words
  words.forM fun name => do
    if options.contains 'f' then
      Run.update fun s => { s with functions := s.functions.filter fun f => f.1 ≠ name }
    else if !Ascii.isName name then Run.fail (name ++ ": bad variable name".toList)
    else
      match ← Run.variableOf? name with
      | some v =>
        if v.readOnly then Run.fail (name ++ ": is read only".toList) else Run.dropVariable name
      | none => pure ()
  return 0

/-! ## Options and parameters -/

/-- The names of options with their letters. -/
def optionNames : List (String × Char) :=
  [("errexit", 'e'), ("noglob", 'f'), ("ignoreeof", 'I'), ("interactive", 'i'), ("monitor", 'm'),
   ("noexec", 'n'), ("stdin", 's'), ("xtrace", 'x'), ("verbose", 'v'), ("vi", 'V'), ("emacs", 'E'),
   ("noclobber", 'C'), ("allexport", 'a'), ("notify", 'b'), ("nounset", 'u'), ("privileged", 'p')]

/-- Lists all options and whether they are on. -/
def listOptions : Run Unit := do
  let on := (← Run.shell).options
  let line (name : String) (isOn : Bool) : Bytes :=
    Bytes.padRight ' ' 16 name.toList ++ (if isOn then "on\n" else "off\n").toList
  say ("Current option settings\n".toList ++
    (optionNames.flatMap fun (name, letter) => line name (on.contains letter)) ++
    line "nolog" false ++ line "debug" false)

/-- Turns an option on or off. -/
def setOption (on : Bool) (letter : Char) : Run Unit := do
  if optionNames.any fun o => o.2 = letter then
    Run.update fun s =>
      let others := s.options.filter (· ≠ letter)
      { s with options := if on then letter :: others else others }
  else Run.fail ("Illegal option -".toList ++ [letter])

/-- Turns an option on or off by its name. -/
def setOptionByName (on : Bool) (name : Bytes) : Run Unit := do
  match optionNames.find? fun o => o.1.toList = name with
  | some (_, letter) => setOption on letter
  | none => Run.fail ("Illegal option -o ".toList ++ name)

/-- Takes options off the front of the words; the rest is returned if there is any, or if a double
    dash says that there is none. -/
def takeOptions : List Bytes → Run (Option (List Bytes))
  | [] => return none
  | word :: rest => do
    match word with
    | ['-', '-'] => return some rest
    | ['-'] =>
      setOption false 'x'
      setOption false 'v'
      return if rest = [] then none else some rest
    | sign :: c :: cs =>
      if sign = '-' ∨ sign = '+' then
        let on := decide (sign = '-')
        let plain := (c :: cs).filter (· ≠ 'o')
        plain.forM (setOption on)
        if (c :: cs).contains 'o' then
          match rest with
          | name :: rest =>
            setOptionByName on name
            takeOptions rest
          | [] =>
            listOptions
            return none
        else takeOptions rest
      else return some (word :: rest)
    | _ => return some (word :: rest)

def set (words : List Bytes) : Run Nat := do
  if words = [] then
    say ((sorted (← Run.shell).bindings).flatMap fun v =>
      if v.value.isSome then assignmentLine "" v else [])
    return 0
  else
    match ← takeOptions words with
    | some parameters => Run.update fun s => { s with parameters }
    | none => pure ()
    return 0

def shift (words : List Bytes) : Run Nat := do
  let n ←
    match words with
    | [] => pure 1
    | w :: _ => number w
  let parameters := (← Run.shell).parameters
  if parameters.length < n then Run.fail "can't shift that many".toList
  else
    Run.update fun s => { s with parameters := parameters.drop n }
    return 0

/-! ## Reading -/

/-- The next line of standard input, whose escaped characters are marked; the flag says whether a line
    end was there. -/
def readLine (raw : Bool) : Nat → Bytes → List Mark × Nat × Bool
  | 0, _ => ([], 0, false)
  | _ + 1, [] => ([], 0, false)
  | fuel + 1, c :: cs =>
    if c = '\n' then ([], 1, true)
    else if c = '\\' ∧ !raw then
      match cs with
      | [] => ([], 1, false)
      | '\n' :: rest =>
        let (ms, n, ended) := readLine raw fuel rest
        (ms, n + 2, ended)
      | d :: rest =>
        let (ms, n, ended) := readLine raw fuel rest
        (⟨d, true⟩ :: ms, n + 2, ended)
    else
      let (ms, n, ended) := readLine raw fuel cs
      (⟨c, false⟩ :: ms, n + 1, ended)

/-- Whether a character is separating white space. -/
def isSeparatingSpace (separators : Bytes) (m : Mark) : Bool :=
  !m.quoted && separators.contains m.char && (Ascii.isBlank m.char || m.char = '\n')

/-- Whether a character separates. -/
def isSeparator (separators : Bytes) (m : Mark) : Bool := !m.quoted && separators.contains m.char

/-- What the last variable gets of the rest of a line: all of it, but a single word without what
    separates it from nothing. -/
def lastField (separators : Bytes) (ms : List Mark) : List Mark :=
  let isSpace := isSeparatingSpace separators
  let kept := (ms.reverse.dropWhile isSpace).reverse
  let word := kept.takeWhile fun m => !isSeparator separators m
  match (kept.drop word.length).dropWhile isSpace with
  | [] | [_] => if (kept.drop word.length).all (isSeparator separators) then word else kept
  | _ => kept

/-- Cuts a line into one value for each variable; the last one gets all that is left. -/
def fields (separators : Bytes) : List Name → List Mark → List (Name × Bytes)
  | [], _ => []
  | [name], ms =>
    let ms := ms.dropWhile (isSeparatingSpace separators)
    [(name, (lastField separators ms).map (·.char))]
  | name :: names, ms =>
    let ms := ms.dropWhile (isSeparatingSpace separators)
    let word := ms.takeWhile fun m => !isSeparator separators m
    let rest := (ms.drop word.length).dropWhile (isSeparatingSpace separators)
    let rest :=
      match rest with
      | m :: behind => if isSeparator separators m then behind else rest
      | [] => []
    (name, word.map (·.char)) :: fields separators names rest

def read (words : List Bytes) : Run Nat := do
  let (options, names) ← readOptions words
  if names = [] then Run.fail "arg count".toList
  else
    let s ← Run.shell
    match Machine.fileOf? s.process.descriptors 0 with
    | none => return 1
    | some file =>
      match ← Run.onMachine (Machine.ahead file) with
      | .error _ => return 1
      | .ok bytes =>
        let (line, count, ended) := readLine (options.contains 'r') (bytes.length + 1) bytes
        Run.onMachine (Machine.advance file count)
        (fields (← Expansion.separators) names line).forM fun (name, value) => do
          if !Ascii.isName name then Run.fail (name ++ ": bad variable name".toList)
          Run.assign name value
        return if ended then 0 else 1
where
  readOptions : List Bytes → Run (Bytes × List Bytes)
    | ['-', 'p'] :: _ :: rest => return ([], rest)
    | ['-', 'r'] :: rest => return (['r'], dropDashes rest)
    | words => letters ['r'] words

/-! ## Options of scripts -/

/-- How far a script has read its own options: the number of the word, and what is left of it. -/
def getopts (words : List Bytes) : Run Nat := do
  match words with
  | known :: name :: others =>
    let s ← Run.shell
    let given := if others = [] then s.parameters else others
    let index := (Decimal.natural? ((← Run.value? "OPTIND".toList).getD ['1'])).getD 1
    let inWord := (Decimal.natural? ((← Run.value? hidden).getD ['1'])).getD 1
    let silent := known.head? = some ':'
    match given[index - 1]? with
    | some ('-' :: letters) =>
      if letters = [] then finish name index
      else if letters = ['-'] then finish name (index + 1)
      else
        match letters[inWord - 1]? with
        | none => finish name index
        | some c =>
          let isLast := letters.length ≤ inWord
          let onward := if isLast then (index + 1, 1) else (index, inWord + 1)
          let takes := decide ((known.dropWhile (· ≠ c))[1]? = some ':')
          if c = ':' ∨ !known.contains c then
            moveTo onward
            Run.assign name ['?']
            if silent then Run.assign "OPTARG".toList [c]
            else
              Run.dropVariable "OPTARG".toList
              let _ ← Run.write 2 ("Illegal option -".toList ++ [c, '\n'])
            return 0
          else if takes then
            let inside := letters.drop inWord
            match (if inside ≠ [] then some (inside, 1) else given[index]?.map fun w => (w, 2)) with
            | some (value, steps) =>
              moveTo (index + steps, 1)
              Run.assign "OPTARG".toList value
              Run.assign name [c]
              return 0
            | none =>
              moveTo (index + 1, 1)
              if silent then
                Run.assign "OPTARG".toList [c]
                Run.assign name [':']
              else
                Run.dropVariable "OPTARG".toList
                Run.assign name ['?']
                let _ ← Run.write 2 ("No arg for -".toList ++ c :: " option\n".toList)
              return 0
          else
            moveTo onward
            Run.dropVariable "OPTARG".toList
            Run.assign name [c]
            return 0
    | _ => finish name index
  | _ => Run.fail "Usage: getopts optstring var [arg...]".toList
where
  hidden : Name := " OPTOFF".toList
  moveTo (at_ : Nat × Nat) : Run Unit := do
    Run.assign "OPTIND".toList (Decimal.digits at_.1)
    Run.putVariable { name := hidden, value := some (Decimal.digits at_.2) }
  finish (name : Name) (index : Nat) : Run Nat := do
    moveTo (index, 1)
    Run.assign name ['?']
    return 1

/-! ## Signals -/

/-- Sends a signal to a process by its number: the shell itself, the one that it is a part of, or a
    job. -/
def sendTo (signal : Signal) (number : Nat) : Run Bool := do
  let s ← Run.shell
  if number = s.process.number ∨ number = 0 then
    Run.arrive signal
    return true
  else if number = s.mainNumber then
    if signal ≠ 0 then Run.onMachine (Machine.send number signal)
    return true
  else if s.jobs.any fun j => j.number = number && j.fate.isNone then
    if Signal.ends signal then
      Run.update fun s =>
        { s with jobs := s.jobs.map fun j =>
            if j.number = number then { j with fate := some (.killed signal) } else j }
    return true
  else if (← value? "PPID") = some (Decimal.digits number) then
    if signal ≠ 0 then Run.onMachine (Machine.send number signal)
    return true
  else return false
where
  value? (name : String) : Run (Option Bytes) := Run.value? name.toList

/-- Lists signals: all of them, or the name of one that is told by a number or an exit code. -/
def listSignals (words : List Bytes) : Run Nat := do
  match words with
  | [] =>
    say ("0\n".toList ++ Signal.names.flatMap fun n => n.toList ++ ['\n'])
    return 0
  | w :: _ =>
    let n ← number w
    let n := if 128 < n then n - 128 else n
    match Signal.name? n with
    | some name =>
      say (name.toList ++ ['\n'])
      return 0
    | none => Run.fail ("invalid signal number or exit status: ".toList ++ w)

/-- Sends a signal to each of some processes. -/
def killAll (signal : Signal) (targets : List Bytes) : Run Nat := do
  let codes ← targets.mapM fun t => do
    match t with
    | '%' :: job =>
      let jobs := (← Run.shell).jobs
      match (Decimal.natural? job).bind fun n => jobs[n - 1]? with
      | some j => ok (← sendTo signal j.number)
      | none => Run.fail ("No such job: ".toList ++ t)
    | '-' :: group => ok (← sendTo signal (← number group))
    | _ => ok (← sendTo signal (← number t))
  return if codes.all (· = 0) then 0 else 1
where
  ok (sent : Bool) : Run Nat := do
    if sent then return 0
    else
      Run.complain "No such process\n".toList
      return 1

def kill (words : List Bytes) : Run Nat := do
  let usage : Run Nat := Run.fail
    ("Usage: kill [-s sigspec | -signum | -sigspec] [pid | job]... or\n".toList ++
      "kill -l [exitstatus]".toList)
  match words with
  | [] => usage
  | ['-', 'l'] :: rest => listSignals rest
  | ['-', 's'] :: rest =>
    match rest with
    | [] => Run.fail "No arg for -s option".toList
    | name :: targets =>
      match Signal.read? name with
      | some signal => if targets = [] then usage else killAll signal (dropDashes targets)
      | none => Run.fail ("invalid signal number or name: ".toList ++ name)
  | ['-', '-'] :: targets => if targets = [] then usage else killAll Signal.terminate targets
  | ('-' :: name) :: targets =>
    match Signal.read? name with
    | some signal => if targets = [] then usage else killAll signal (dropDashes targets)
    | none => Run.fail ("Illegal option -".toList ++ name.take 1)
  | targets => killAll Signal.terminate targets

/-- Says what is done on signals. -/
def trap (words : List Bytes) : Run Nat := do
  let words := dropDashes words
  match words with
  | [] =>
    let traps := (← Run.shell).traps.mergeSort fun a b => a.1 ≤ b.1
    say (traps.flatMap fun (signal, action) =>
      "trap -- ".toList ++ quoted action ++ ' ' :: ((Signal.name? signal).getD "").toList ++ ['\n'])
    return 0
  | first :: rest =>
    let resets := rest = [] ∨ (Decimal.natural? first).isSome
    let (action, names) := if resets then (none, words) else (some first, rest)
    let action := action.filter (· ≠ ['-'])
    let rec go : List Bytes → Run Nat
      | [] => return 0
      | name :: names => do
        match Signal.read? name with
        | none =>
          let _ ← Run.write 2 ("trap: ".toList ++ name ++ ": bad trap\n".toList)
          return 1
        | some signal =>
          Run.update fun s =>
            let others := s.traps.filter fun t => t.1 ≠ signal
            -- A signal that was ignored from the beginning stays ignored.
            if s.process.ignored.contains signal then s
            else
              match action with
              | some a => { s with traps := others ++ [(signal, a)] }
              | none => { s with traps := others }
          go names
    go names

/-! ## Jobs -/

/-- Runs a job to its end, if it has not ended yet. -/
def finishJob (number : Nat) : Run (Option Fate) := do
  match (← Run.shell).jobs.find? fun j => j.number = number with
  | none => return none
  | some j =>
    match j.fate with
    | some fate => return some fate
    | none =>
      let fate ← Run.onMachine j.work
      Run.update fun s =>
        { s with jobs := s.jobs.map fun k =>
            if k.number = number then { k with fate := some fate } else k }
      return some fate

/-- Runs all jobs to their ends. -/
def finishJobs : Run Unit := do
  (← Run.shell).jobs.forM fun j => do
    let _ ← finishJob j.number

/-- Says that a signal ended a process, where something is said of that. -/
def mourn (signal : Signal) : Run Unit := do
  match Signal.epitaph signal with
  | some text =>
    let _ ← Run.write 2 (text.toList ++ ['\n'])
  | none => pure ()

/-- Lists the jobs that have not been waited for, the newest marked with a plus and the one before it
    with a minus. -/
def listJobs : Run Nat := do
  let jobs := (← Run.shell).jobs
  let numbered := (List.range jobs.length).zip jobs
  numbered.forM fun (i, j) => do
    if j.fate.isNone then
      let mark :=
        if i + 1 = jobs.length then '+' else if i + 2 = jobs.length then '-' else ' '
      say (Bytes.padRight ' ' 33 ('[' :: Decimal.digits (i + 1) ++ [']', ' ', mark, ' '] ++
        "Running".toList) ++ ['\n'])
  return 0

/-- Lists or defines aliases. -/
def makeAliases (words : List Bytes) : Run Nat := do
  let line (a : Bytes × Bytes) : Bytes := a.1 ++ '=' :: quoted a.2 ++ ['\n']
  if words = [] then
    say (((← Run.shell).aliases.mergeSort fun a b => !Bytes.lt b.1 a.1).flatMap line)
    return 0
  else
    let codes ← words.mapM fun word => do
      match splitAssignment word with
      | (name, some text) =>
        Run.update fun s =>
          { s with aliases := (name, text) :: s.aliases.filter fun a => a.1 ≠ name }
        return 0
      | (name, none) =>
        match (← Run.shell).aliases.find? fun a => a.1 = name with
        | some a =>
          say (line a)
          return 0
        | none =>
          let _ ← Run.write 2 ("alias: ".toList ++ name ++ " not found\n".toList)
          return 1
    return (codes.find? (· ≠ 0)).getD 0

/-- Forgets aliases. -/
def dropAliases (words : List Bytes) : Run Nat := do
  let (options, words) ← letters ['a'] words
  if options ≠ [] then
    Run.update fun s => { s with aliases := [] }
    return 0
  else
    let codes ← words.mapM fun name => do
      if (← Run.shell).aliases.any fun a => a.1 = name then
        Run.update fun s => { s with aliases := s.aliases.filter fun a => a.1 ≠ name }
        return 0
      else
        let _ ← Run.write 2 ("unalias: ".toList ++ name ++ " not found\n".toList)
        return 1
    return (codes.find? (· ≠ 0)).getD 0

/-- Tells or sets the permissions that new files are not given. -/
def mask (words : List Bytes) : Run Nat := do
  let (options, words) ← letters ['S'] words
  let n := (← Run.shell).fileMask
  match words with
  | [] =>
    if options = [] then say (Bytes.padLeft '0' 4 (Nat.toDigits 8 n) ++ ['\n'])
    else
      let part (who : Char) (shift : Nat) : Bytes :=
        let bits := 7 - (n >>> shift) % 8
        who :: '=' :: (if bits / 4 % 2 = 1 then ['r'] else []) ++
          (if bits / 2 % 2 = 1 then ['w'] else []) ++ (if bits % 2 = 1 then ['x'] else [])
      say (List.intercalate [','] [part 'u' 6, part 'g' 3, part 'o' 0] ++ ['\n'])
    return 0
  | word :: _ =>
    if word.head?.any Ascii.isDigit then
      if word.all (Ascii.isDigitIn 8) then
        Run.update fun s => { s with fileMask := Ascii.ofDigits 8 word % 512 }
        return 0
      else Run.fail ("Illegal number: ".toList ++ word)
    else return 0

def wait (words : List Bytes) : Run Nat := do
  if words = [] then
    finishJobs
    Run.update fun s => { s with jobs := [] }
    return 0
  else
    let codes ← words.mapM fun w => do
      let n ←
        match w with
        | '%' :: job =>
          let jobs := (← Run.shell).jobs
          match (Decimal.natural? job).bind fun n => jobs[n - 1]? with
          | some j => pure j.number
          | none => Run.fail ("No such job: ".toList ++ w)
        | _ => number w
      let fate ← finishJob n
      match fate with
      | some (.killed signal) => mourn signal
      | _ => pure ()
      return (fate.map codeOf).getD 127
    return codes.getLast?.getD 0

/-! ## What commands are -/

/-- The built-in commands whose failure ends a script. -/
def specialNames : List String := Grammar.reservedNames

/-- The other built-in commands. -/
def regularNames : List String :=
  ["alias", "bg", "cd", "chdir", "command", "echo", "false", "fg", "getopts", "hash", "jobs", "kill",
   "local", "printf", "pwd", "read", "test", "[", "true", "type", "ulimit", "umask", "unalias",
   "wait"]

def isSpecial (name : Bytes) : Bool := specialNames.any fun n => n.toList = name

def isRegular (name : Bytes) : Bool := regularNames.any fun n => n.toList = name

/-- The path of a program by its name. -/
def program? (name : Bytes) : Run (Option Bytes) := do
  let directories := (← Run.value? "PATH".toList).getD []
  let here := (← Run.shell).process.here
  let disk := (← get).machine.disk
  return (Machine.candidates directories name).find? fun path =>
    match disk.find here path with
    | .ok (.file _ _) => true
    | _ => false

/-- Tells what commands are, in full or just how they are called. -/
def describe (inFull : Bool) (names : List Bytes) : Run Nat := do
  let codes ← names.mapM fun name => do
    let tell (short : Bytes) (kind : String) : Run Nat := do
      say ((if inFull then name ++ kind.toList else short) ++ ['\n'])
      return 0
    let s ← Run.shell
    if Grammar.keywords.any fun k => k.toList = name then tell name " is a shell keyword"
    else if s.aliases.any fun a => a.1 = name then
      let text := ((s.aliases.find? fun a => a.1 = name).map (·.2)).getD []
      say (if inFull then name ++ " is an alias for ".toList ++ text ++ ['\n']
        else "alias ".toList ++ name ++ '=' :: quoted text ++ ['\n'])
      return 0
    else if s.functions.any fun f => f.1 = name then tell name " is a shell function"
    else if isSpecial name then tell name " is a special shell builtin"
    else if isRegular name then tell name " is a shell builtin"
    else
      match ← program? name with
      | some path =>
        say ((if inFull then name ++ " is ".toList ++ path else path) ++ ['\n'])
        return 0
      | none =>
        if inFull then say (name ++ ": not found\n".toList)
        return 127
  return (codes.find? (· ≠ 0)).getD 0

/-- Carries out a built-in command that runs no other. -/
def simple? (name : Bytes) : Option (List Bytes → Run Nat) :=
  match String.ofList name with
  | ":" | "true" => some fun _ => return 0
  | "false" => some fun _ => return 1
  | "echo" => some echo
  | "printf" => some printf
  | "test" => some (test false)
  | "[" => some (test true)
  | "cd" | "chdir" => some cd
  | "pwd" => some pwd
  | "export" => some (declare "export" (fun v => { v with exported := true }) (·.exported))
  | "readonly" => some (declare "readonly" (fun v => { v with readOnly := true }) (·.readOnly))
  | "local" => some localize
  | "unset" => some unset
  | "set" => some set
  | "shift" => some shift
  | "read" => some read
  | "getopts" => some getopts
  | "kill" => some kill
  | "trap" => some trap
  | "wait" => some wait
  | "type" => some (describe true)
  | "umask" => some mask
  | "alias" => some makeAliases
  | "unalias" => some dropAliases
  | "jobs" => some fun _ => listJobs
  | "times" => some fun _ => do
    say "0m0.000000s 0m0.000000s\n0m0.000000s 0m0.000000s\n".toList
    return 0
  | "ulimit" => some fun _ => do
    say "unlimited\n".toList
    return 0
  | "fg" | "bg" => some fun _ => Run.fail "No current job".toList
  | "hash" => some fun _ => return 0
  | _ => none

end SessionControl.Shell.Builtin
