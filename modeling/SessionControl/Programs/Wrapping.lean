import SessionControl.Machine.Searching
import SessionControl.Programs.Tool

set_option autoImplicit false

/-! # Programs around programs

Programs that run another one in surroundings of its own: with other variables, for a limited time,
or once for each part of what they read. -/

namespace SessionControl.Programs

open Machine (Process Work Fate Launcher)
open Tool

namespace Wrapping

/-! ## Starting -/

/-- The code for a program that cannot be started. -/
def codeOf : SystemFault → Nat
  | .notFound => 127
  | _ => 126

/-- Runs a program in the place of the one around it. -/
def become (launch : Launcher) (p : Process) (words : List Bytes)
    (environment : List (Bytes × Bytes)) (text : Bytes → Bytes := quoted) : Work Fate := do
  let inner := { p with words, environment }
  match ← Machine.Searching.start (Machine.Searching.launchScripts launch) inner with
  | .ok fate => return fate
  | .error f => refuse p (codeOf f) (text (words.headD []) ++ ": ".toList ++ f.title.toList)

/-! ## Variables -/

/-- The name and the value of a setting, if it is one. -/
def setting? (word : Bytes) : Option (Bytes × Bytes) :=
  if word.contains '=' then
    let name := word.takeWhile (· ≠ '=')
    some (name, (word.drop name.length).drop 1)
  else none

/-- Puts a variable in its place, or behind all others. -/
def setVariable (environment : List (Bytes × Bytes)) (v : Bytes × Bytes) : List (Bytes × Bytes) :=
  if environment.any fun u => u.1 = v.1 then environment.map fun u => if u.1 = v.1 then v else u
  else environment ++ [v]

/-- A variable and its value on a line, or before a null character. -/
def variableLine (nulls : Bool) (v : Bytes × Bytes) : Bytes :=
  v.1 ++ '=' :: v.2 ++ [if nulls then '\x00' else '\n']

/-- Runs a program with other variables, or writes them. -/
def withVariables (launch : Launcher) : Tool := fun p =>
  let o : Options :=
    { plain := "i0v", valued := "uCS", anywhere := false
      long := [("ignore-environment", 'i'), ("unset", 'u'), ("null", '0'), ("chdir", 'C')] }
  withOptions o 125
    (fun p a =>
      let bare := a.words.head? = some ['-']
      let words := if bare then a.words.tail else a.words
      let start := if bare ∨ a.has 'i' then [] else p.environment
      let gone := a.options.filter fun g => g.letter = 'u'
      let kept := start.filter fun v => !gone.any fun g => g.value = v.1
      let settings := (words.takeWhile fun w => (setting? w).isSome).filterMap setting?
      let environment := settings.foldl setVariable kept
      let rest := words.drop settings.length
      let nulls := a.has '0'
      if rest = [] then answer p (environment.flatMap (variableLine nulls))
      else if nulls then
        misused p 125 "cannot specify --null (-0) with command".toList
      else become launch p rest environment)
    p

/-- Writes the values of variables, or all of them. -/
def showVariables : Tool := withOptions { plain := "0", long := [("null", '0')], anywhere := false } 2
  fun p a => do
    let nulls := a.has '0'
    if a.words = [] then answer p (p.environment.flatMap (variableLine nulls))
    else
      let values := a.words.map fun w => if w.contains '=' then none else p.valueOf? w
      say p ((values.filterMap id).flatMap fun v => v ++ [if nulls then '\x00' else '\n'])
      exit (if values.all Option.isSome then 0 else 1)

/-! ## Time -/

/-- How many milliseconds a word asks for: a number with at most one point, in seconds unless a letter
    says otherwise. -/
def milliseconds? (word : Bytes) : Option Nat :=
  let whole := word.takeWhile Ascii.isDigit
  let rest := word.drop whole.length
  let (places, rest) :=
    match rest with
    | '.' :: cs => (cs.takeWhile Ascii.isDigit, cs.dropWhile Ascii.isDigit)
    | cs => ([], cs)
  if whole = [] ∧ places = [] then none
  else
    let thousandths := Decimal.ofDigits (whole ++ Bytes.padRight '0' 3 (places.take 3))
    match rest with
    | [] | ['s'] => some thousandths
    | ['m'] => some (60 * thousandths)
    | ['h'] => some (3600 * thousandths)
    | ['d'] => some (86400 * thousandths)
    | _ => none

/-- Lets time pass. -/
def sleep : Tool := fun p => do
  match p.arguments with
  | [] => misused p 1 "missing operand".toList
  | words =>
    let times := words.map fun w => (w, milliseconds? w)
    let wrong := times.filter fun t => t.2.isNone
    wrong.forM fun t => complain p ("invalid time interval ".toList ++ quoted t.1)
    if wrong.isEmpty then
      modify fun s => { s with clock := (times.filterMap (·.2)).foldl (· + ·) s.clock }
      exit 0
    else
      let _ ← p.write 2 ("Try '".toList ++ p.name ++ " --help' for more information.\n".toList)
      exit 1

/-- Runs a program for a limited time. -/
def timeout (launch : Launcher) : Tool :=
  let o : Options :=
    { plain := "vfp", valued := "ks", anywhere := false
      long := [("signal", 's'), ("kill-after", 'k'), ("preserve-status", 'p'), ("foreground", 'f')] }
  withOptions o 125 fun p a => do
    match a.words with
    | limit :: command :: arguments =>
      match milliseconds? limit with
      | none => misused p 125 ("invalid time interval ".toList ++ quoted limit)
      | some limit =>
        let begin_ := (← get).clock
        let number ← Machine.newProcess
        let inner := { p with number, parent := p.number }
        let words := command :: arguments
        match ← Machine.Searching.start (Machine.Searching.launchScripts launch)
          { inner with words } with
        | .error f =>
          refuse p (codeOf f) ("failed to run command ".toList ++ quoted command ++ ": ".toList ++
            f.title.toList)
        | .ok fate =>
          if 0 < limit ∧ limit < (← get).clock - begin_ then exit (if a.has 'p' then 143 else 124)
          else
            match fate with
            | .exited code => exit code
            | .killed signal =>
              -- The signal is passed on.
              return .killed signal
    | _ => misused p 125 "missing operand".toList

/-- Runs a program with some importance. -/
def nice (launch : Launcher) : Tool :=
  withOptions { valued := "n", long := [("adjustment", 'n')], anywhere := false } 125 fun p a =>
    if a.words = [] then answer p "0\n".toList
    else become launch p a.words p.environment

/-- Runs a program that outlives its terminal. -/
def nohup (launch : Launcher) : Tool := withOptions { anywhere := false } 125 fun p a =>
  if a.words = [] then misused p 125 "missing operand".toList
  else
    become launch { p with ignored := Machine.Signal.hangup :: p.ignored } a.words p.environment
      fun name => "failed to run command ".toList ++ quoted name

/-! ## Parts of the input -/

/-- The words of a text, with quotes and backslashes as a shell has them. -/
def inputWords (quote : Option Char) (current : Option Bytes) : Bytes → List Bytes
  | [] => current.toList.map List.reverse
  | c :: cs =>
    let put (c : Char) : Option Bytes := some (c :: current.getD [])
    match quote with
    | some '\\' => inputWords none (put c) cs
    | some q => if c = q then inputWords none (some (current.getD [])) cs else inputWords quote (put c) cs
    | none =>
      if c = '\\' then inputWords (some '\\') current cs
      else if c = '\'' ∨ c = '"' then inputWords (some c) (some (current.getD [])) cs
      else if Ascii.isSpace c then current.toList.map List.reverse ++ inputWords none none cs
      else inputWords none (put c) cs

/-- Puts a text in the place of another one. -/
def replaceAll (old new : Bytes) : Nat → Bytes → Bytes
  | 0, bs => bs
  | _ + 1, [] => []
  | fuel + 1, c :: cs =>
    if old ≠ [] ∧ old.isPrefixOf (c :: cs) then
      new ++ replaceAll old new fuel ((c :: cs).drop old.length)
    else c :: replaceAll old new fuel cs

/-- Words in groups of a size. -/
def groups (size : Nat) (words : List Bytes) : List (List Bytes) :=
  let n := max size 1
  (List.range ((words.length + n - 1) / n)).map fun i => (words.drop (n * i)).take n

/-- Runs commands one after the other. The code tells of the worst that happened. -/
def runAll (launch : Launcher) (p : Process) (code : Nat) : List (List Bytes) → Work Fate
  | [] => exit code
  | words :: rest => do
    let number ← Machine.newProcess
    let sink ← Machine.openFile { channel := .sink }
    let others := p.descriptors.filter fun d => d.1 ≠ 0
    let inner := { p with number, parent := p.number, words, descriptors := (0, sink) :: others }
    match ← Machine.Searching.start (Machine.Searching.launchScripts launch) inner with
    | .error f => refuse p (codeOf f) (faultText (words.headD []) f)
    | .ok (.exited 0) => runAll launch p code rest
    | .ok (.exited 255) =>
      refuse p 124 (words.headD [] ++ ": exited with status 255; aborting".toList)
    | .ok (.exited _) => runAll launch p 123 rest
    | .ok (.killed signal) =>
      refuse p 125 (words.headD [] ++ ": terminated by signal ".toList ++ Decimal.digits signal)

/-- Runs a command with words from standard input. -/
def eachWord (launch : Launcher) : Tool :=
  let o : Options :=
    { plain := "0rtpx", valued := "nIdLPs", anywhere := false
      long := [("null", '0'), ("no-run-if-empty", 'r'), ("max-args", 'n'), ("replace", 'I'),
        ("delimiter", 'd'), ("max-lines", 'L'), ("max-procs", 'P')] }
  withOptions o 1 fun p a => do
    let text :=
      match ← p.readAll 0 with
      | .ok text => text
      | .error _ => []
    let command := if a.words = [] then ["echo".toList] else a.words
    let separator : Option Char :=
      if a.has '0' then some '\x00'
      else
        match a.value? 'd' with
        | some ['\\', 'n'] => some '\n'
        | some ['\\', 't'] => some '\t'
        | some ['\\', '0'] => some '\x00'
        | some (c :: _) => some c
        | _ => none
    match a.value? 'I' with
    | some mark =>
      let lines : List Bytes :=
        match separator with
        | some s => (Bytes.splitOn s text).filter (· ≠ [])
        | none => ((Bytes.lines text).map (List.dropWhile Ascii.isBlank)).filter (· ≠ [])
      let filled (line : Bytes) : List Bytes :=
        command.map fun w => replaceAll mark line w.length w
      runAll launch p 0 (lines.map filled)
    | none =>
      let words :=
        match separator with
        | some s =>
          let parts := Bytes.splitOn s text
          if parts.getLast? = some [] then parts.dropLast else parts
        | none => inputWords none none text
      let lots :=
        match (a.value? 'n').bind Decimal.natural? with
        | some n => groups n words
        | none =>
          match (a.value? 'L').bind Decimal.natural? with
          | some n =>
            let lines := ((Bytes.lines text).map (inputWords none none)).filter (· ≠ [])
            (List.range ((lines.length + n - 1) / max n 1)).map fun i =>
              ((lines.drop (n * i)).take n).flatten
          | none => [words]
      let lots := if words = [] then if a.has 'r' then [] else [[]] else lots
      runAll launch p 0 (lots.map fun l => command ++ l)

end Wrapping
end SessionControl.Programs
