import SessionControl.Machine.Disk
import SessionControl.Machine.Signal

set_option autoImplicit false

/-! # Processes and open files

A machine has a disk and open files; a process has numbers, its descriptors, for some of the open
files, and shares the file positions with everyone else who has them. What is written to a pipe waits
in it until it is read. Processes run one after the other: a process finds in a pipe all that its
predecessor wrote. -/

namespace SessionControl.Machine

/-! ## Open files -/

/-- What an open file leads to. -/
inductive Channel
  | sink
  /-- A pipe, by its number. -/
  | pipe (number : Nat)
  | file (place : Place)
  deriving DecidableEq, Repr

/-- An open file with its position. -/
structure OpenFile where
  channel : Channel
  position : Nat := 0
  /-- Whether writing goes to the end of the file, wherever that is. -/
  appends : Bool := false
  deriving Repr

/-- A machine. -/
structure State where
  disk : Disk
  /-- What waits in the pipes. -/
  pipes : Array Bytes := #[]
  files : Array OpenFile := #[]
  /-- The number of the process that was started last. -/
  newestProcess : Nat := 100
  /-- Signals on their way, with the numbers of the processes that they are for. -/
  signals : List (Nat × Signal) := []
  /-- The milliseconds that have passed. -/
  clock : Nat := 0

/-- What happens on a machine. -/
abbrev Work := StateM State

/-! ## Processes -/

/-- How a process ends. -/
inductive Fate
  | exited (code : Nat)
  | killed (signal : Signal)
  deriving DecidableEq, Repr

/-- What a process is given when it starts. -/
structure Process where
  number : Nat
  /-- The number of the process that started it. -/
  parent : Nat
  /-- Its name and arguments. -/
  words : List Bytes
  /-- Its variables. -/
  environment : List (Bytes × Bytes)
  /-- Its descriptors, each with the open file that it stands for. -/
  descriptors : List (Nat × Nat)
  /-- Its working directory. -/
  here : Place
  /-- The signals that it ignores. -/
  ignored : List Signal := []

/-- Runs the program at a path as a process to its end, or says why it cannot be started. -/
abbrev Launcher := Bytes → Process → Work (Except SystemFault Fate)

/-- The name of a process. -/
def Process.name (p : Process) : Bytes := p.words.headD []

/-- The arguments of a process. -/
def Process.arguments (p : Process) : List Bytes := p.words.tail

/-- A variable of a process. -/
def Process.valueOf? (p : Process) (name : Bytes) : Option Bytes :=
  (p.environment.find? fun e => e.1 = name).map (·.2)

/-! ## Searching -/

/-- Where a program is looked for, given the directories to look in: a name with a slash is a path
    itself. -/
def candidates (directories name : Bytes) : List Bytes :=
  if name.contains '/' then [name]
  else (Bytes.splitOn ':' directories).map fun d => if d = [] then name else d ++ '/' :: name

/-! ## Opening and closing -/

/-- Adds an open file. -/
def openFile (f : OpenFile) : Work Nat := do
  let s ← get
  set { s with files := s.files.push f }
  return s.files.size

/-- Makes a pipe with these contents, and opens it. -/
def openPipe (contents : Bytes) : Work Nat := do
  let s ← get
  set { s with pipes := s.pipes.push contents }
  openFile { channel := .pipe s.pipes.size }

/-- How a file is opened. -/
inductive Mode
  | read
  /-- Makes the file or empties it. -/
  | overwrite
  /-- Makes the file or writes at its end. -/
  | append
  /-- Makes the file or leaves it as it is. -/
  | update
  deriving DecidableEq, Repr

/-- Opens the file at a place. -/
def openNode (place : Place) (mode : Mode) : Work (Except SystemFault Nat) := do
  let s ← get
  match s.disk.node? place, mode with
  | some .sink, _ => return .ok (← openFile { channel := .sink })
  | some .directory, .read => return .ok (← openFile { channel := .file place })
  | some .directory, _ => return .error .isADirectory
  | some (.file _ executable), .overwrite =>
    set { s with disk := s.disk.put place (.file [] executable) }
    return .ok (← openFile { channel := .file place })
  | some _, mode => return .ok (← openFile { channel := .file place, appends := mode = .append })
  | none, .read => return .error .notFound
  | none, mode =>
    set { s with disk := s.disk.put place (.file [] false) }
    return .ok (← openFile { channel := .file place, appends := mode = .append })

/-- The file that a path stands for as one of the process's own descriptors. -/
def ownDescriptor? (path : Bytes) : Option Nat :=
  if path = "/dev/stdin".toList then some 0
  else if path = "/dev/stdout".toList then some 1
  else if path = "/dev/stderr".toList then some 2
  else if path.take 8 = "/dev/fd/".toList then Decimal.natural? (path.drop 8)
  else none

/-- The open file of a descriptor. -/
def fileOf? (descriptors : List (Nat × Nat)) (descriptor : Nat) : Option Nat :=
  (descriptors.find? fun e => e.1 = descriptor).map (·.2)

/-- Opens what a path leads to. -/
def openPath (here : Place) (descriptors : List (Nat × Nat)) (path : Bytes) (mode : Mode) :
    Work (Except SystemFault Nat) := do
  match ownDescriptor? path with
  | some d =>
    match fileOf? descriptors d with
    | some file => return .ok file
    | none => return .error .notFound
  | none =>
    let disk := (← get).disk
    let target := if mode = .read then disk.resolve here path else disk.resolveNew here path
    match target with
    | .error f => return .error f
    | .ok place =>
      if Path.endsInSlash path ∧ disk.node? place = none then return .error .isADirectory
      else openNode place mode

/-! ## Reading and writing -/

/-- The bytes of a file that lie before a position, those between it and a later one, and those
    behind. -/
def spliceAt (contents : Bytes) (position : Nat) (bytes : Bytes) : Bytes :=
  Bytes.padRight '\x00' position (contents.take position) ++ bytes ++
    contents.drop (position + bytes.length)

/-- Writes to an open file. -/
def writeFile (number : Nat) (bytes : Bytes) : Work Unit := do
  let s ← get
  match s.files[number]? with
  | none => return ()
  | some f =>
    match f.channel with
    | .sink => return ()
    | .pipe n => set { s with pipes := s.pipes.modify n (· ++ bytes) }
    | .file place =>
      match s.disk.node? place with
      | some (.file contents executable) =>
        let position := if f.appends then contents.length else f.position
        set { s with
          disk := s.disk.put place (.file (spliceAt contents position bytes) executable)
          files := s.files.modify number fun f => { f with position := position + bytes.length } }
      | _ => return ()

/-- The bytes that are still to be read from an open file. -/
def ahead (number : Nat) : Work (Except SystemFault Bytes) := do
  let s ← get
  match s.files[number]? with
  | none => return .error .badDescriptor
  | some f =>
    match f.channel with
    | .sink => return .ok []
    | .pipe n => return .ok (s.pipes[n]?.getD [])
    | .file place =>
      match s.disk.node? place with
      | some (.file contents _) => return .ok (contents.drop f.position)
      | some .directory => return .error .isADirectory
      | _ => return .ok []

/-- Passes over the next bytes of an open file. -/
def advance (number count : Nat) : Work Unit := do
  let s ← get
  match s.files[number]? with
  | none => return ()
  | some f =>
    match f.channel with
    | .sink => return ()
    | .pipe n => set { s with pipes := s.pipes.modify n (·.drop count) }
    | .file _ =>
      set { s with files := s.files.modify number fun f => { f with position := f.position + count } }

/-- Reads all that is still to be read from an open file. -/
def readFile (number : Nat) : Work (Except SystemFault Bytes) := do
  match ← ahead number with
  | .error f => return .error f
  | .ok bytes =>
    advance number bytes.length
    return .ok bytes

namespace Process

/-- Writes to a descriptor. -/
def write (p : Process) (descriptor : Nat) (bytes : Bytes) : Work (Except SystemFault Unit) := do
  match fileOf? p.descriptors descriptor with
  | some file =>
    writeFile file bytes
    return .ok ()
  | none => return .error .badDescriptor

/-- Reads all from a descriptor. -/
def readAll (p : Process) (descriptor : Nat) : Work (Except SystemFault Bytes) := do
  match fileOf? p.descriptors descriptor with
  | some file => readFile file
  | none => return .error .badDescriptor

/-- Opens what a path leads to. -/
def open_ (p : Process) (path : Bytes) (mode : Mode) : Work (Except SystemFault Nat) :=
  openPath p.here p.descriptors path mode

/-- Reads all of what a path leads to. -/
def readPath (p : Process) (path : Bytes) : Work (Except SystemFault Bytes) := do
  match ← p.open_ path .read with
  | .error f => return .error f
  | .ok file => readFile file

end Process

/-! ## Signals -/

/-- The number of a new process. -/
def newProcess : Work Nat := modifyGet fun s =>
  (s.newestProcess + 1, { s with newestProcess := s.newestProcess + 1 })

/-- Sends a signal to another process. -/
def send (number : Nat) (signal : Signal) : Work Unit := modify fun s =>
  { s with signals := s.signals ++ [(number, signal)] }

/-- The signals that have reached a process since it last looked. -/
def receive (number : Nat) : Work (List Signal) := modifyGet fun s =>
  (s.signals.filterMap fun e => if e.1 = number then some e.2 else none,
    { s with signals := s.signals.filter fun e => e.1 ≠ number })

end SessionControl.Machine
