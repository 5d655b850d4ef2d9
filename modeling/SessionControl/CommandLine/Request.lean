import SessionControl.CommandLine.Matching
import SessionControl.Numeric.Decimal
import SessionControl.Numeric.Nearest

set_option autoImplicit false

/-! # Requests

The commands of the command line tool, and how a command line asks for one. -/

namespace SessionControl.CommandLine

/-! ## Requests -/

/-- Changes asked for of an audio sink. Those of the volume and of the mute state may be combined.
    -/
structure AudioChange where
  set : Option Binary64 := none
  inc : Option Binary64 := none
  mute : Option Bool := none
  toggleMute : Bool := false
  deriving DecidableEq, Repr

/-- A command with its arguments. -/
inductive Command
  | status
  | properties (backlight audioSink : Option String)
  | lock
  | unlock
  | inhibit (who why : Option String) (words : List String)
  | uninhibit (id : String)
  | stopInhibitors
  | listInhibitors
  | backlight (name : Option String) (set : Option UInt32) (inc : Option Int32)
  | audioSink (id : Option String) (change : AudioChange)
  | monitor
  | version
  deriving DecidableEq, Repr

/-- What a command line asks for. -/
structure Request where
  /-- The settings file to use in place of the usual one. -/
  config : Option String
  command : Command
  deriving DecidableEq, Repr

/-! ## Values -/

/-- What is said of a text that is no mute state. -/
def switchComplaint (text : String) : String := "expected on or off, got " ++ text

/-- Reads a mute state. -/
def readSwitch (text : String) : Except String Bool :=
  if text = "on" ∨ text = "true" ∨ text = "yes" then .ok true
  else if text = "off" ∨ text = "false" ∨ text = "no" then .ok false
  else .error (switchComplaint text)

def readSwitch? (text : String) : Option Bool := (readSwitch text).toOption

def readUInt32? (text : String) : Option UInt32 :=
  (Decimal.unsigned? UInt32.size text).map UInt32.ofNat

def readInt32? (text : String) : Option Int32 :=
  (Decimal.signed? (Nat.pow 2 31) text).map Int32.ofInt

/-! ## Grammars -/

/-- The name of the tool. -/
def toolName : String := "sessionctl"

/-- A command of the tool, without its arguments. -/
inductive Verb
  | status | properties | lock | unlock | inhibit | uninhibit | stopInhibitors | listInhibitors
  | backlight | audioSink | monitor | version
  deriving DecidableEq, Repr

namespace Verb

/-- The word for a command. -/
def word : Verb → String
  | status => "status"
  | properties => "properties"
  | lock => "lock"
  | unlock => "unlock"
  | inhibit => "inhibit"
  | uninhibit => "uninhibit"
  | stopInhibitors => "stop-inhibitors"
  | listInhibitors => "list-inhibitors"
  | backlight => "backlight"
  | audioSink => "audiosink"
  | monitor => "monitor"
  | version => "version"

def all : List Verb :=
  [status, properties, lock, unlock, inhibit, uninhibit, stopInhibitors, listInhibitors,
   backlight, audioSink, monitor, version]

def ofWord? (w : String) : Option Verb := all.find? fun v => v.word = w

/-- The name under which a command tells the version. -/
def title (v : Verb) : String := toolName ++ "-" ++ v.word

/-- What a command accepts. -/
def grammar (v : Verb) : Grammar :=
  match v with
  | properties =>
    { title := v.title
      options := [{ long := "backlight" }, { long := "audiosink" }]
      conflicts := [("backlight", "audiosink")] }
  | inhibit =>
    { title := v.title
      options := [{ long := "who", short := some 'w' }, { long := "why", short := some 'y' }]
      positional := .many }
  | uninhibit => { title := v.title, positional := .required }
  | backlight =>
    { title := v.title
      options :=
        [{ long := "set", short := some 's', readable := fun t => (readUInt32? t).isSome },
         { long := "inc", short := some 'i', allowsDash := true,
           readable := fun t => (readInt32? t).isSome }]
      positional := .optional
      conflicts := [("set", "inc")] }
  | audioSink =>
    { title := v.title
      options :=
        [{ long := "set", short := some 's', readable := fun t => (Binary64.ofText? t).isSome },
         { long := "inc", short := some 'i', allowsDash := true,
           readable := fun t => (Binary64.ofText? t).isSome },
         { long := "mute", short := some 'm', readable := fun t => (readSwitch? t).isSome },
         { long := "toggle-mute", short := some 't', takesValue := false }]
      positional := .optional
      conflicts := [("set", "inc"), ("mute", "toggle-mute")] }
  | _ => { title := v.title }

/-- The command that matched words ask for. Only words that follow the grammar get here, so the one
    word of `uninhibit` is there. -/
def command (m : Matches) : Verb → Command
  | status => .status
  | properties => .properties (m.value? "backlight") (m.value? "audiosink")
  | lock => .lock
  | unlock => .unlock
  | inhibit => .inhibit (m.value? "who") (m.value? "why") m.positionals
  | uninhibit => .uninhibit (m.positionals.headD "")
  | stopInhibitors => .stopInhibitors
  | listInhibitors => .listInhibitors
  | backlight =>
    .backlight m.positionals.head? (m.value? "set" >>= readUInt32?)
      (m.value? "inc" >>= readInt32?)
  | audioSink =>
    .audioSink m.positionals.head?
      { set := m.value? "set" >>= Binary64.ofText?
        inc := m.value? "inc" >>= Binary64.ofText?
        mute := m.value? "mute" >>= readSwitch?
        toggleMute := m.has "toggle-mute" }
  | monitor => .monitor
  | version => .version

end Verb

/-- The command that explains others. -/
def helpWord : String := "help"

/-- What stands before the command. -/
def outerGrammar : Grammar :=
  { title := toolName
    options := [{ long := "config" }]
    commands := Verb.all.map Verb.word ++ [helpWord] }

/-! ## Reading -/

/-- Asking for help: at most one command may be named, or `help` itself. -/
def helpOn : List String → Refusal
  | [] => .help
  | topic :: rest =>
    if outerGrammar.commands.contains topic ∧ rest = [] then .help else .unknownTopic

/-- Reads a command with the words that belong to it. -/
def readCommand (word : String) (rest : List String) : Except Refusal Command :=
  match Verb.ofWord? word with
  | some v => do
    let m ← v.grammar.match rest
    return v.command m
  | none => .error (helpOn rest)

/-- Reads a command line, which does not include the name of the program. -/
def read (words : List String) : Except Refusal Request := do
  let (p, command) ← Progress.words outerGrammar {} words
  match command with
  | none => .error .missingCommand
  | some (word, rest) =>
    let command ← readCommand word rest
    p.check outerGrammar
    return { config := p.found.value? "config", command }

end SessionControl.CommandLine
