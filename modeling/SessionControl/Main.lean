import SessionControl.Command.Run
import SessionControl.Programs.Workplace

set_option autoImplicit false

/-! # The command line tool

Looks at the one file that a run can ask for, runs the tool, and writes what it has to say. No bus
can be reached from here, so a run that gets as far as the bus is turned away by it. -/

namespace SessionControl

open Command (Environment TextFault)

/-! ## What the run finds -/

/-- What the operating system meant by an error. An error of type that names the file arose on the
    way to it, at something that is no directory; one that does not arose while reading it. -/
def systemFaultOf : IO.Error → SystemFault
  | .permissionDenied _ _ _ => .denied
  | .inappropriateType (some _) _ _ => .notADirectory
  | .inappropriateType none _ _ => .isADirectory
  | _ => .notFound

/-- Reads the text of a file. -/
def readTextFile (path : String) : IO (Except TextFault String) := do
  match ← (IO.FS.readBinFile path).toBaseIO with
  | .error e => return .error (.system (systemFaultOf e))
  | .ok contents =>
    match String.fromUTF8? contents with
    | some text => return .ok text
    | none => return .error .notText

/-- What is said of a bus that cannot be reached. -/
def unreachable : Bus.Failure := .ofError (Bus.Failure.standardName "NotSupported") []

/-- Where programs are run: on a disk of the tool's own. -/
def workplace : Programs.Workplace where
  disk := Programs.Installation.disk
  here := []
  «variables» := [(Machine.Searching.directoriesVariable, Programs.Installation.programDirectories)]

/-- The surroundings of a run that will read this file, if any. -/
def surroundings (usualSettings file : Option String) : IO Environment := do
  let found ← file.mapM readTextFile
  return {
    readText := fun _ => found.getD (.error (.system .notFound))
    hasPath := fun _ =>
      match found with
      | some (.error (.system .notFound)) => false
      | some _ => true
      | none => false
    usualSettings
    runProgram := workplace.runProgram
    rejection := some unreachable }

/-! ## The run -/

/-- The settings file that a command line makes the tool read. -/
def settingsFile (usualSettings : Option String) (words : List String) : Option String :=
  match CommandLine.read words with
  | .ok request => request.config <|> usualSettings
  | .error _ => none

/-- Writes the warnings of a run, and why it failed. -/
def writeComplaints (finish : Command.Finish) (journal : Client.Journal) : IO Unit := do
  for (severity, text) in journal.records do
    if severity = .warn then IO.eprintln text
  IO.eprint journal.complaints
  match finish.complaint with
  | some text => IO.eprintln text
  | none => pure ()

end SessionControl

open SessionControl in
def main (words : List String) : IO UInt32 := do
  let usual := Settings.usualPath (← IO.getEnv "XDG_CONFIG_HOME") (← IO.getEnv "HOME")
  let env ← surroundings usual (settingsFile usual words)
  let start : Client.World (List Bus.Reply) :=
    { connection := .fresh (.scripted unreachable) [] }
  let (finish, world) := Command.runWords env words start
  IO.print world.journal.output
  writeComplaints finish world.journal
  return UInt32.ofNat (finish.exitCode.code?.getD 0)
