import SessionControl.Command.Environment
import SessionControl.Programs.Starting

set_option autoImplicit false

/-! # Workplaces

A workplace is a disk, a working directory on it, and variables: all that a run of the tool can find
around it except for the bus. Files are read and programs run from there. -/

namespace SessionControl.Programs

open Command (Environment Ending ProgramRun TextFault)
open Machine (Disk Place Process Fate)

/-- What a run can find around it. -/
structure Workplace where
  disk : Disk
  /-- The working directory. -/
  here : Place
  «variables» : List (Bytes × Bytes)

namespace Workplace

/-! ## Files -/

/-- The text of a file. -/
def readText (w : Workplace) (path : String) : Except TextFault String :=
  match w.disk.read w.here (Bytes.ofString path) with
  | .error f => .error (.system f)
  | .ok bytes =>
    match Bytes.text? bytes with
    | some text => .ok text
    | none => .error .notText

/-- Whether there is something at a path. -/
def hasPath (w : Workplace) (path : String) : Bool := w.disk.has w.here (Bytes.ofString path)

/-! ## Programs -/

/-- How a program ended that a process ran. -/
def endingOf : Fate → Ending
  | .exited code => .exited code
  | .killed _ => .killed

/-- Runs a program in a process of its own, with nothing to read. -/
def runProgram (w : Workplace) (words : List String) : ProgramRun :=
  let work : Machine.Work ProgramRun := do
    let input ← Machine.openFile { channel := .sink }
    let output ← Machine.openPipe []
    let complaints ← Machine.openPipe []
    let parent ← Machine.newProcess
    let number ← Machine.newProcess
    let process : Process :=
      { number
        parent
        words := words.map Bytes.ofString
        environment := w.«variables»
        descriptors := [(0, input), (1, output), (2, complaints)]
        here := w.here }
    match ← Machine.Searching.start (Starting.launcher Starting.depthLimit) process with
    | .error f => return .notStarted f
    | .ok fate =>
      let written (file : Nat) : Machine.Work String := do
        match ← Machine.readFile file with
        | .ok bytes => return Bytes.text bytes
        | .error _ => return ""
      return .ended (← written output) (← written complaints) (endingOf fate)
  (work.run { disk := w.disk }).1

/-! ## Surroundings -/

/-- The surroundings of a run at a workplace. -/
def environment (w : Workplace) (usualSettings : Option String)
    (rejection : Option Bus.Failure) : Environment where
  readText := w.readText
  hasPath := w.hasPath
  usualSettings
  runProgram := w.runProgram
  rejection

end Workplace
end SessionControl.Programs
