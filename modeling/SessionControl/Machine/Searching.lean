import SessionControl.Machine.Process

set_option autoImplicit false

/-! # Searching for programs

A program is named by a path, or by a name that is looked for in the directories of a variable. What
is not there is passed over; what is there but cannot be started is remembered, in case nothing else
is found. -/

namespace SessionControl.Machine

namespace Searching

/-- The variable that tells the directories. -/
def directoriesVariable : Bytes := "PATH".toList

/-- The directories if the variable does not say. -/
def usualDirectories : Bytes := "/bin:/usr/bin".toList

/-- Whether a search passes over a place at which this went wrong. -/
def passesOver : SystemFault → Bool
  | .notFound | .notADirectory | .denied => true
  | _ => false

/-- Starts the first of these programs that can be started. The fault is the one to tell of if there
    is none. -/
def startFirst (launch : Launcher) (p : Process) (fault : SystemFault) :
    List Bytes → Work (Except SystemFault Fate)
  | [] => return .error fault
  | path :: rest => do
    match ← launch path p with
    | .ok fate => return .ok fate
    | .error f =>
      if passesOver f then
        startFirst launch p (if fault = .denied then .denied else f) rest
      else return .error f

/-- Starts the program that the first word of a process names, found as its variables say. -/
def start (launch : Launcher) (p : Process) : Work (Except SystemFault Fate) :=
  let name := p.name
  if name = [] then return .error .notFound
  else if name.contains '/' then launch name p
  else if Path.nameLimit < name.length then return .error .nameTooLong
  else
    let directories := (p.valueOf? directoriesVariable).getD usualDirectories
    startFirst launch p .notFound (candidates directories name)

/-- A file that is no program is given to the shell at this path. -/
def shellPath : Bytes := "/bin/sh".toList

/-- Launches programs, and runs files that are none as scripts. -/
def launchScripts (launch : Launcher) : Launcher := fun path p => do
  match ← launch path p with
  | .error .notAProgram => launch shellPath { p with words := shellPath :: path :: p.words.tail }
  | result => return result

end Searching
end SessionControl.Machine
