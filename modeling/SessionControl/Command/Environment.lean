import SessionControl.Bus.Connection
import SessionControl.Machine.SystemFault

set_option autoImplicit false

/-! # The environment of a run

What a run of the tool finds around it, apart from the service: files, programs, and whether the bus
lets it in. The tool changes none of it, so it is a value. -/

namespace SessionControl.Command

/-- Why the text of a file is not to be had. -/
inductive TextFault
  | system (fault : SystemFault)
  /-- The contents are no text. -/
  | notText
  deriving DecidableEq, Repr

/-- What is said of a text that is not to be had. -/
def TextFault.message : TextFault → String
  | system fault => fault.message
  | notText => "stream did not contain valid UTF-8"

/-- How a program ended. -/
inductive Ending
  | exited (code : Nat)
  /-- A signal ended it. -/
  | killed
  deriving DecidableEq, Repr

/-- What became of a program that was to be run. -/
inductive ProgramRun
  | notStarted (fault : SystemFault)
  /-- It ran, and wrote this to standard output and standard error. -/
  | ended (output complaints : String) (ending : Ending)
  deriving DecidableEq, Repr

/-- The surroundings of a run. -/
structure Environment where
  /-- The text of a file. -/
  readText : String → Except TextFault String
  /-- Whether there is something at a path. -/
  hasPath : String → Bool
  /-- Where the settings are if the command line does not say. -/
  usualSettings : Option String
  /-- Runs a program with its arguments to its end. -/
  runProgram : List String → ProgramRun
  /-- Why the bus does not let the client in, if it does not. -/
  rejection : Option Bus.Failure
  /-- What comes over the connection while no call is made, in order, as far as it has come. -/
  arrivals : List Bus.Arrival := []

end SessionControl.Command
