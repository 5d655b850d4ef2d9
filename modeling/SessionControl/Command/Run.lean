import SessionControl.Command.Inhibition
import SessionControl.Command.Levels
import SessionControl.Command.Monitor
import SessionControl.Settings.Loading

set_option autoImplicit false

/-! # Runs of the tool

A run loads the settings, connects to the bus and carries out one command. What the command line
names wins over the settings, and those over what the service offers. -/

namespace SessionControl.Command

open Client (Action Service World)
open CommandLine (Request Refusal)

variable {σ : Type}

/-! ## Carrying out -/

/-- Carries out a command that ends well or not, and has no exit code of its own. -/
def quietly (x : Action σ Trouble Unit) : Action σ Trouble Exit := do
  x
  return 0

/-- Carries out a command. -/
def perform (env : Environment) (settings : Settings) (service : Service) :
    CommandLine.Command → Action σ Trouble Exit
  | .status => quietly (status service)
  | .properties b a => quietly (properties service b a)
  | .lock => quietly do
    let session ← service.session
    within "Could not lock session" session.lock
  | .unlock => quietly do
    let session ← service.session
    within "Could not unlock session" session.unlock
  | .inhibit who why words => do
    let session ← service.session
    inhibit env session (who.getD settings.who) why words
  | .uninhibit id => quietly (uninhibit service id)
  | .stopInhibitors => quietly (stopInhibitors service)
  | .listInhibitors => quietly (listInhibitors service)
  | .backlight name set inc => quietly (backlight service (name <|> settings.backlight) set inc)
  | .audioSink id change => quietly (audioSink service (id <|> settings.audioSink) change)
  | .monitor => monitor env.arrivals service
  | .version => quietly (version service)

/-- Registers with the bus. -/
def connect (env : Environment) : Action σ Trouble Unit :=
  match env.rejection with
  | some f =>
    Action.fail { contexts := ["Could not connect to D-Bus session bus"], cause := .failure f }
  | none => return ()

/-- Carries out a request. -/
def run (env : Environment) (r : Request) : Action σ Trouble Exit := do
  let settings ← Settings.load env r.config
  connect env
  perform env settings { timeout := settings.timeout.toNat } r.command

/-! ## The whole program -/

/-- How the program ends, if it does. -/
structure Finish where
  exitCode : Exit
  /-- What is written to standard error. -/
  complaint : Option String := none

/-- How the program ends after a run. -/
def Finish.ofResult : Except Trouble Exit → Finish
  | .ok exit => { exitCode := exit }
  | .error t => { exitCode := 1, complaint := some ("Error: " ++ t.text) }

/-- Ends after a command line was refused: at most the version is told. -/
def refuse (r : Refusal) : Action σ Trouble Exit := do
  match r.announcement? with
  | some text => Action.printLine text
  | none => pure ()
  return .code r.exitCode

/-- Does what a command line asks for, or refuses it. -/
def obey (env : Environment) (words : List String) : Action σ Trouble Exit :=
  match CommandLine.read words with
  | .error r => refuse r
  | .ok request => run env request

/-- Runs the program with the words of its command line. -/
def runWords (env : Environment) (words : List String) (w : World σ) : Finish × World σ :=
  match obey env words w with
  | (result, w) => (.ofResult result, w)

end SessionControl.Command
