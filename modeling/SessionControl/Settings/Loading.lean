import SessionControl.Command.Trouble
import SessionControl.Settings.Basic

set_option autoImplicit false

/-! # Loading settings

Settings come from the file that the command line names, or else from the usual one. Only the usual
one may be missing. -/

namespace SessionControl.Settings

open Client (Action)
open Command (Environment Trouble)

variable {σ : Type}

/-- Where the settings usually are: below the directory for settings, if that is an absolute path,
    and else below the home directory. -/
def usualPath (settingsHome home : Option String) : Option String :=
  let below (directory : String) : String := directory ++ "/sessionctl/config.toml"
  match settingsHome.filter fun d => d.startsWith "/" with
  | some directory => some (below directory)
  | none => home.map fun directory => below (directory ++ "/.config")

/-- Loads the settings of a file that has to be there. -/
def loadFile (env : Environment) (path : String) : Action σ Trouble Settings := do
  Action.log .debug ("Loading config from " ++ path)
  match env.readText path with
  | .error f =>
    Action.fail { contexts := ["Could not read config file " ++ path], cause := .unreadable f }
  | .ok text =>
    match ofText? text with
    | some s => return s
    | none => Action.fail { contexts := ["Invalid config file " ++ path], cause := .badSettings }

/-- The settings without a file. -/
def loadNone : Action σ Trouble Settings := do
  Action.log .debug "No config file found, using defaults"
  return {}

/-- Loads the settings. -/
def load (env : Environment) : Option String → Action σ Trouble Settings
  | some path => loadFile env path
  | none =>
    match env.usualSettings with
    | some path => if env.hasPath path then loadFile env path else loadNone
    | none => loadNone

end SessionControl.Settings
