import SessionControl.Client.Service
import SessionControl.Command.Trouble
import SessionControl.Numeric.FixedPlaces

set_option autoImplicit false

/-! # Showing the session

The commands that only read: the status of the session and its devices, and the properties of an
object. -/

namespace SessionControl.Command

open Client (Action Service Session Backlight AudioSink)

variable {σ : Type}

/-! ## Status -/

/-- The line of a backlight. -/
def backlightLine (name : String) (brightness maximum : UInt64) : String :=
  "    " ++ name ++ ": " ++ Decimal.natText brightness.toNat ++ "/" ++
    Decimal.natText maximum.toNat

/-- Reads a backlight and prints its line. -/
def showBacklight (b : Backlight) : Action σ Trouble Unit := do
  let context := "Could not read brightness of " ++ b.name
  let brightness ← within context b.brightness
  let maximum ← within context b.maxBrightness
  Action.printLine (backlightLine b.name brightness maximum)

/-- How the volume and the mute state of an audio sink are shown. -/
def volumeText (volume : Binary64) (mute : Bool) : String :=
  "volume " ++ volume.fixedText 2 ++ ", muted " ++ yesNo mute

/-- The line of an audio sink. -/
def sinkLine (id : UInt64) (name : String) (isDefault : Bool) (volume : Binary64) (mute : Bool) :
    String :=
  "    " ++ Decimal.natText id.toNat ++ " " ++ name ++ (if isDefault then " (default)" else "") ++
    ": " ++ volumeText volume mute

/-- Reads an audio sink and prints its line. -/
def showSink (default : Option String) (a : AudioSink) : Action σ Trouble Unit := do
  let context := "Could not read audio sink " ++ a.handle.path.text
  let id ← within context a.id
  let name ← within context a.name
  let volume ← within context a.volume
  let mute ← within context a.mute
  Action.printLine (sinkLine id name (default = some a.handle.path.text) volume mute)

/-- What is read of the session before anything is printed. -/
structure Overview where
  version : String
  locked : Bool
  idle : Bool
  idleSince : UInt64
  idleSinceMonotonic : UInt64
  inhibited : Bool
  inhibitors : Nat

/-- Reads the session. -/
def readOverview (s : Session) : Action σ Trouble Overview := do
  let version ← within "Could not read sessiond version" s.version
  let locked ← within "Could not read lock state" s.lockedHint
  let idle ← within "Could not read idle state" s.idleHint
  let idleSince ← within "Could not read idle timestamp" s.idleSinceHint
  let idleSinceMonotonic ←
    within "Could not read monotonic idle timestamp" s.idleSinceHintMonotonic
  let inhibited ← within "Could not read inhibited state" s.inhibitedHint
  let inhibitors ← within "Could not list inhibitors" s.listInhibitors
  return { version, locked, idle, idleSince, idleSinceMonotonic, inhibited,
           inhibitors := inhibitors.size }

/-- The lines that tell the session. -/
def Overview.lines (o : Overview) : List String :=
  ["sessiond " ++ o.version,
   "  Locked: " ++ yesNo o.locked,
   "  Idle: " ++ yesNo o.idle ++ " (since " ++ Decimal.natText o.idleSince.toNat ++
     ", monotonic " ++ Decimal.natText o.idleSinceMonotonic.toNat ++ ")",
   "  Inhibited: " ++ yesNo o.inhibited ++ " (" ++ Decimal.natText o.inhibitors ++
     " inhibitors)"]

/-- Shows the session, its backlights, and its audio sinks if there are any. -/
def status (service : Service) : Action σ Trouble Unit := do
  let session ← service.session
  let overview ← readOverview session
  let _ ← Action.each Action.printLine overview.lines
  let backlights ← within "Could not list backlights" service.backlights
  Action.printLine ("  Backlights: " ++ Decimal.natText backlights.length)
  let _ ← Action.each showBacklight backlights
  let sinks ← within "Could not list audio sinks" service.audioSinks
  match sinks with
  | [] => return ()
  | _ =>
    let default ← within "Could not read default audio sink" session.defaultAudioSink
    Action.printLine ("  Audio sinks: " ++ Decimal.natText sinks.length)
    let _ ← Action.each (showSink default) sinks

/-! ## Properties -/

/-- All properties of a backlight, else of an audio sink, else of the session. -/
def readProperties (service : Service) (backlight audioSink : Option String) :
    Action σ Trouble (NameMap Client.PropertyValue) := do
  let context := "Could not read properties"
  match backlight, audioSink with
  | some name, _ =>
    let b ← plainly (service.backlight name)
    within context b.handle.getProperties
  | none, some id =>
    let a ← plainly (service.audioSink (.name id))
    within context a.handle.getProperties
  | none, none =>
    let session ← service.session
    within context session.handle.getProperties

/-- The line of a property. -/
def propertyLine (e : String × Client.PropertyValue) : String := e.1 ++ ": " ++ e.2.display

/-- Shows properties, in the order of their names. -/
def properties (service : Service) (backlight audioSink : Option String) :
    Action σ Trouble Unit := do
  let props ← readProperties service backlight audioSink
  let _ ← Action.each (fun e => Action.printLine (propertyLine e)) props.entries

/-- Shows the version of the service. -/
def version (service : Service) : Action σ Trouble Unit := do
  let session ← service.session
  let v ← within "Could not read sessiond version" session.version
  Action.printLine v

end SessionControl.Command
