import SessionControl.Client.Notice

set_option autoImplicit false

/-! # Audio sinks

An output of the audio server, with a volume and a mute state. Only services built with support for
audio have any. -/

namespace SessionControl.Client

/-- The identifier of an audio sink: the audio server counts its sinks, others may name them. -/
inductive SinkId
  | number (n : Nat)
  | name (s : String)
  deriving DecidableEq, Repr

/-- An identifier as it stands in a path. -/
def SinkId.text : SinkId → String
  | number n => Decimal.natText n
  | name s => s

/-- A handle to an audio sink. -/
structure AudioSink where
  handle : Handle
  deriving DecidableEq, Repr

namespace AudioSink

variable {σ : Type}

open PropertyValue (Narrowing)

/-! ## Making handles -/

/-- The path of the audio sink with an identifier. -/
def pathText (id : SinkId) : String := sessionPathText ++ "/audiosink/" ++ id.text

/-- The audio sink at a path that the service told. -/
def atPath (path : String) (timeout : Nat) : Action σ Fault AudioSink := do
  let handle ← Handle.atText path "AudioSink" timeout
  return { handle }

/-- The audio sink with an identifier. -/
def identified (id : SinkId) (timeout : Nat) : Action σ Fault AudioSink :=
  atPath (pathText id) timeout

/-! ## Volume -/

def setVolume (a : AudioSink) (v : Binary64) : Action σ Fault Unit := do
  a.handle.command "SetVolume" [.double v]
  Action.log .debug ("Set volume of " ++ a.handle.path.text ++ " to " ++ v.text)

/-- Changes the volume by a difference and returns the new one. -/
def incVolume (a : AudioSink) (v : Binary64) : Action σ Fault Binary64 := do
  let volume ← a.handle.request "IncVolume" [.double v] .double
  Action.log .debug ("Changed volume of " ++ a.handle.path.text ++ " by " ++ v.text ++ " to " ++
    volume.text)
  return volume

def volume (a : AudioSink) : Action σ Fault Binary64 := a.handle.property Narrowing.level "Volume"

/-! ## Mute state -/

def setMute (a : AudioSink) (m : Bool) : Action σ Fault Unit := do
  a.handle.command "SetMute" [.boolean m]
  Action.log .debug ("Set mute state of " ++ a.handle.path.text ++ " to " ++
    PropertyValue.flagText m)

/-- Toggles the mute state and returns the new one. -/
def toggleMute (a : AudioSink) : Action σ Fault Bool := do
  let mute ← a.handle.request "ToggleMute" [] .boolean
  Action.log .debug ("Toggled mute state of " ++ a.handle.path.text ++ " to " ++
    PropertyValue.flagText mute)
  return mute

def mute (a : AudioSink) : Action σ Fault Bool := a.handle.property Narrowing.flag "Mute"

/-! ## Names -/

/-- The number that the audio server gave the sink. -/
def id (a : AudioSink) : Action σ Fault UInt64 := a.handle.property Narrowing.count "Id"

def name (a : AudioSink) : Action σ Fault String := a.handle.property Narrowing.text "Name"

end AudioSink
end SessionControl.Client
