import SessionControl.Client.Service
import SessionControl.Command.Status
import SessionControl.CommandLine.Request

set_option autoImplicit false

/-! # Brightness and volume

Showing and changing the brightness of a backlight, and the volume and mute state of an audio sink.
What is printed is the state after the changes. -/

namespace SessionControl.Command

open Client (Action Service Backlight AudioSink)
open CommandLine (AudioChange)

variable {σ : Type}

/-! ## Backlights -/

/-- The backlight with a name, or the first one of the session. -/
def findBacklight (service : Service) : Option String → Action σ Trouble Backlight
  | some name => plainly (service.backlight name)
  | none => do
    let backlights ← within "Could not list backlights" service.backlights
    match backlights with
    | b :: _ => return b
    | [] => giveUp .noBacklights

/-- Sets, changes or just reads the brightness of a backlight. -/
def adjustBrightness (b : Backlight) (set : Option UInt32) (inc : Option Int32) :
    Action σ Trouble UInt64 :=
  match set, inc with
  | some v, _ => do
    within ("Could not set brightness of " ++ b.name) (b.setBrightness v)
    return v.toUInt64
  | none, some v => do
    let brightness ← within ("Could not change brightness of " ++ b.name) (b.incBrightness v)
    return brightness.toUInt64
  | none, none => within ("Could not read brightness of " ++ b.name) b.brightness

/-- Adjusts a backlight and prints its brightness. -/
def backlight (service : Service) (name : Option String) (set : Option UInt32)
    (inc : Option Int32) : Action σ Trouble Unit := do
  let b ← findBacklight service name
  Action.log .debug ("Using backlight " ++ b.handle.path.text)
  let brightness ← adjustBrightness b set inc
  Action.printLine (Decimal.natText brightness.toNat)

/-! ## Audio sinks -/

/-- The audio sink with an identifier, or the default one of the session. -/
def findAudioSink (service : Service) : Option String → Action σ Trouble AudioSink
  | some id => plainly (service.audioSink (.name id))
  | none => do
    match ← within "Could not find default audio sink" service.defaultAudioSink with
    | some a => return a
    | none => giveUp .noDefaultSink

/-- Sets, changes or just reads the volume of an audio sink. -/
def adjustVolume (a : AudioSink) (set inc : Option Binary64) : Action σ Trouble Binary64 :=
  match set, inc with
  | some v, _ => do
    within "Could not set volume" (a.setVolume v)
    return v
  | none, some v => within "Could not change volume" (a.incVolume v)
  | none, none => within "Could not read volume" a.volume

/-- Sets, toggles or just reads the mute state of an audio sink. -/
def adjustMute (a : AudioSink) (mute : Option Bool) (toggle : Bool) : Action σ Trouble Bool :=
  match mute, toggle with
  | some m, _ => do
    within "Could not set mute state" (a.setMute m)
    return m
  | none, true => within "Could not toggle mute state" a.toggleMute
  | none, false => within "Could not read mute state" a.mute

/-- Adjusts an audio sink and prints its volume and mute state. -/
def audioSink (service : Service) (id : Option String) (change : AudioChange) :
    Action σ Trouble Unit := do
  let a ← findAudioSink service id
  Action.log .debug ("Using audio sink " ++ a.handle.path.text)
  if change.set.isSome && change.inc.isSome then giveUp .setAndChange
  else
    let volume ← adjustVolume a change.set change.inc
    let mute ← adjustMute a change.mute change.toggleMute
    Action.printLine (volumeText volume mute)

end SessionControl.Command
