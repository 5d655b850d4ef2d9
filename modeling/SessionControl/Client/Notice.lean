import SessionControl.Client.Handle

set_option autoImplicit false

/-! # Notices

The signals by which the session service tells what happens, each with its interface and argument,
and subscribing to them. -/

namespace SessionControl.Client

/-- A signal of the session service. -/
inductive Notice
  | lock | unlock
  | idle | active
  /-- Carries the seconds of inactivity so far. -/
  | inactive
  /-- Carries whether the event is ahead, and not past. -/
  | prepareForSleep | prepareForShutdown
  | addBacklight | removeBacklight
  | addAudioSink | removeAudioSink
  | changeDefaultAudioSink
  | changeMute | changeVolume
  deriving DecidableEq, Repr

namespace Notice

/-- The name of the signal. -/
def member : Notice → String
  | lock => "Lock"
  | unlock => "Unlock"
  | idle => "Idle"
  | active => "Active"
  | inactive => "Inactive"
  | prepareForSleep => "PrepareForSleep"
  | prepareForShutdown => "PrepareForShutdown"
  | addBacklight => "AddBacklight"
  | removeBacklight => "RemoveBacklight"
  | addAudioSink => "AddAudioSink"
  | removeAudioSink => "RemoveAudioSink"
  | changeDefaultAudioSink => "ChangeDefaultAudioSink"
  | changeMute => "ChangeMute"
  | changeVolume => "ChangeVolume"

/-- The interface that the signal belongs to. -/
def interface : Notice → String
  | changeMute => Handle.interfaceName "AudioSink"
  | changeVolume => Handle.interfaceName "AudioSink"
  | _ => Handle.interfaceName "Session"

/-- The argument that the signal carries. -/
def shape : Notice → Bus.Shape
  | lock | unlock | idle | active => .bare
  | inactive => .number
  | prepareForSleep | prepareForShutdown | changeMute => .flag
  | addBacklight | removeBacklight | addAudioSink | removeAudioSink => .path
  | changeDefaultAudioSink => .path
  | changeVolume => .level

/-- The signals of a session, in the order in which they are usually subscribed to. -/
def ofSession : List Notice :=
  [lock, unlock, idle, active, inactive, prepareForSleep, prepareForShutdown, addBacklight,
   removeBacklight, addAudioSink, removeAudioSink, changeDefaultAudioSink]

/-- The rule for the signal of one object. -/
def rule (n : Notice) (path : Bus.ObjectPath) : Bus.MatchRule :=
  { path := path.text, interface := n.interface, member := n.member }

/-- What is registered for the signal of one object. -/
def subscription (n : Notice) (path : Bus.ObjectPath) (tag : String) : Bus.Subscription :=
  { rule := n.rule path, shape := n.shape, tag }

end Notice

/-- Subscribes to a signal of the handle's object. Nothing is registered unless the bus agrees. -/
def Handle.watch {σ : Type} (h : Handle) (n : Notice) (tag : String) : Action σ Fault Unit := do
  let _ ← (Action.call (n.rule h.path).subscribeCall).mapError (.notSubscribed n.member)
  Action.subscribe (n.subscription h.path tag)

end SessionControl.Client
