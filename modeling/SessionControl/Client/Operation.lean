import SessionControl.Client.Service

set_option autoImplicit false

/-! # Operations as data

Everything that the client can be asked to do, as values: which object, which operation on it, and
what comes back. A *history* is a list of steps, each an operation or something that happens to the
connection; running it performs the steps in order on one connection. Handles are made anew for each
operation, which makes no difference, since they hold nothing. -/

namespace SessionControl.Client

/-! ## What is asked for -/

/-- An operation that every handle has. -/
inductive ObjectOperation
  | describe
  | getProperty (name : String)
  | getProperties

/-- An operation of the session. -/
inductive SessionOperation
  | object (op : ObjectOperation)
  | inhibit (who why : String)
  | uninhibit (id : String)
  | stopInhibitors | listInhibitors
  | lock | unlock
  | backlights | audioSinks | defaultAudioSink
  | idleHint | inhibitedHint | lockedHint
  | idleSinceHint | idleSinceHintMonotonic
  | version
  | watch (notice : Notice) (tag : String)

/-- An operation of a backlight. -/
inductive BacklightOperation
  | object (op : ObjectOperation)
  | setBrightness (v : UInt32)
  | incBrightness (v : Int32)
  | brightness | maxBrightness
  | deviceName | online | subsystem | sysPath | devPath

/-- An operation of an audio sink. -/
inductive AudioSinkOperation
  | object (op : ObjectOperation)
  | setVolume (v : Binary64)
  | incVolume (v : Binary64)
  | setMute (m : Bool)
  | toggleMute
  | id | name | mute | volume
  | watch (notice : Notice) (tag : String)

/-- An operation of the service. -/
inductive ServiceOperation
  | session
  | backlight (name : String)
  | audioSink (id : SinkId)
  | backlights | audioSinks | defaultAudioSink

/-- How a backlight is told. -/
inductive BacklightTarget
  | named (name : String)
  | atPath (path : String)

/-- How an audio sink is told. -/
inductive AudioSinkTarget
  | identified (id : SinkId)
  | atPath (path : String)

/-- An operation with the object that it is for. -/
inductive Operation
  | onSession (op : SessionOperation)
  | onBacklight (target : BacklightTarget) (op : BacklightOperation)
  | onAudioSink (target : AudioSinkTarget) (op : AudioSinkOperation)
  | onObject (path suffix : String) (op : ObjectOperation)
  | onService (op : ServiceOperation)

/-! ## What comes back -/

/-- What can be seen of a handle. -/
structure HandleView where
  path : String
  interface : String
  /-- Only backlights have names. -/
  name? : Option String
  deriving DecidableEq, Repr

def Handle.view (h : Handle) : HandleView := ⟨h.path.text, h.interface, none⟩

def Backlight.view (b : Backlight) : HandleView := { b.handle.view with name? := some b.name }

def AudioSink.view (a : AudioSink) : HandleView := a.handle.view

def Session.view (s : Session) : HandleView := s.handle.view

/-- The result of an operation. -/
inductive Outcome
  | nothing
  | value (v : PropertyValue)
  | values (m : NameMap PropertyValue)
  | text (s : String)
  | optionalText (s : Option String)
  | texts (ss : List String)
  | flag (b : Bool)
  | count (n : UInt64)
  | level (x : Binary64)
  | inhibitors (t : InhibitorTable)
  | handle (h : HandleView)
  | handles (hs : List HandleView)
  | optionalHandle (h : Option HandleView)

/-! ## Performing -/

variable {σ : Type}

/-- Performs an action for its effect. -/
def Outcome.ofUnit (x : Action σ Fault Unit) : Action σ Fault Outcome := do
  x
  return nothing

/-- Performs an action and wraps its result. -/
def Outcome.of {α : Type} (wrap : α → Outcome) (x : Action σ Fault α) :
    Action σ Fault Outcome := do
  let a ← x
  return wrap a

namespace ObjectOperation

def perform (h : Handle) (view : HandleView) : ObjectOperation → Action σ Fault Outcome
  | describe => return .handle view
  | getProperty name => Outcome.of .value (h.getProperty name)
  | getProperties => Outcome.of .values h.getProperties

end ObjectOperation

namespace SessionOperation

def perform (s : Session) : SessionOperation → Action σ Fault Outcome
  | object op => op.perform s.handle s.view
  | inhibit who why => Outcome.of (fun id => .text id.text) (s.inhibit who why)
  | uninhibit id => Outcome.ofUnit (s.uninhibit ⟨id⟩)
  | stopInhibitors => Outcome.of (fun n => .count n.toUInt64) s.stopInhibitors
  | listInhibitors => Outcome.of .inhibitors s.listInhibitors
  | lock => Outcome.ofUnit s.lock
  | unlock => Outcome.ofUnit s.unlock
  | backlights => Outcome.of .texts s.backlights
  | audioSinks => Outcome.of .texts s.audioSinks
  | defaultAudioSink => Outcome.of .optionalText s.defaultAudioSink
  | idleHint => Outcome.of .flag s.idleHint
  | inhibitedHint => Outcome.of .flag s.inhibitedHint
  | lockedHint => Outcome.of .flag s.lockedHint
  | idleSinceHint => Outcome.of .count s.idleSinceHint
  | idleSinceHintMonotonic => Outcome.of .count s.idleSinceHintMonotonic
  | version => Outcome.of .text s.version
  | watch notice tag => Outcome.ofUnit (s.handle.watch notice tag)

end SessionOperation

namespace BacklightOperation

def perform (b : Backlight) : BacklightOperation → Action σ Fault Outcome
  | object op => op.perform b.handle b.view
  | setBrightness v => Outcome.ofUnit (b.setBrightness v)
  | incBrightness v => Outcome.of (fun n => .count n.toUInt64) (b.incBrightness v)
  | brightness => Outcome.of .count b.brightness
  | maxBrightness => Outcome.of .count b.maxBrightness
  | deviceName => Outcome.of .text b.deviceName
  | online => Outcome.of .flag b.online
  | subsystem => Outcome.of .text b.subsystem
  | sysPath => Outcome.of .text b.sysPath
  | devPath => Outcome.of .text b.devPath

end BacklightOperation

namespace AudioSinkOperation

def perform (a : AudioSink) : AudioSinkOperation → Action σ Fault Outcome
  | object op => op.perform a.handle a.view
  | setVolume v => Outcome.ofUnit (a.setVolume v)
  | incVolume v => Outcome.of .level (a.incVolume v)
  | setMute m => Outcome.ofUnit (a.setMute m)
  | toggleMute => Outcome.of .flag a.toggleMute
  | id => Outcome.of .count a.id
  | name => Outcome.of .text a.name
  | mute => Outcome.of .flag a.mute
  | volume => Outcome.of .level a.volume
  | watch notice tag => Outcome.ofUnit (a.handle.watch notice tag)

end AudioSinkOperation

namespace ServiceOperation

def perform (s : Service) : ServiceOperation → Action σ Fault Outcome
  | session => Outcome.of (fun x => .handle x.view) s.session
  | backlight name => Outcome.of (fun b => .handle b.view) (s.backlight name)
  | audioSink id => Outcome.of (fun a => .handle a.view) (s.audioSink id)
  | backlights => Outcome.of (fun bs => .handles (bs.map (·.view))) s.backlights
  | audioSinks => Outcome.of (fun as => .handles (as.map (·.view))) s.audioSinks
  | defaultAudioSink => Outcome.of (fun a => .optionalHandle (a.map (·.view))) s.defaultAudioSink

end ServiceOperation

def BacklightTarget.make (timeout : Nat) : BacklightTarget → Action σ Fault Backlight
  | named name => Backlight.named name timeout
  | atPath path => Backlight.atPath path timeout

def AudioSinkTarget.make (timeout : Nat) : AudioSinkTarget → Action σ Fault AudioSink
  | identified id => AudioSink.identified id timeout
  | atPath path => AudioSink.atPath path timeout

/-- Makes the handle and performs the operation on it. -/
def Operation.perform (s : Service) : Operation → Action σ Fault Outcome
  | onSession op => do
    let session ← s.session
    op.perform session
  | onBacklight target op => do
    let backlight ← target.make s.timeout
    op.perform backlight
  | onAudioSink target op => do
    let sink ← target.make s.timeout
    op.perform sink
  | onObject path suffix op => do
    let handle ← Handle.atText path suffix s.timeout
    op.perform handle handle.view
  | onService op => op.perform s

/-! ## Histories -/

/-- A step of a history. -/
inductive Step
  /-- The peer sends signals. -/
  | emit (signals : List Bus.Signal)
  /-- The client processes all waiting signals. -/
  | process
  | perform (op : Operation)

/-- What a step shows. -/
inductive StepResult
  | emitted
  /-- The callbacks that ran. -/
  | processed (deliveries : List Bus.Delivery)
  | performed (result : Except Fault Outcome)

namespace Step

/-- Runs one step. -/
def run (s : Service) (w : World σ) : Step → StepResult × World σ
  | emit signals => (.emitted, { w with connection := w.connection.receive signals })
  | process =>
    let (deliveries, connection) := w.connection.process
    (.processed deliveries, { w with connection })
  | perform op =>
    let (result, w) := op.perform s w
    (.performed result, w)

/-- Runs a history and returns what each step shows. -/
def runAll (s : Service) (w : World σ) : List Step → List StepResult × World σ
  | [] => ([], w)
  | step :: rest =>
    let (result, w) := step.run s w
    let (results, w) := runAll s w rest
    (result :: results, w)

end Step
end SessionControl.Client
