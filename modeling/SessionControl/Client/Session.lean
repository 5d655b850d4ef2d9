import SessionControl.Client.Inhibitor
import SessionControl.Client.Notice

set_option autoImplicit false

/-! # The session

Locking, inhibitors, hints, and the paths of the session's devices. -/

namespace SessionControl.Client

/-- A handle to the session. -/
structure Session where
  handle : Handle
  deriving DecidableEq, Repr

namespace Session

variable {σ ε : Type}

open PropertyValue (Narrowing)

/-- The path of the session. -/
def path : Bus.ObjectPath := ⟨sessionPathText, by decide⟩

/-- The handle to the session. -/
def make (timeout : Nat) : Action σ ε Session := do
  let handle ← Handle.make path "Session" timeout
  return { handle }

/-! ## Inhibitors -/

/-- Adds an inhibitor. Both texts may be empty. -/
def inhibit (s : Session) (who why : String) : Action σ Fault InhibitorId := do
  let id ← s.handle.request "Inhibit" [.string who, .string why] .string
  Action.log .debug ("Added inhibitor " ++ id ++ " (who: " ++ Text.quote who ++ ", why: " ++
    Text.quote why ++ ")")
  return ⟨id⟩

/-- Removes an inhibitor. -/
def uninhibit (s : Session) (id : InhibitorId) : Action σ Fault Unit := do
  s.handle.command "Uninhibit" [.string id.text]
  Action.log .debug ("Removed inhibitor " ++ id.text)

/-- Stops all inhibitors and says how many there were. -/
def stopInhibitors (s : Session) : Action σ Fault UInt32 := do
  let count ← s.handle.request "StopInhibitors" [] .uint32
  Action.log .debug ("Stopped " ++ Decimal.natText count.toNat ++ " inhibitors")
  return count

/-- The running inhibitors. -/
def listInhibitors (s : Session) : Action σ Fault InhibitorTable := do
  let entries ← s.handle.request "ListInhibitors" [] Inhibitor.tableArgument
  return NameMap.ofEntries entries

/-! ## Locking -/

def lock (s : Session) : Action σ Fault Unit := do
  s.handle.command "Lock" []
  Action.log .debug "Locked session"

def unlock (s : Session) : Action σ Fault Unit := do
  s.handle.command "Unlock" []
  Action.log .debug "Unlocked session"

/-! ## Devices -/

/-- The paths of the backlights. -/
def backlights (s : Session) : Action σ Fault (List String) :=
  s.handle.property Narrowing.texts "Backlights"

/-- The paths of the audio sinks; none if the service does not know audio sinks. -/
def audioSinks (s : Session) : Action σ Fault (List String) := do
  let paths ← s.handle.optionalProperty Narrowing.texts "AudioSinks"
  return paths.getD []

/-- The path of the default audio sink, if the service knows audio sinks. -/
def defaultAudioSink (s : Session) : Action σ Fault (Option String) :=
  s.handle.optionalProperty Narrowing.text "DefaultAudioSink"

/-! ## Hints -/

def idleHint (s : Session) : Action σ Fault Bool := s.handle.property Narrowing.flag "IdleHint"

def inhibitedHint (s : Session) : Action σ Fault Bool :=
  s.handle.property Narrowing.flag "InhibitedHint"

def lockedHint (s : Session) : Action σ Fault Bool :=
  s.handle.property Narrowing.flag "LockedHint"

/-- When the idle hint changed last. -/
def idleSinceHint (s : Session) : Action σ Fault UInt64 :=
  s.handle.property Narrowing.count "IdleSinceHint"

/-- When the idle hint changed last, by a clock that never goes back. -/
def idleSinceHintMonotonic (s : Session) : Action σ Fault UInt64 :=
  s.handle.property Narrowing.count "IdleSinceHintMonotonic"

/-- The version of the service. -/
def version (s : Session) : Action σ Fault String := s.handle.property Narrowing.text "Version"

end Session
end SessionControl.Client
