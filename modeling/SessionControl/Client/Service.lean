import SessionControl.Client.AudioSink
import SessionControl.Client.Backlight
import SessionControl.Client.Session

set_option autoImplicit false

/-! # The session service

The service as a whole: handles to the session and to its devices, all with the same time limit for
calls. -/

namespace SessionControl.Client

/-- The service, as a maker of handles. -/
structure Service where
  /-- How long a call may take, in milliseconds. -/
  timeout : Nat := defaultTimeout
  deriving DecidableEq, Repr

namespace Service

variable {σ ε : Type}

def session (s : Service) : Action σ ε Session := Session.make s.timeout

def backlight (s : Service) (name : String) : Action σ Fault Backlight :=
  Backlight.named name s.timeout

def audioSink (s : Service) (id : SinkId) : Action σ Fault AudioSink :=
  AudioSink.identified id s.timeout

/-- Handles to all backlights of the session. -/
def backlights (s : Service) : Action σ Fault (List Backlight) := do
  let session ← s.session
  let paths ← session.backlights
  Action.each (Backlight.atPath · s.timeout) paths

/-- Handles to all audio sinks of the session. -/
def audioSinks (s : Service) : Action σ Fault (List AudioSink) := do
  let session ← s.session
  let paths ← session.audioSinks
  Action.each (AudioSink.atPath · s.timeout) paths

/-- A handle to the default audio sink. The service gives the root path where none is set. -/
def defaultAudioSink (s : Service) : Action σ Fault (Option AudioSink) := do
  let session ← s.session
  match ← session.defaultAudioSink with
  | none => return none
  | some path =>
    if path = "/" then return none
    else return some (← AudioSink.atPath path s.timeout)

end Service
end SessionControl.Client
