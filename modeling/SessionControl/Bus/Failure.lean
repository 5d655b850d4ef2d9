import SessionControl.Bus.Wire
import SessionControl.Numeric.Decimal

set_option autoImplicit false

/-! # Failures of a call

A call over the bus fails with a name, by which programs tell failures apart, and a text for people.
A peer that sends no text gets one made from the name. -/

namespace SessionControl.Bus

/-- A failed call. -/
structure Failure where
  name : String
  text : String
  deriving DecidableEq, Repr

namespace Failure

/-- The namespace of the failures that the bus itself defines. -/
def standardName (short : String) : String := "org.freedesktop.DBus.Error." ++ short

/-- The texts of standard failures that come without one. -/
def standardTexts : List (String × String) :=
  [("Failed", "Unknown error"),
   ("NoMemory", "Not enough memory available"),
   ("IOError", "Error reading or writing data"),
   ("BadAddress", "Could not parse address"),
   ("NotSupported", "Feature not supported"),
   ("LimitsExceeded", "Resource limits exceeded"),
   ("AccessDenied", "Permission denied"),
   ("AuthFailed", "Could not authenticate to server"),
   ("NoServer", "No server available at address"),
   ("Timeout", "Connection timed out"),
   ("NoNetwork", "Network unavailable"),
   ("AddressInUse", "Address already in use"),
   ("Disconnected", "Disconnected."),
   ("InvalidArgs", "Invalid arguments."),
   ("NoReply", "Did not get a reply message."),
   ("FileNotFound", "File doesn't exist."),
   ("ObjectPathInUse", "Object path already in use")]

/-- The text of a failure that has only a name: the standard one, else the name itself. -/
def textOfName (name : String) : String :=
  match standardTexts.find? fun (short, _) => standardName short = name with
  | some (_, text) => text
  | none => name

/-- The failure that an error message reports: its text is the first argument, if that is a
    string. -/
def ofError (name : String) : Body → Failure
  | .string text :: _ => ⟨name, text⟩
  | _ => ⟨name, textOfName name⟩

/-! ## Failures of the transport -/

/-- No answer came in time, or the connection went away while waiting and nothing else had come. -/
def noReply : Failure :=
  ⟨standardName "NoReply",
    "Did not receive a reply. Possible causes include: the remote application did not send a " ++
    "reply, the message bus security policy blocked the reply, the reply timeout expired, or " ++
    "the network connection was broken."⟩

/-- The connection went away while waiting, with signals still to be processed: the loss is told as
    such, since it cannot be told behind them. -/
def cutOff : Failure :=
  ⟨standardName "Disconnected", "Connection was disconnected before a reply was received"⟩

/-- The connection was already gone when the call was made. -/
def disconnected : Failure := ⟨standardName "Disconnected", "Connection is closed"⟩

/-- The connection went away while waiting for messages. -/
def lostConnection : Failure :=
  ⟨standardName "Failed", "Failed to read/write data, disconnected from D-Bus?"⟩

/-- A message did not hold the arguments that were expected of it: at `position`, counted from zero,
    there was `found` and not `expected`. -/
def mismatch (position : Nat) (expected found : Kind) : Failure :=
  ⟨standardName "Failed",
    "D-Bus argument type mismatch at position " ++ Decimal.natText position ++ ": expected " ++
    expected.name ++ ", found " ++
    if expected = found then "same but still different somehow" else found.name⟩

end Failure
end SessionControl.Bus
