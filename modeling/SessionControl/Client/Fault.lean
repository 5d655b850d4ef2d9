import SessionControl.Bus.Failure
import SessionControl.Client.PropertyValue

set_option autoImplicit false

/-! # Faults

The ways in which an operation of the client can fail, and what is said about each. -/

namespace SessionControl.Client

/-- Why an operation failed. -/
inductive Fault
  /-- An object was asked for at a text that is no object path. -/
  | invalidPath (path complaint : String)
  /-- A property was read, but its value is not of the promised kind. -/
  | unexpectedKind (property expected : String) (found : PropertyValue)
  /-- A signal could not be subscribed to. -/
  | notSubscribed (signal : String) (cause : Bus.Failure)
  /-- A call failed. -/
  | callFailed (cause : Bus.Failure)

namespace Fault

/-- The text of a fault, without its cause's text where that is told apart. -/
def message : Fault → String
  | invalidPath path complaint => "Invalid object path " ++ path ++ ": " ++ complaint
  | unexpectedKind property expected found =>
    "Property " ++ property ++ " is not " ++ expected ++ " (got " ++ found.display ++ ")"
  | notSubscribed signal _ => "Could not subscribe to " ++ signal
  | callFailed cause => "D-Bus operation failed: " ++ cause.text

/-- The failure on the bus behind a fault, if it has one. -/
def cause? : Fault → Option Bus.Failure
  | invalidPath _ _ => none
  | unexpectedKind _ _ _ => none
  | notSubscribed _ cause => some cause
  | callFailed cause => some cause

/-- The texts of a fault and of what caused it, outermost first. -/
def chain (f : Fault) : List String := f.message :: (f.cause?.map (·.text)).toList

/-- The names by which a service reports a property that it does not have. -/
def unknownPropertyNames : List String :=
  [Bus.Failure.standardName "UnknownProperty", Bus.Failure.standardName "InvalidArgs"]

/-- Whether a call failed because the service lacks the property that was asked for. -/
def isUnknownProperty : Fault → Bool
  | callFailed cause => unknownPropertyNames.contains cause.name
  | _ => false

end Fault
end SessionControl.Client
