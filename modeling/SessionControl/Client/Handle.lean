import SessionControl.NameMap
import SessionControl.Bus.ObjectPath
import SessionControl.Client.Action

set_option autoImplicit false

/-! # Handles

A handle stands for an object of the session service: its path, the one interface on which it is
used, and how long a call may take. Handles hold nothing that they have read; each read asks the
service again. Properties are read through the bus's properties interface, on behalf of the handle's
own. -/

namespace SessionControl.Client

/-- The name under which the session service is found on the bus. -/
def serviceName : String := "org.sessiond.session1"

/-- The path of the session; the paths of devices lie below it. -/
def sessionPathText : String := "/org/sessiond/session1"

/-- How long a call may take if nothing else is said, in milliseconds. -/
def defaultTimeout : Nat := 25000

/-- An object of the session service. -/
structure Handle where
  path : Bus.ObjectPath
  interface : String
  /-- How long a call may take, in milliseconds. -/
  timeout : Nat
  deriving DecidableEq, Repr

namespace Handle

variable {σ ε α : Type}

open PropertyValue (Narrowing)

/-! ## Making handles -/

/-- The interface of the service with this last part. -/
def interfaceName (suffix : String) : String := serviceName ++ "." ++ suffix

/-- A handle at a path. -/
def make (path : Bus.ObjectPath) (suffix : String) (timeout : Nat) : Action σ ε Handle := do
  let interface := interfaceName suffix
  Action.log .debug ("Creating proxy for " ++ interface ++ " at " ++ path.text)
  return { path, interface, timeout }

/-- A handle at a path given by its text, which need not be one. -/
def atText (text suffix : String) (timeout : Nat) : Action σ Fault Handle :=
  match Bus.ObjectPath.ofText? text with
  | some path => make path suffix timeout
  | none => Action.fail (.invalidPath text (Bus.ObjectPath.complaint text))

/-! ## Calls -/

/-- A call of a method of the handle's interface. -/
def methodCall (h : Handle) (member : String) (args : Bus.Body) : Bus.Call :=
  { destination := serviceName, path := h.path.text, interface := h.interface, member, args }

/-- A call of the properties interface. -/
def propertyCall (h : Handle) (member : String) (args : Bus.Body) : Bus.Call :=
  { destination := serviceName, path := h.path.text, interface := Bus.propertiesInterface
    member, args := .string h.interface :: args }

/-- Makes a call for which no result is expected. -/
def perform (c : Bus.Call) : Action σ Fault Unit := do
  let _ ← (Action.call c).mapError .callFailed

/-- Makes a call and reads the first argument of what it returns. -/
def query (c : Bus.Call) (result : Bus.Argument α) : Action σ Fault α := do
  let body ← (Action.call c).mapError .callFailed
  Action.ofExcept ((result.first body).mapError .callFailed)

/-- Calls a method without a result. -/
def command (h : Handle) (member : String) (args : Bus.Body) : Action σ Fault Unit :=
  perform (h.methodCall member args)

/-- Calls a method with one result. -/
def request (h : Handle) (member : String) (args : Bus.Body) (result : Bus.Argument α) :
    Action σ Fault α :=
  query (h.methodCall member args) result

/-! ## Properties -/

/-- Reads a property. -/
def getProperty (h : Handle) (name : String) : Action σ Fault PropertyValue := do
  Action.log .trace ("Reading " ++ h.interface ++ "." ++ name ++ " on " ++ h.path.text)
  let w ← query (h.propertyCall "Get" [.string name]) .variant
  return PropertyValue.ofWire w

/-- Reads all properties. -/
def getProperties (h : Handle) : Action σ Fault (NameMap PropertyValue) := do
  Action.log .trace ("Reading all " ++ h.interface ++ " properties on " ++ h.path.text)
  let entries ← query (h.propertyCall "GetAll" []) (.dict .string .variant)
  return NameMap.ofEntries (entries.map fun (name, w) => (name, PropertyValue.ofWire w))

/-- Reads a property of a promised kind. -/
def property (h : Handle) (kind : Narrowing α) (name : String) : Action σ Fault α := do
  let value ← h.getProperty name
  match kind.take? value with
  | some a => return a
  | none => Action.fail (.unexpectedKind name kind.expected value)

/-- Reads a property that the service may lack. -/
def optionalProperty (h : Handle) (kind : Narrowing α) (name : String) :
    Action σ Fault (Option α) := do
  match ← (h.property kind name).attempt with
  | .ok a => return some a
  | .error fault =>
    if fault.isUnknownProperty then
      Action.log .debug (h.interface ++ " does not expose " ++ name)
      return none
    else Action.fail fault

end Handle
end SessionControl.Client
