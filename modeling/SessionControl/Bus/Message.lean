import SessionControl.Bus.Argument

set_option autoImplicit false

/-! # Messages

Method calls, the peer's replies to them, and signals with what their receivers expect. -/

namespace SessionControl.Bus

/-! ## Calls -/

/-- A method call. -/
structure Call where
  destination : String
  path : String
  interface : String
  member : String
  args : Body

/-- The name and interface of the bus itself. -/
def busName : String := "org.freedesktop.DBus"

/-- The interface through which the properties of any object are read. -/
def propertiesInterface : String := "org.freedesktop.DBus.Properties"

/-! ## Signals -/

/-- A signal as it arrives. -/
structure Signal where
  path : String
  interface : String
  member : String
  body : Body

/-- Which signals a subscriber wants: those with this path, interface and member. -/
structure MatchRule where
  path : String
  interface : String
  member : String
  deriving DecidableEq, Repr

/-- The rule in the words of the bus. -/
def MatchRule.text (r : MatchRule) : String :=
  "type='signal',path='" ++ r.path ++ "',interface='" ++ r.interface ++ "',member='" ++
    r.member ++ "'"

/-- Whether a signal satisfies a rule. The sender is not looked at. -/
def MatchRule.accepts (r : MatchRule) (s : Signal) : Bool :=
  s.path = r.path && s.interface = r.interface && s.member = r.member

/-- The call that asks the bus for the signals of a rule. -/
def MatchRule.subscribeCall (r : MatchRule) : Call :=
  { destination := busName
    path := "/org/freedesktop/DBus"
    interface := busName
    member := "AddMatch"
    args := [.string r.text] }

/-! ## What signals carry -/

/-- The argument that a signal is declared with. -/
inductive Shape
  | bare | number | flag | path | level
  deriving DecidableEq, Repr

/-- The argument that a signal was received with. -/
inductive Payload
  | none
  | number (n : UInt32)
  | flag (b : Bool)
  | path (p : String)
  | level (x : Binary64)
  deriving DecidableEq, Repr

/-- The payload that a body holds, if it fits the shape. -/
def Shape.read? (body : Body) : Shape → Option Payload
  | .bare => some .none
  | .number => (Argument.uint32.first body).toOption.map .number
  | .flag => (Argument.boolean.first body).toOption.map .flag
  | .path => (Argument.objectPath.first body).toOption.map .path
  | .level => (Argument.double.first body).toOption.map .level

/-- The argument on the wire. -/
def Payload.wire? : Payload → Option Wire
  | .none => Option.none
  | .number n => some (.uint32 n)
  | .flag b => some (.boolean b)
  | .path p => some (.objectPath p)
  | .level x => some (.double x)

/-! ## Replies -/

/-- How the peer meets a call. -/
inductive Answer
  /-- The call succeeds with this body. -/
  | returned (body : Body)
  /-- The call fails. -/
  | refused (failure : Failure)
  /-- Nothing comes back in time; the connection lives on. -/
  | silence
  /-- The connection is dropped. -/
  | dropped

/-- An answer, with the signals sent around it. -/
structure Reply where
  /-- Signals sent ahead of the answer. -/
  before : List Signal := []
  answer : Answer
  /-- Signals sent behind the answer. -/
  after : List Signal := []
  /-- Whether the peer closes the connection once the signals sent so far have been processed. -/
  thenCloses : Bool := false

end SessionControl.Bus
