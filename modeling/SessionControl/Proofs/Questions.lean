import SessionControl.Proofs.Operations

set_option autoImplicit false

/-! # What operations ask, and what they make of the answer

Each operation that talks to the bus is told by its *question*: how it turns to the bus, what a
success has to bring and what that means, and whether the service may lack what is asked for. The
questions are a table of the service's methods, properties and signals, written down on its own and
not taken from the operations. -/

namespace SessionControl.Client

/-! ## How the bus is turned to -/

/-- The way in which an operation turns to the bus. -/
inductive Approach
  /-- A method of the object's own interface. -/
  | method (member : String) (args : Bus.Body)
  /-- A property of the object's own interface, or all of them. -/
  | get (name : String)
  | getAll
  /-- A subscription to a signal of the object. -/
  | listen (notice : Notice)

namespace Approach

/-- The call to the object at a path, with an interface of its own. -/
def call (path interface : String) : Approach → Bus.Call
  | method member args =>
    { destination := "org.sessiond.session1", path, interface, member, args }
  | get name =>
    { destination := "org.sessiond.session1", path
      interface := "org.freedesktop.DBus.Properties", member := "Get"
      args := [.string interface, .string name] }
  | getAll =>
    { destination := "org.sessiond.session1", path
      interface := "org.freedesktop.DBus.Properties", member := "GetAll"
      args := [.string interface] }
  | listen notice =>
    { destination := "org.freedesktop.DBus", path := "/org/freedesktop/DBus"
      interface := "org.freedesktop.DBus", member := "AddMatch"
      args := [.string ("type='signal',path='" ++ path ++ "',interface='" ++ notice.interface ++
        "',member='" ++ notice.member ++ "'")] }

/-- What a failed call is told as. -/
def complaint (failure : Bus.Failure) : Approach → Fault
  | listen notice => .notSubscribed notice.member failure
  | _ => .callFailed failure

/-- The name and text of the failure stay as they were sent. -/
theorem cause?_complaint (a : Approach) (failure : Bus.Failure) :
    (a.complaint failure).cause? = some failure := by
  cases a <;> rfl

end Approach

/-! ## What a success means -/

/-- The kinds of property that accessors promise. -/
inductive Promised
  | text | flag | count | level | texts

namespace Promised

/-- What is said to have been expected. -/
def words : Promised → String
  | text => "a string"
  | flag => "a boolean"
  | count => "an integer"
  | level => "a double"
  | texts => "an array of strings"

/-- The outcome that a property value is, if it is of the promised kind. -/
def take? : Promised → PropertyValue → Option Outcome
  | text, .text s => some (.text s)
  | flag, .flag b => some (.flag b)
  | count, .count n => some (.count n)
  | level, .level x => some (.level x)
  | texts, .list items => (items.mapM PropertyValue.text?).map .texts
  | _, _ => none

end Promised

/-- What a success has to bring. -/
inductive Result
  /-- Whatever it brings is fine. -/
  | nothing
  | text | count | level | flag
  | inhibitors
  /-- The value of a property, of any kind or of a promised one. -/
  | value
  | property (name : String) (promised : Promised)
  /-- The values of all properties. -/
  | values

namespace Result

/-- The kind of the first argument that has to be there, if one has to. -/
def kind? : Result → Option Bus.Kind
  | nothing => none
  | text => some .string
  | count => some .uint32
  | level => some .double
  | flag => some .boolean
  | inhibitors | values => some .array
  | value | property _ _ => some .variant

/-- What a first argument means, if it is of the kind that has to be there. -/
def meaning? : Result → Bus.Wire → Option (Except Fault Outcome)
  | text, .string s => some (.ok (.text s))
  | count, .uint32 n => some (.ok (.count n.toUInt64))
  | level, .double x => some (.ok (.level x))
  | flag, .boolean b => some (.ok (.flag b))
  | inhibitors, .dict _ _ entries =>
    some (.ok (.inhibitors (.ofEntries (Bus.Argument.leadingEntries
      Bus.Argument.string.read? Inhibitor.argument.read? entries))))
  | inhibitors, .array _ _ => some (.ok (.inhibitors .empty))
  | values, .dict _ _ entries =>
    some (.ok (.values (.ofEntries ((Bus.Argument.leadingEntries
      Bus.Argument.string.read? Bus.Argument.variant.read? entries).map fun (name, w) =>
        (name, PropertyValue.ofWire w)))))
  | values, .array _ _ => some (.ok (.values .empty))
  | value, .variant w => some (.ok (.value (PropertyValue.ofWire w)))
  | property name promised, .variant w =>
    match promised.take? (PropertyValue.ofWire w) with
    | some outcome => some (.ok outcome)
    | none => some (.error (.unexpectedKind name promised.words (PropertyValue.ofWire w)))
  | _, _ => none

/-- Only the kind of the first argument decides whether a success can be read. -/
theorem isSome_meaning?_iff {r : Result} {kind : Bus.Kind} (h : r.kind? = some kind)
    (w : Bus.Wire) : (r.meaning? w).isSome ↔ w.kind = kind := by
  cases r with
  | nothing => cases h
  | property name promised =>
      cases h
      cases w with
      | variant inner =>
          simp only [meaning?]
          split <;> simp [Bus.Wire.kind]
      | _ => simp [meaning?, Bus.Wire.kind]
  | _ =>
      cases h
      cases w <;> simp [meaning?, Bus.Wire.kind]

end Result

/-! ## Questions -/

/-- What an operation asks for, and what it makes of a reply. -/
structure Question where
  approach : Approach
  result : Result := .nothing
  /-- What stands for a property that the service does not have, if it may lack it. -/
  lack? : Option Outcome := none
  /-- What is made of a success that could be read. -/
  finish : Outcome → Except Fault Outcome := .ok

namespace Question

/-- What is made of a failure. Only the lack of a property may be no error, and only where it is
    reported by one of two names. -/
def refused (q : Question) (failure : Bus.Failure) : Except Fault Outcome :=
  match q.lack? with
  | some outcome =>
    if failure.name = "org.freedesktop.DBus.Error.UnknownProperty" ∨
        failure.name = "org.freedesktop.DBus.Error.InvalidArgs" then .ok outcome
    else .error (q.approach.complaint failure)
  | none => .error (q.approach.complaint failure)

theorem refused_eq {q : Question} {failure : Bus.Failure}
    (h : q.lack? = none ∨ ¬(failure.name = "org.freedesktop.DBus.Error.UnknownProperty" ∨
      failure.name = "org.freedesktop.DBus.Error.InvalidArgs")) :
    q.refused failure = .error (q.approach.complaint failure) := by
  unfold refused
  cases hlack : q.lack? with
  | none => rfl
  | some outcome =>
      rcases h with h | h
      · rw [hlack] at h
        cases h
      · exact if_neg h

/-- What is made of a success. Arguments behind the first one are not looked at. -/
def answered (q : Question) (body : Bus.Body) : Except Fault Outcome :=
  match q.result.kind?, body with
  | none, _ => .ok .nothing
  | some kind, [] => .error (.callFailed (.mismatch 0 kind .nothing))
  | some kind, w :: _ =>
    match q.result.meaning? w with
    | some outcome => outcome.bind q.finish
    | none => .error (.callFailed (.mismatch 0 kind w.kind))

/-- What is made of an answer by one who had these signals waiting. A call that stays without an
    answer fails like one that is refused. -/
def made (q : Question) (waiting : List Bus.Signal) : Bus.Answer → Except Fault Outcome
  | .returned body => q.answered body
  | .refused failure => q.refused failure
  | .silence => .error (q.approach.complaint .noReply)
  | .dropped => .error (q.approach.complaint (if waiting = [] then .noReply else .cutOff))

theorem made_eq (q : Question) (waiting : List Bus.Signal) (answer : Bus.Answer) :
    q.made waiting answer = match Bus.Connection.outcome waiting answer with
      | .ok body => q.answered body
      | .error failure => q.refused failure := by
  cases answer with
  | returned body => rfl
  | refused failure => rfl
  | silence => exact (refused_eq (.inr (by decide))).symm
  | dropped =>
      simp only [made, Bus.Connection.outcome]
      split
      · exact (refused_eq (.inr (by decide))).symm
      · exact (refused_eq (.inr (by decide))).symm

/-! ### The table -/

/-- A method of the object's interface. -/
def method (member : String) (args : Bus.Body) (result : Result) : Question :=
  { approach := .method member args, result }

/-- A property of a promised kind. -/
def property (name : String) (promised : Promised) : Question :=
  { approach := .get name, result := .property name promised }

/-- A property of a promised kind that the service may lack. -/
def optional (name : String) (promised : Promised) (lack : Outcome)
    (finish : Outcome → Except Fault Outcome) : Question :=
  { approach := .get name, result := .property name promised, lack? := some lack, finish }

def listen (notice : Notice) : Question := { approach := .listen notice }

end Question

/-- A text that is there, where it might have been absent. -/
def Outcome.present : Outcome → Except Fault Outcome
  | .text s => .ok (.optionalText (some s))
  | outcome => .ok outcome

def ObjectOperation.question? : ObjectOperation → Option Question
  | describe => none
  | getProperty name => some { approach := .get name, result := .value }
  | getProperties => some { approach := .getAll, result := .values }

def SessionOperation.question? : SessionOperation → Option Question
  | object op => op.question?
  | inhibit who why => some (.method "Inhibit" [.string who, .string why] .text)
  | uninhibit id => some (.method "Uninhibit" [.string id] .nothing)
  | stopInhibitors => some (.method "StopInhibitors" [] .count)
  | listInhibitors => some (.method "ListInhibitors" [] .inhibitors)
  | lock => some (.method "Lock" [] .nothing)
  | unlock => some (.method "Unlock" [] .nothing)
  | backlights => some (.property "Backlights" .texts)
  | audioSinks => some (.optional "AudioSinks" .texts (.texts []) .ok)
  | defaultAudioSink =>
    some (.optional "DefaultAudioSink" .text (.optionalText none) Outcome.present)
  | idleHint => some (.property "IdleHint" .flag)
  | inhibitedHint => some (.property "InhibitedHint" .flag)
  | lockedHint => some (.property "LockedHint" .flag)
  | idleSinceHint => some (.property "IdleSinceHint" .count)
  | idleSinceHintMonotonic => some (.property "IdleSinceHintMonotonic" .count)
  | version => some (.property "Version" .text)
  | watch notice _ => some (.listen notice)

def BacklightOperation.question? : BacklightOperation → Option Question
  | object op => op.question?
  | setBrightness v => some (.method "SetBrightness" [.uint32 v] .nothing)
  | incBrightness v => some (.method "IncBrightness" [.int32 v] .count)
  | brightness => some (.property "Brightness" .count)
  | maxBrightness => some (.property "MaxBrightness" .count)
  | deviceName => some (.property "Name" .text)
  | online => some (.property "Online" .flag)
  | subsystem => some (.property "Subsystem" .text)
  | sysPath => some (.property "SysPath" .text)
  | devPath => some (.property "DevPath" .text)

def AudioSinkOperation.question? : AudioSinkOperation → Option Question
  | object op => op.question?
  | setVolume v => some (.method "SetVolume" [.double v] .nothing)
  | incVolume v => some (.method "IncVolume" [.double v] .level)
  | setMute m => some (.method "SetMute" [.boolean m] .nothing)
  | toggleMute => some (.method "ToggleMute" [] .flag)
  | id => some (.property "Id" .count)
  | name => some (.property "Name" .text)
  | mute => some (.property "Mute" .flag)
  | volume => some (.property "Volume" .level)
  | watch notice _ => some (.listen notice)

/-! ### Handles to devices that the service tells -/

/-- The kinds of device whose paths the service tells. -/
inductive Device
  | backlight | audioSink

/-- What is seen of a handle to a device at a path, if it is one. -/
def Device.view (d : Device) (path : String) : Except Fault HandleView :=
  if Bus.ObjectPath.isValid path.toList then
    match d with
    | backlight =>
      .ok ⟨path, "org.sessiond.session1.Backlight", some (Bus.ObjectPath.lastElement path)⟩
    | audioSink => .ok ⟨path, "org.sessiond.session1.AudioSink", none⟩
  else .error (.invalidPath path ("Object path was not valid: '" ++ path ++ "'"))

/-- Handles to the devices at several paths. -/
def Outcome.handlesTo (d : Device) : Outcome → Except Fault Outcome
  | .texts paths => (paths.mapM d.view).bind fun hs => .ok (.handles hs)
  | outcome => .ok outcome

/-- A handle to the device at a path. The root stands for none. -/
def Outcome.handleTo (d : Device) : Outcome → Except Fault Outcome
  | .text path =>
    if path = "/" then .ok (.optionalHandle none)
    else (d.view path).bind fun h => .ok (.optionalHandle (some h))
  | outcome => .ok outcome

def ServiceOperation.question? : ServiceOperation → Option Question
  | session | backlight _ | audioSink _ => none
  | backlights =>
    some { Question.property "Backlights" .texts with finish := Outcome.handlesTo .backlight }
  | audioSinks =>
    some (.optional "AudioSinks" .texts (.handles []) (Outcome.handlesTo .audioSink))
  | defaultAudioSink =>
    some (.optional "DefaultAudioSink" .text (.optionalHandle none) (Outcome.handleTo .audioSink))

/-! ### Operations -/

namespace Operation

/-- The question of an operation that talks to the bus. -/
def question? : Operation → Option Question
  | onSession op => op.question?
  | onBacklight _ op => op.question?
  | onAudioSink _ op => op.question?
  | onObject _ _ op => op.question?
  | onService op => op.question?

/-- The text that has to be the path of the object that an operation is for. -/
def path : Operation → String
  | onSession _ => "/org/sessiond/session1"
  | onBacklight target _ => target.pathText
  | onAudioSink target _ => target.pathText
  | onObject path _ _ => path
  | onService _ => "/org/sessiond/session1"

/-- The interface of the object that an operation is for. -/
def interface : Operation → String
  | onSession _ => "org.sessiond.session1.Session"
  | onBacklight _ _ => "org.sessiond.session1.Backlight"
  | onAudioSink _ _ => "org.sessiond.session1.AudioSink"
  | onObject _ suffix _ => "org.sessiond.session1." ++ suffix
  | onService _ => "org.sessiond.session1.Session"

end Operation

end SessionControl.Client
