import SessionControl.Proofs.Inquiry

set_option autoImplicit false

/-! # The inquiry of every operation

Each operation of the client comes down to an inquiry (`Operation.perform_amountsTo`): which call it
makes, how it reads what comes back, and which callback it registers. All that is proved of
operations elsewhere is proved of their inquiries. -/

namespace SessionControl.Client

variable {σ ε α : Type}

open PropertyValue (Narrowing)

/-! ## Handles -/

namespace Handle

/-- The handle at a path given by its text, if the text is a path. -/
def ofText (text suffix : String) (timeout : Nat) : Except Fault Handle :=
  match Bus.ObjectPath.ofText? text with
  | some path => .ok { path, interface := interfaceName suffix, timeout }
  | none => .error (.invalidPath text (Bus.ObjectPath.complaint text))

theorem path_of_ofText {text suffix : String} {timeout : Nat} {h : Handle}
    (hh : ofText text suffix timeout = .ok h) : h.path.text = text := by
  unfold ofText at hh
  split at hh
  · next path hpath =>
      cases hh
      exact Bus.ObjectPath.text_of_ofText? hpath
  · cases hh

theorem interface_of_ofText {text suffix : String} {timeout : Nat} {h : Handle}
    (hh : ofText text suffix timeout = .ok h) : h.interface = interfaceName suffix := by
  unfold ofText at hh
  split at hh
  · cases hh
    rfl
  · cases hh

theorem make_amountsTo (path : Bus.ObjectPath) (suffix : String) (timeout : Nat) :
    (make path suffix timeout : Action σ ε Handle).AmountsTo
      (.settled (.ok { path, interface := interfaceName suffix, timeout })) :=
  (Action.AmountsTo.log (by decide) _).after fun _ => .done _

theorem atText_amountsTo (text suffix : String) (timeout : Nat) :
    (atText text suffix timeout : Action σ Fault Handle).AmountsTo
      (.settled (ofText text suffix timeout)) := by
  unfold atText ofText
  cases Bus.ObjectPath.ofText? text with
  | some path => exact make_amountsTo path suffix timeout
  | none => exact .fail _

/-! ### Calls -/

/-- Reads the first argument of what a call returns. -/
def firstOf (result : Bus.Argument α) (r : Except Bus.Failure Bus.Body) : Except Fault α :=
  (r.mapError .callFailed).bind fun body => (result.first body).mapError .callFailed

/-- A first argument that was read is the first of a body that was returned. -/
theorem read_of_firstOf {result : Bus.Argument α} {r : Except Bus.Failure Bus.Body} {a : α}
    (h : firstOf result r = .ok a) : ∃ w body, r = .ok (w :: body) ∧ result.read? w = some a := by
  rcases r with failure | (_ | ⟨w, body⟩)
  · cases h
  · cases h
  · have hbody : (result.first (w :: body)).mapError Fault.callFailed = .ok a := h
    cases hread : result.read? w with
    | none =>
        have hfirst : result.first (w :: body) = .error (.mismatch 0 result.kind w.kind) := by
          simp only [Bus.Argument.first, hread]
        rw [hfirst] at hbody
        cases hbody
    | some x =>
        have hfirst : result.first (w :: body) = .ok x := by
          simp only [Bus.Argument.first, hread]
        rw [hfirst] at hbody
        cases hbody
        exact ⟨w, body, rfl, hread⟩

/-- The inquiry of a method with one result. -/
def requestInquiry (h : Handle) (member : String) (args : Bus.Body) (result : Bus.Argument α) :
    Inquiry Fault α :=
  .asks (h.methodCall member args) (firstOf result)

/-- The inquiry of a method without a result. -/
def commandInquiry (h : Handle) (member : String) (args : Bus.Body) : Inquiry Fault Unit :=
  .asks (h.methodCall member args) fun r => (r.mapError .callFailed).bind fun _ => .ok ()

theorem query_amountsTo (c : Bus.Call) (result : Bus.Argument α) :
    (query c result : Action σ Fault α).AmountsTo (.asks c (firstOf result)) := by
  unfold query
  exact ((Action.AmountsTo.call c).mapError Fault.callFailed).bind rfl fun _ => .ofExcept _

theorem request_amountsTo (h : Handle) (member : String) (args : Bus.Body)
    (result : Bus.Argument α) :
    (h.request member args result : Action σ Fault α).AmountsTo
      (h.requestInquiry member args result) :=
  query_amountsTo _ _

theorem command_amountsTo (h : Handle) (member : String) (args : Bus.Body) :
    (h.command member args : Action σ Fault Unit).AmountsTo (h.commandInquiry member args) := by
  unfold command perform
  exact ((Action.AmountsTo.call _).mapError Fault.callFailed).map fun _ => ()

/-! ### Properties -/

/-- The inquiry of a property's value. -/
def valueInquiry (h : Handle) (name : String) : Inquiry Fault PropertyValue :=
  (Inquiry.asks (h.propertyCall "Get" [.string name]) (firstOf .variant)).map PropertyValue.ofWire

/-- The inquiry of all properties. -/
def valuesInquiry (h : Handle) : Inquiry Fault (NameMap PropertyValue) :=
  (Inquiry.asks (h.propertyCall "GetAll" []) (firstOf (.dict .string .variant))).map fun entries =>
    NameMap.ofEntries (entries.map fun (name, w) => (name, PropertyValue.ofWire w))

/-- Narrows the value of a property. -/
def narrow (kind : Narrowing α) (name : String) (value : PropertyValue) : Except Fault α :=
  match kind.take? value with
  | some a => .ok a
  | none => .error (.unexpectedKind name kind.expected value)

/-- The inquiry of a property of a promised kind. -/
def propertyInquiry (h : Handle) (kind : Narrowing α) (name : String) : Inquiry Fault α :=
  (h.valueInquiry name).bind (narrow kind name)

/-- Takes the fault of a missing property as the absence of a value. -/
def forgive : Except Fault α → Except Fault (Option α)
  | .ok a => .ok (some a)
  | .error fault => if fault.isUnknownProperty then .ok none else .error fault

/-- The inquiry of a property that the service may lack. -/
def optionalInquiry (h : Handle) (kind : Narrowing α) (name : String) :
    Inquiry Fault (Option α) :=
  (h.propertyInquiry kind name).attempt.bind forgive

theorem getProperty_amountsTo (h : Handle) (name : String) :
    (h.getProperty name : Action σ Fault PropertyValue).AmountsTo (h.valueInquiry name) :=
  (Action.AmountsTo.log (by decide) _).after fun _ => (query_amountsTo _ _).map _

theorem getProperties_amountsTo (h : Handle) :
    (h.getProperties : Action σ Fault (NameMap PropertyValue)).AmountsTo h.valuesInquiry :=
  (Action.AmountsTo.log (by decide) _).after fun _ => (query_amountsTo _ _).map _

theorem property_amountsTo (h : Handle) (kind : Narrowing α) (name : String) :
    (h.property kind name : Action σ Fault α).AmountsTo (h.propertyInquiry kind name) := by
  refine (getProperty_amountsTo h name).bind rfl fun value => ?_
  unfold narrow
  cases kind.take? value with
  | some a => exact .done a
  | none => exact .fail _

theorem optionalProperty_amountsTo (h : Handle) (kind : Narrowing α) (name : String) :
    (h.optionalProperty kind name : Action σ Fault (Option α)).AmountsTo
      (h.optionalInquiry kind name) := by
  refine ((property_amountsTo h kind name).attempt rfl).bind rfl fun result => ?_
  cases result with
  | ok a => exact .done _
  | error fault =>
      simp only [forgive]
      split
      · exact (Action.AmountsTo.log (by decide) _).after fun _ => .done _
      · exact .fail _

/-! ### Subscriptions -/

/-- The inquiry of a subscription. -/
def watchInquiry (h : Handle) (n : Notice) (tag : String) : Inquiry Fault Unit :=
  .asks (n.rule h.path).subscribeCall
    (fun r => (r.mapError (.notSubscribed n.member)).bind fun _ => .ok ())
    (some (n.subscription h.path tag))

theorem watch_amountsTo (h : Handle) (n : Notice) (tag : String) :
    (h.watch n tag : Action σ Fault Unit).AmountsTo (h.watchInquiry n tag) := by
  unfold watch
  exact ((Action.AmountsTo.call _).mapError (Fault.notSubscribed n.member)).subscribe _

end Handle

/-! ## The session -/

namespace Session

/-- The handle to the session. -/
def ofTimeout (timeout : Nat) : Session :=
  ⟨{ path, interface := Handle.interfaceName "Session", timeout }⟩

theorem make_amountsTo (timeout : Nat) :
    (make timeout : Action σ ε Session).AmountsTo (.settled (.ok (ofTimeout timeout))) :=
  (Handle.make_amountsTo path "Session" timeout).bind rfl fun _ => .done _

theorem inhibit_amountsTo (s : Session) (who why : String) :
    (s.inhibit who why : Action σ Fault InhibitorId).AmountsTo
      ((s.handle.requestInquiry "Inhibit" [.string who, .string why] .string).map .mk) :=
  (Handle.request_amountsTo _ _ _ _).recorded rfl _ _

theorem uninhibit_amountsTo (s : Session) (id : InhibitorId) :
    (s.uninhibit id : Action σ Fault Unit).AmountsTo
      (s.handle.commandInquiry "Uninhibit" [.string id.text]) :=
  (Handle.command_amountsTo _ _ _).recorded_unit rfl _

theorem stopInhibitors_amountsTo (s : Session) :
    (s.stopInhibitors : Action σ Fault UInt32).AmountsTo
      (s.handle.requestInquiry "StopInhibitors" [] .uint32) :=
  (Handle.request_amountsTo _ _ _ _).recorded_only rfl _

theorem listInhibitors_amountsTo (s : Session) :
    (s.listInhibitors : Action σ Fault InhibitorTable).AmountsTo
      ((s.handle.requestInquiry "ListInhibitors" [] Inhibitor.tableArgument).map
        NameMap.ofEntries) :=
  (Handle.request_amountsTo _ _ _ _).map _

theorem lock_amountsTo (s : Session) :
    (s.lock : Action σ Fault Unit).AmountsTo
      (s.handle.commandInquiry "Lock" []) :=
  (Handle.command_amountsTo _ _ _).recorded_unit rfl _

theorem unlock_amountsTo (s : Session) :
    (s.unlock : Action σ Fault Unit).AmountsTo
      (s.handle.commandInquiry "Unlock" []) :=
  (Handle.command_amountsTo _ _ _).recorded_unit rfl _

theorem backlights_amountsTo (s : Session) :
    (s.backlights : Action σ Fault (List String)).AmountsTo
      (s.handle.propertyInquiry Narrowing.texts "Backlights") :=
  Handle.property_amountsTo _ _ _

/-- The inquiry of the audio sinks' paths. -/
def audioSinksInquiry (s : Session) : Inquiry Fault (List String) :=
  (s.handle.optionalInquiry Narrowing.texts "AudioSinks").map fun paths => paths.getD []

theorem audioSinks_amountsTo (s : Session) :
    (s.audioSinks : Action σ Fault (List String)).AmountsTo s.audioSinksInquiry :=
  (Handle.optionalProperty_amountsTo _ _ _).map _

theorem defaultAudioSink_amountsTo (s : Session) :
    (s.defaultAudioSink : Action σ Fault (Option String)).AmountsTo
      (s.handle.optionalInquiry Narrowing.text "DefaultAudioSink") :=
  Handle.optionalProperty_amountsTo _ _ _

end Session

/-! ## Backlights -/

namespace Backlight

/-- The backlight with a name, if there is a path to it. -/
def ofName (timeout : Nat) (name : String) : Except Fault Backlight :=
  (Handle.ofText (pathText name) "Backlight" timeout).bind fun handle => .ok { name, handle }

/-- The backlight at a path given by its text, if the text is a path. -/
def ofPath (timeout : Nat) (path : String) : Except Fault Backlight :=
  (Handle.ofText path "Backlight" timeout).bind fun handle =>
    .ok { name := Bus.ObjectPath.lastElement path, handle }

theorem named_amountsTo (name : String) (timeout : Nat) :
    (named name timeout : Action σ Fault Backlight).AmountsTo (.settled (ofName timeout name)) :=
  (Handle.atText_amountsTo _ _ _).bind rfl fun _ => .done _

theorem atPath_amountsTo (path : String) (timeout : Nat) :
    (atPath path timeout : Action σ Fault Backlight).AmountsTo (.settled (ofPath timeout path)) :=
  (Handle.atText_amountsTo _ _ _).bind rfl fun _ => .done _

theorem setBrightness_amountsTo (b : Backlight) (v : UInt32) :
    (b.setBrightness v : Action σ Fault Unit).AmountsTo
      (b.handle.commandInquiry "SetBrightness" [.uint32 v]) :=
  (Handle.command_amountsTo _ _ _).recorded_unit rfl _

theorem incBrightness_amountsTo (b : Backlight) (v : Int32) :
    (b.incBrightness v : Action σ Fault UInt32).AmountsTo
      (b.handle.requestInquiry "IncBrightness" [.int32 v] .uint32) :=
  (Handle.request_amountsTo _ _ _ _).recorded_only rfl _

end Backlight

/-! ## Audio sinks -/

namespace AudioSink

/-- The audio sink at a path given by its text, if the text is a path. -/
def ofPath (timeout : Nat) (path : String) : Except Fault AudioSink :=
  (Handle.ofText path "AudioSink" timeout).bind fun handle => .ok { handle }

theorem atPath_amountsTo (path : String) (timeout : Nat) :
    (atPath path timeout : Action σ Fault AudioSink).AmountsTo (.settled (ofPath timeout path)) :=
  (Handle.atText_amountsTo _ _ _).bind rfl fun _ => .done _

theorem setVolume_amountsTo (a : AudioSink) (v : Binary64) :
    (a.setVolume v : Action σ Fault Unit).AmountsTo
      (a.handle.commandInquiry "SetVolume" [.double v]) :=
  (Handle.command_amountsTo _ _ _).recorded_unit rfl _

theorem incVolume_amountsTo (a : AudioSink) (v : Binary64) :
    (a.incVolume v : Action σ Fault Binary64).AmountsTo
      (a.handle.requestInquiry "IncVolume" [.double v] .double) :=
  (Handle.request_amountsTo _ _ _ _).recorded_only rfl _

theorem setMute_amountsTo (a : AudioSink) (m : Bool) :
    (a.setMute m : Action σ Fault Unit).AmountsTo
      (a.handle.commandInquiry "SetMute" [.boolean m]) :=
  (Handle.command_amountsTo _ _ _).recorded_unit rfl _

theorem toggleMute_amountsTo (a : AudioSink) :
    (a.toggleMute : Action σ Fault Bool).AmountsTo
      (a.handle.requestInquiry "ToggleMute" [] .boolean) :=
  (Handle.request_amountsTo _ _ _ _).recorded_only rfl _

end AudioSink

/-! ## The service -/

namespace Service

theorem session_amountsTo (s : Service) :
    (s.session : Action σ ε Session).AmountsTo (.settled (.ok (.ofTimeout s.timeout))) :=
  Session.make_amountsTo s.timeout

/-- The handle to the session is made without a call. -/
theorem session_apply (s : Service) (w : World σ) : ∃ v : World σ, v.Alike w ∧
    (s.session : Action σ ε Session) w = (.ok (.ofTimeout s.timeout), v) := by
  obtain ⟨hresult, hw⟩ := (s.session_amountsTo : (s.session : Action σ ε Session).AmountsTo _)
    |>.apply_of_settled w
  exact ⟨_, hw, Prod.ext hresult rfl⟩

/-- The inquiry of the session's backlights. -/
def backlightsInquiry (s : Service) : Inquiry Fault (List Backlight) :=
  ((Session.ofTimeout s.timeout).handle.propertyInquiry Narrowing.texts "Backlights").bind
    fun paths => paths.mapM (Backlight.ofPath s.timeout)

/-- The inquiry of the session's audio sinks. -/
def audioSinksInquiry (s : Service) : Inquiry Fault (List AudioSink) :=
  (Session.ofTimeout s.timeout).audioSinksInquiry.bind fun paths =>
    paths.mapM (AudioSink.ofPath s.timeout)

/-- The audio sink at the path of the default one. The root stands for none. -/
def sinkOfDefault (timeout : Nat) : Option String → Except Fault (Option AudioSink)
  | none => .ok none
  | some path =>
    if path = "/" then .ok none
    else (AudioSink.ofPath timeout path).bind fun a => .ok (some a)

/-- The inquiry of the default audio sink. -/
def defaultAudioSinkInquiry (s : Service) : Inquiry Fault (Option AudioSink) :=
  ((Session.ofTimeout s.timeout).handle.optionalInquiry Narrowing.text "DefaultAudioSink").bind
    (sinkOfDefault s.timeout)

theorem backlights_amountsTo (s : Service) :
    (s.backlights : Action σ Fault (List Backlight)).AmountsTo s.backlightsInquiry :=
  s.session_amountsTo.after fun session => session.backlights_amountsTo.bind rfl fun paths =>
    .each (fun path => Backlight.atPath_amountsTo path s.timeout) paths

theorem audioSinks_amountsTo (s : Service) :
    (s.audioSinks : Action σ Fault (List AudioSink)).AmountsTo s.audioSinksInquiry :=
  s.session_amountsTo.after fun session => session.audioSinks_amountsTo.bind rfl fun paths =>
    .each (fun path => AudioSink.atPath_amountsTo path s.timeout) paths

theorem defaultAudioSink_amountsTo (s : Service) :
    (s.defaultAudioSink : Action σ Fault (Option AudioSink)).AmountsTo
      s.defaultAudioSinkInquiry := by
  refine s.session_amountsTo.after fun session =>
    (Handle.optionalProperty_amountsTo _ _ _).bind rfl fun path? => ?_
  cases path? with
  | none => exact .done none
  | some path =>
      simp only [sinkOfDefault]
      split
      · exact .done none
      · exact (AudioSink.atPath_amountsTo path s.timeout).bind rfl fun _ => .done _

end Service

/-! ## Operations -/

/-- The inquiry of an operation that every handle has. -/
def ObjectOperation.inquiry (h : Handle) (view : HandleView) :
    ObjectOperation → Inquiry Fault Outcome
  | describe => .settled (.ok (.handle view))
  | getProperty name => (h.valueInquiry name).map .value
  | getProperties => h.valuesInquiry.map .values

/-- The inquiry of an operation of the session. -/
def SessionOperation.inquiry (s : Session) : SessionOperation → Inquiry Fault Outcome
  | object op => op.inquiry s.handle s.view
  | inhibit who why =>
    ((s.handle.requestInquiry "Inhibit" [.string who, .string why] .string).map .mk).map
      fun id : InhibitorId => .text id.text
  | uninhibit id => (s.handle.commandInquiry "Uninhibit" [.string id]).map fun _ => .nothing
  | stopInhibitors =>
    (s.handle.requestInquiry "StopInhibitors" [] .uint32).map fun n => .count n.toUInt64
  | listInhibitors =>
    ((s.handle.requestInquiry "ListInhibitors" [] Inhibitor.tableArgument).map
      NameMap.ofEntries).map .inhibitors
  | lock => (s.handle.commandInquiry "Lock" []).map fun _ => .nothing
  | unlock => (s.handle.commandInquiry "Unlock" []).map fun _ => .nothing
  | backlights => (s.handle.propertyInquiry Narrowing.texts "Backlights").map .texts
  | audioSinks => s.audioSinksInquiry.map .texts
  | defaultAudioSink =>
    (s.handle.optionalInquiry Narrowing.text "DefaultAudioSink").map .optionalText
  | idleHint => (s.handle.propertyInquiry Narrowing.flag "IdleHint").map .flag
  | inhibitedHint => (s.handle.propertyInquiry Narrowing.flag "InhibitedHint").map .flag
  | lockedHint => (s.handle.propertyInquiry Narrowing.flag "LockedHint").map .flag
  | idleSinceHint => (s.handle.propertyInquiry Narrowing.count "IdleSinceHint").map .count
  | idleSinceHintMonotonic =>
    (s.handle.propertyInquiry Narrowing.count "IdleSinceHintMonotonic").map .count
  | version => (s.handle.propertyInquiry Narrowing.text "Version").map .text
  | watch notice tag => (s.handle.watchInquiry notice tag).map fun _ => .nothing

/-- The inquiry of an operation of a backlight. -/
def BacklightOperation.inquiry (b : Backlight) : BacklightOperation → Inquiry Fault Outcome
  | object op => op.inquiry b.handle b.view
  | setBrightness v => (b.handle.commandInquiry "SetBrightness" [.uint32 v]).map fun _ => .nothing
  | incBrightness v =>
    (b.handle.requestInquiry "IncBrightness" [.int32 v] .uint32).map fun n => .count n.toUInt64
  | brightness => (b.handle.propertyInquiry Narrowing.count "Brightness").map .count
  | maxBrightness => (b.handle.propertyInquiry Narrowing.count "MaxBrightness").map .count
  | deviceName => (b.handle.propertyInquiry Narrowing.text "Name").map .text
  | online => (b.handle.propertyInquiry Narrowing.flag "Online").map .flag
  | subsystem => (b.handle.propertyInquiry Narrowing.text "Subsystem").map .text
  | sysPath => (b.handle.propertyInquiry Narrowing.text "SysPath").map .text
  | devPath => (b.handle.propertyInquiry Narrowing.text "DevPath").map .text

/-- The inquiry of an operation of an audio sink. -/
def AudioSinkOperation.inquiry (a : AudioSink) : AudioSinkOperation → Inquiry Fault Outcome
  | object op => op.inquiry a.handle a.view
  | setVolume v => (a.handle.commandInquiry "SetVolume" [.double v]).map fun _ => .nothing
  | incVolume v => (a.handle.requestInquiry "IncVolume" [.double v] .double).map .level
  | setMute m => (a.handle.commandInquiry "SetMute" [.boolean m]).map fun _ => .nothing
  | toggleMute => (a.handle.requestInquiry "ToggleMute" [] .boolean).map .flag
  | id => (a.handle.propertyInquiry Narrowing.count "Id").map .count
  | name => (a.handle.propertyInquiry Narrowing.text "Name").map .text
  | mute => (a.handle.propertyInquiry Narrowing.flag "Mute").map .flag
  | volume => (a.handle.propertyInquiry Narrowing.level "Volume").map .level
  | watch notice tag => (a.handle.watchInquiry notice tag).map fun _ => .nothing

/-- The inquiry of an operation of the service. -/
def ServiceOperation.inquiry (s : Service) : ServiceOperation → Inquiry Fault Outcome
  | session => .settled (.ok (.handle (Session.ofTimeout s.timeout).view))
  | backlight name =>
    .settled ((Backlight.ofName s.timeout name).bind fun b => .ok (.handle b.view))
  | audioSink id =>
    .settled ((AudioSink.ofPath s.timeout (AudioSink.pathText id)).bind fun a =>
      .ok (.handle a.view))
  | backlights => s.backlightsInquiry.map fun bs => .handles (bs.map (·.view))
  | audioSinks => s.audioSinksInquiry.map fun as => .handles (as.map (·.view))
  | defaultAudioSink => s.defaultAudioSinkInquiry.map fun a => .optionalHandle (a.map (·.view))

/-- The backlight that is told, if there is a path to it. -/
def BacklightTarget.resolve (timeout : Nat) : BacklightTarget → Except Fault Backlight
  | named name => Backlight.ofName timeout name
  | atPath path => Backlight.ofPath timeout path

/-- The text that has to be the path of the backlight that is told. -/
def BacklightTarget.pathText : BacklightTarget → String
  | named name => Backlight.pathText name
  | atPath path => path

/-- The text that has to be the path of the audio sink that is told. -/
def AudioSinkTarget.pathText : AudioSinkTarget → String
  | identified id => AudioSink.pathText id
  | atPath path => path

theorem BacklightTarget.handle_of_resolve {timeout : Nat} {target : BacklightTarget}
    {b : Backlight} (h : target.resolve timeout = .ok b) :
    Handle.ofText target.pathText "Backlight" timeout = .ok b.handle := by
  cases target with
  | named name =>
      obtain ⟨handle, hmade, hb⟩ := ok_of_bind_ok h
      cases hb
      exact hmade
  | atPath path =>
      obtain ⟨handle, hmade, hb⟩ := ok_of_bind_ok h
      cases hb
      exact hmade

theorem AudioSink.handle_of_ofPath {timeout : Nat} {path : String} {a : AudioSink}
    (h : ofPath timeout path = .ok a) : Handle.ofText path "AudioSink" timeout = .ok a.handle := by
  obtain ⟨handle, hmade, ha⟩ := ok_of_bind_ok h
  cases ha
  exact hmade

/-- The inquiry of an operation. -/
def Operation.inquiry (s : Service) : Operation → Inquiry Fault Outcome
  | onSession op => op.inquiry (.ofTimeout s.timeout)
  | onBacklight target op => .given (target.resolve s.timeout) fun b => op.inquiry b
  | onAudioSink target op =>
    .given (AudioSink.ofPath s.timeout target.pathText) fun a => op.inquiry a
  | onObject path suffix op =>
    .given (Handle.ofText path suffix s.timeout) fun h => op.inquiry h h.view
  | onService op => op.inquiry s

/-! ## Performing operations -/

theorem ObjectOperation.perform_amountsTo (h : Handle) (view : HandleView)
    (op : ObjectOperation) :
    (op.perform h view : Action σ Fault Outcome).AmountsTo (op.inquiry h view) := by
  cases op with
  | describe => exact .done _
  | getProperty name => exact (h.getProperty_amountsTo name).map _
  | getProperties => exact h.getProperties_amountsTo.map _

theorem SessionOperation.perform_amountsTo (s : Session) (op : SessionOperation) :
    (op.perform s : Action σ Fault Outcome).AmountsTo (op.inquiry s) := by
  cases op with
  | object op => exact op.perform_amountsTo s.handle s.view
  | inhibit who why => exact (s.inhibit_amountsTo who why).map _
  | uninhibit id => exact (s.uninhibit_amountsTo ⟨id⟩).map _
  | stopInhibitors => exact s.stopInhibitors_amountsTo.map _
  | listInhibitors => exact s.listInhibitors_amountsTo.map _
  | lock => exact s.lock_amountsTo.map _
  | unlock => exact s.unlock_amountsTo.map _
  | audioSinks => exact s.audioSinks_amountsTo.map _
  | defaultAudioSink => exact (Handle.optionalProperty_amountsTo _ _ _).map _
  | watch notice tag => exact (s.handle.watch_amountsTo notice tag).map _
  | _ => exact (Handle.property_amountsTo _ _ _).map _

theorem BacklightOperation.perform_amountsTo (b : Backlight) (op : BacklightOperation) :
    (op.perform b : Action σ Fault Outcome).AmountsTo (op.inquiry b) := by
  cases op with
  | object op => exact op.perform_amountsTo b.handle b.view
  | setBrightness v => exact (b.setBrightness_amountsTo v).map _
  | incBrightness v => exact (b.incBrightness_amountsTo v).map _
  | _ => exact (Handle.property_amountsTo _ _ _).map _

theorem AudioSinkOperation.perform_amountsTo (a : AudioSink) (op : AudioSinkOperation) :
    (op.perform a : Action σ Fault Outcome).AmountsTo (op.inquiry a) := by
  cases op with
  | object op => exact op.perform_amountsTo a.handle a.view
  | setVolume v => exact (a.setVolume_amountsTo v).map _
  | incVolume v => exact (a.incVolume_amountsTo v).map _
  | setMute m => exact (a.setMute_amountsTo m).map _
  | toggleMute => exact a.toggleMute_amountsTo.map _
  | watch notice tag => exact (a.handle.watch_amountsTo notice tag).map _
  | _ => exact (Handle.property_amountsTo _ _ _).map _

theorem ServiceOperation.perform_amountsTo (s : Service) (op : ServiceOperation) :
    (op.perform s : Action σ Fault Outcome).AmountsTo (op.inquiry s) := by
  cases op with
  | session => exact s.session_amountsTo.map _
  | backlight name => exact (Backlight.named_amountsTo name s.timeout).map _
  | audioSink id => exact (AudioSink.atPath_amountsTo (AudioSink.pathText id) s.timeout).map _
  | backlights => exact s.backlights_amountsTo.map _
  | audioSinks => exact s.audioSinks_amountsTo.map _
  | defaultAudioSink => exact s.defaultAudioSink_amountsTo.map _

/-- Every operation comes down to its inquiry. -/
theorem Operation.perform_amountsTo (s : Service) (op : Operation) :
    (op.perform s : Action σ Fault Outcome).AmountsTo (op.inquiry s) := by
  cases op with
  | onSession op => exact s.session_amountsTo.after fun session => op.perform_amountsTo session
  | onBacklight target op =>
      cases target with
      | named name =>
          exact (Backlight.named_amountsTo name s.timeout).given fun b => op.perform_amountsTo b
      | atPath path =>
          exact (Backlight.atPath_amountsTo path s.timeout).given fun b => op.perform_amountsTo b
  | onAudioSink target op =>
      cases target with
      | identified id =>
          exact (AudioSink.atPath_amountsTo _ s.timeout).given fun a => op.perform_amountsTo a
      | atPath path =>
          exact (AudioSink.atPath_amountsTo path s.timeout).given fun a => op.perform_amountsTo a
  | onObject path suffix op =>
      exact (Handle.atText_amountsTo path suffix s.timeout).given fun h =>
        op.perform_amountsTo h h.view
  | onService op => exact op.perform_amountsTo s

end SessionControl.Client
