import SessionControl.Proofs.Questions
import SessionControl.Proofs.Records
import SessionControl.Proofs.Registration

set_option autoImplicit false

/-! # Operations ask what they should

An operation puts its question in a single call to the object that it is for, and its result is what
the question makes of the one reply. The inquiry of each operation is compared with its question
(`Operation.inquiry_poses`); what is done with the reply follows for all of them at once. -/

namespace SessionControl.Client

variable {σ ε δ α β : Type}

open PropertyValue (Narrowing)

/-! ## Inquiries that put a question -/

/-- The inquiry puts the question to the object at a path, with an interface of its own, and makes
    of each reply what the question does. -/
inductive Inquiry.Poses (q : Question) (path interface : String) : Inquiry Fault Outcome → Prop
  | asks (read : Except Bus.Failure Bus.Body → Except Fault Outcome)
      (callback : Option Bus.Subscription)
      (hrefused : ∀ failure, read (.error failure) = q.refused failure)
      (hanswered : ∀ body, read (.ok body) = q.answered body) :
      Poses q path interface (.asks (q.approach.call path interface) read callback)

theorem except_bind_bind {r : Except ε α} {f : α → Except ε β} {g : β → Except ε δ} :
    (r.bind f).bind g = r.bind fun a => (f a).bind g := by
  cases r <;> rfl

theorem Inquiry.bind_bind (i : Inquiry ε α) (f : α → Except ε β) (g : β → Except ε δ) :
    (i.bind f).bind g = i.bind fun a => (f a).bind g := by
  cases i with
  | settled result => exact congrArg settled except_bind_bind
  | asks call read callback =>
      exact congrArg (asks call · callback) (funext fun _ => except_bind_bind)

theorem Inquiry.map_map (i : Inquiry ε α) (f : α → β) (g : β → δ) :
    (i.map f).map g = i.map fun a => g (f a) :=
  i.bind_bind _ _

namespace Handle

theorem firstOf_cons (argument : Bus.Argument α) (w : Bus.Wire) (body : Bus.Body) :
    firstOf argument (.ok (w :: body)) = match argument.read? w with
      | some a => .ok a
      | none => .error (.callFailed (.mismatch 0 argument.kind w.kind)) := by
  show (argument.first (w :: body)).mapError Fault.callFailed = _
  simp only [Bus.Argument.first]
  cases argument.read? w <;> rfl

/-- A reader of the first argument reads a success as the question does, if they agree about the
    kind that it has to have and about what it means. -/
theorem firstOf_answered {argument : Bus.Argument α} {g : α → Except Fault Outcome}
    {q : Question} (hkind : q.result.kind? = some argument.kind)
    (hmeaning : ∀ w, (q.result.meaning? w).map (·.bind q.finish) = (argument.read? w).map g)
    (body : Bus.Body) : (firstOf argument (.ok body)).bind g = q.answered body := by
  unfold Question.answered
  rw [hkind]
  cases body with
  | nil => rfl
  | cons w body =>
      have hw := hmeaning w
      rw [firstOf_cons]
      cases hread : argument.read? w with
      | none =>
          rw [hread, Option.map_none, Option.map_eq_none_iff] at hw
          simp only [hw]
          rfl
      | some a =>
          rw [hread] at hw
          obtain ⟨outcome, hsome, hbind⟩ := Option.map_eq_some_iff.mp hw
          simp only [hsome, hbind]
          rfl

/-- An inquiry for the first argument of a success. -/
theorem poses_first {argument : Bus.Argument α} {g : α → Except Fault Outcome} {q : Question}
    {path interface : String} (hlack : q.lack? = none)
    (hcomplaint : ∀ failure, q.approach.complaint failure = .callFailed failure)
    (hkind : q.result.kind? = some argument.kind)
    (hmeaning : ∀ w, (q.result.meaning? w).map (·.bind q.finish) = (argument.read? w).map g) :
    ((Inquiry.asks (q.approach.call path interface) (firstOf argument)).bind g).Poses
      q path interface := by
  refine .asks _ _ (fun failure => ?_) (firstOf_answered hkind hmeaning)
  unfold Question.refused
  rw [hlack, hcomplaint]
  rfl

/-! ### Methods -/

theorem command_poses (h : Handle) (member : String) (args : Bus.Body) :
    ((h.commandInquiry member args).map fun _ => Outcome.nothing).Poses
      (.method member args .nothing) h.path.text h.interface :=
  .asks _ _ (fun _ => rfl) fun _ => rfl

theorem request_poses (h : Handle) (member : String) (args : Bus.Body)
    {argument : Bus.Argument α} {wrap : α → Outcome} {result : Result}
    (hkind : result.kind? = some argument.kind)
    (hmeaning : ∀ w, result.meaning? w = (argument.read? w).map fun a => .ok (wrap a)) :
    ((h.requestInquiry member args argument).map wrap).Poses
      (.method member args result) h.path.text h.interface := by
  refine poses_first (q := .method member args result) rfl (fun _ => rfl) hkind fun w => ?_
  show (result.meaning? w).map _ = _
  rw [hmeaning w]
  cases argument.read? w <;> rfl

/-! ### Properties -/

/-- The accessor keeps its promise: it takes the values of the promised kind and no others. -/
structure Promises (kind : Narrowing α) (promised : Promised) (wrap : α → Outcome) : Prop where
  words : promised.words = kind.expected
  take? : ∀ v, promised.take? v = (kind.take? v).map wrap

theorem promises_text : Promises Narrowing.text .text .text := by
  refine ⟨rfl, fun v => ?_⟩
  cases v <;> rfl

theorem promises_flag : Promises Narrowing.flag .flag .flag := by
  refine ⟨rfl, fun v => ?_⟩
  cases v <;> rfl

theorem promises_count : Promises Narrowing.count .count .count := by
  refine ⟨rfl, fun v => ?_⟩
  cases v <;> rfl

theorem promises_level : Promises Narrowing.level .level .level := by
  refine ⟨rfl, fun v => ?_⟩
  cases v <;> rfl

theorem promises_texts : Promises Narrowing.texts .texts .texts := by
  refine ⟨rfl, fun v => ?_⟩
  cases v <;> rfl

/-- Narrowing the value of a property is what the question makes of a variant. -/
theorem meaning?_property {kind : Narrowing α} {promised : Promised} {wrap : α → Outcome}
    (h : Promises kind promised wrap) (name : String) (w : Bus.Wire) :
    (Result.property name promised).meaning? w = (Bus.Argument.variant.read? w).map fun inner =>
      (narrow kind name (PropertyValue.ofWire inner)).bind fun a => .ok (wrap a) := by
  cases w with
  | variant inner =>
      have htake := h.take? (PropertyValue.ofWire inner)
      simp only [Result.meaning?, Bus.Argument.variant, Option.map_some, narrow, h.words, htake]
      cases kind.take? (PropertyValue.ofWire inner) <;> rfl
  | _ => rfl

theorem getProperty_poses (h : Handle) (name : String) :
    ((h.valueInquiry name).map Outcome.value).Poses
      { approach := .get name, result := .value } h.path.text h.interface := by
  simp only [valueInquiry, Inquiry.map, Inquiry.bind_bind]
  refine poses_first (q := { approach := .get name, result := .value }) rfl (fun _ => rfl) rfl ?_
  intro w
  cases w <;> rfl

theorem getProperties_poses (h : Handle) :
    (h.valuesInquiry.map Outcome.values).Poses
      { approach := .getAll, result := .values } h.path.text h.interface := by
  simp only [valuesInquiry, Inquiry.map, Inquiry.bind_bind]
  refine poses_first (q := { approach := .getAll, result := .values }) rfl (fun _ => rfl) rfl ?_
  intro w
  cases w <;> rfl

/-- A property of a promised kind, and what is made of it. -/
theorem property_bind_poses (h : Handle) {kind : Narrowing α} {promised : Promised}
    {wrap : α → Outcome} (hpromised : Promises kind promised wrap) (name : String)
    (finish : Outcome → Except Fault Outcome) :
    ((h.propertyInquiry kind name).bind fun a => finish (wrap a)).Poses
      { Question.property name promised with finish } h.path.text h.interface := by
  simp only [propertyInquiry, valueInquiry, Inquiry.map, Inquiry.bind_bind]
  refine poses_first (q := { Question.property name promised with finish }) rfl (fun _ => rfl)
    rfl fun w => ?_
  show ((Result.property name promised).meaning? w).map _ = _
  rw [meaning?_property hpromised]
  cases Bus.Argument.variant.read? w with
  | none => rfl
  | some inner => exact congrArg some except_bind_bind

theorem property_poses (h : Handle) {kind : Narrowing α} {promised : Promised}
    {wrap : α → Outcome} (hpromised : Promises kind promised wrap) (name : String) :
    ((h.propertyInquiry kind name).map wrap).Poses (.property name promised)
      h.path.text h.interface :=
  h.property_bind_poses hpromised name .ok

/-! ### Properties that may be lacking -/

theorem isUnknownProperty_callFailed (failure : Bus.Failure) :
    (Fault.callFailed failure).isUnknownProperty = true ↔
      failure.name = "org.freedesktop.DBus.Error.UnknownProperty" ∨
        failure.name = "org.freedesktop.DBus.Error.InvalidArgs" := by
  have hnames : Fault.unknownPropertyNames =
      ["org.freedesktop.DBus.Error.UnknownProperty",
       "org.freedesktop.DBus.Error.InvalidArgs"] := by decide
  show Fault.unknownPropertyNames.contains failure.name = true ↔ _
  rw [hnames, List.contains_iff_mem]
  simp only [List.mem_cons, List.not_mem_nil, or_false]

/-- Reads the value of a property as one of a promised kind. -/
def readProperty (kind : Narrowing α) (name : String) (r : Except Bus.Failure Bus.Body) :
    Except Fault α :=
  (firstOf .variant r).bind fun w => narrow kind name (PropertyValue.ofWire w)

/-- A success that cannot be read is not taken for the lack of the property. -/
theorem not_isUnknownProperty_of_answered {kind : Narrowing α} {name : String}
    {body : Bus.Body} {fault : Fault}
    (h : readProperty kind name (.ok body) = .error fault) : fault.isUnknownProperty = false := by
  have hmismatch : ∀ found, (Fault.callFailed
      (.mismatch 0 .variant found)).isUnknownProperty = false := by
    intro found
    rw [← Bool.not_eq_true, isUnknownProperty_callFailed]
    show ¬(Bus.Failure.standardName "Failed" = _ ∨ Bus.Failure.standardName "Failed" = _)
    decide
  unfold readProperty at h
  cases body with
  | nil =>
      cases h
      exact hmismatch .nothing
  | cons w body =>
      rw [firstOf_cons] at h
      cases hread : Bus.Argument.variant.read? w with
      | none =>
          rw [hread] at h
          cases h
          exact hmismatch w.kind
      | some inner =>
          rw [hread] at h
          change narrow kind name (PropertyValue.ofWire inner) = .error fault at h
          unfold narrow at h
          split at h
          · cases h
          · cases h
            rfl

theorem forgive_bind {r : Except Fault α} {g : Option α → Except Fault β}
    (h : ∀ fault, r = .error fault → fault.isUnknownProperty = false) :
    (forgive r).bind g = r.bind fun a => g (some a) := by
  cases r with
  | ok a => rfl
  | error fault =>
      have hfault := h fault rfl
      simp only [forgive, hfault]
      rfl

/-- A property that the service may lack, and what is made of it. -/
theorem optional_poses (h : Handle) {kind : Narrowing α} {promised : Promised}
    {wrap : α → Outcome} (hpromised : Promises kind promised wrap) (name : String)
    {lack : Outcome} {finish : Outcome → Except Fault Outcome}
    {g : Option α → Except Fault Outcome} (hlack : g none = .ok lack)
    (hfinish : ∀ a, g (some a) = finish (wrap a)) :
    ((h.optionalInquiry kind name).bind g).Poses (.optional name promised lack finish)
      h.path.text h.interface := by
  simp only [optionalInquiry, propertyInquiry, valueInquiry, Inquiry.map, Inquiry.bind_bind]
  have hcall : h.propertyCall "Get" [.string name] =
      (Question.optional name promised lack finish).approach.call h.path.text h.interface := rfl
  rw [hcall]
  refine .asks _ _ (fun failure => ?_) fun body => ?_
  · have hiff := isUnknownProperty_callFailed failure
    show (forgive (α := α) (Except.error (.callFailed failure))).bind g = _
    unfold forgive Question.refused Question.optional
    simp only [← hiff]
    split
    · exact hlack
    · rfl
  · -- a success that cannot be read is never forgiven, so it is read as any property is
    show (forgive (readProperty kind name (.ok body))).bind g = _
    rw [forgive_bind fun fault => not_isUnknownProperty_of_answered, readProperty,
      except_bind_bind]
    refine firstOf_answered (q := .optional name promised lack finish) rfl (fun w => ?_) body
    show ((Result.property name promised).meaning? w).map _ = _
    rw [meaning?_property hpromised]
    cases Bus.Argument.variant.read? w with
    | none => rfl
    | some inner =>
        refine congrArg some (except_bind_bind.trans ?_)
        exact congrArg _ (funext fun a => (hfinish a).symm)

/-! ### Signals -/

theorem watch_poses (h : Handle) (n : Notice) (tag : String) :
    ((h.watchInquiry n tag).map fun _ => Outcome.nothing).Poses (.listen n)
      h.path.text h.interface :=
  .asks _ _ (fun _ => rfl) fun _ => rfl

end Handle

/-! ## Every operation puts its question -/

theorem ObjectOperation.inquiry_poses (h : Handle) (view : HandleView) {op : ObjectOperation}
    {q : Question} (hq : op.question? = some q) :
    (op.inquiry h view).Poses q h.path.text h.interface := by
  cases op with
  | describe => cases hq
  | getProperty name =>
      cases hq
      exact h.getProperty_poses name
  | getProperties =>
      cases hq
      exact h.getProperties_poses

theorem SessionOperation.inquiry_poses (s : Session) {op : SessionOperation} {q : Question}
    (hq : op.question? = some q) :
    (op.inquiry s).Poses q s.handle.path.text s.handle.interface := by
  cases op with
  | object op => exact op.inquiry_poses s.handle s.view hq
  | inhibit who why =>
      cases hq
      simp only [inquiry, Inquiry.map_map]
      exact s.handle.request_poses _ _ rfl fun w => by cases w <;> rfl
  | uninhibit id =>
      cases hq
      exact s.handle.command_poses _ _
  | stopInhibitors =>
      cases hq
      exact s.handle.request_poses _ _ rfl fun w => by cases w <;> rfl
  | listInhibitors =>
      cases hq
      simp only [inquiry, Inquiry.map_map]
      exact s.handle.request_poses _ _ rfl fun w => by cases w <;> rfl
  | lock =>
      cases hq
      exact s.handle.command_poses _ _
  | unlock =>
      cases hq
      exact s.handle.command_poses _ _
  | backlights =>
      cases hq
      exact s.handle.property_poses Handle.promises_texts _
  | audioSinks =>
      cases hq
      simp only [inquiry, Session.audioSinksInquiry, Inquiry.map_map]
      exact s.handle.optional_poses Handle.promises_texts _ rfl fun _ => rfl
  | defaultAudioSink =>
      cases hq
      exact s.handle.optional_poses Handle.promises_text _ rfl fun _ => rfl
  | idleHint | inhibitedHint | lockedHint =>
      cases hq
      exact s.handle.property_poses Handle.promises_flag _
  | idleSinceHint | idleSinceHintMonotonic =>
      cases hq
      exact s.handle.property_poses Handle.promises_count _
  | version =>
      cases hq
      exact s.handle.property_poses Handle.promises_text _
  | watch notice tag =>
      cases hq
      exact s.handle.watch_poses notice tag

theorem BacklightOperation.inquiry_poses (b : Backlight) {op : BacklightOperation}
    {q : Question} (hq : op.question? = some q) :
    (op.inquiry b).Poses q b.handle.path.text b.handle.interface := by
  cases op with
  | object op => exact op.inquiry_poses b.handle b.view hq
  | setBrightness v =>
      cases hq
      exact b.handle.command_poses _ _
  | incBrightness v =>
      cases hq
      exact b.handle.request_poses _ _ rfl fun w => by cases w <;> rfl
  | brightness | maxBrightness =>
      cases hq
      exact b.handle.property_poses Handle.promises_count _
  | online =>
      cases hq
      exact b.handle.property_poses Handle.promises_flag _
  | deviceName | subsystem | sysPath | devPath =>
      cases hq
      exact b.handle.property_poses Handle.promises_text _

theorem AudioSinkOperation.inquiry_poses (a : AudioSink) {op : AudioSinkOperation}
    {q : Question} (hq : op.question? = some q) :
    (op.inquiry a).Poses q a.handle.path.text a.handle.interface := by
  cases op with
  | object op => exact op.inquiry_poses a.handle a.view hq
  | setVolume v =>
      cases hq
      exact a.handle.command_poses _ _
  | incVolume v =>
      cases hq
      exact a.handle.request_poses _ _ rfl fun w => by cases w <;> rfl
  | setMute m =>
      cases hq
      exact a.handle.command_poses _ _
  | toggleMute =>
      cases hq
      exact a.handle.request_poses _ _ rfl fun w => by cases w <;> rfl
  | id =>
      cases hq
      exact a.handle.property_poses Handle.promises_count _
  | name =>
      cases hq
      exact a.handle.property_poses Handle.promises_text _
  | mute =>
      cases hq
      exact a.handle.property_poses Handle.promises_flag _
  | volume =>
      cases hq
      exact a.handle.property_poses Handle.promises_level _
  | watch notice tag =>
      cases hq
      exact a.handle.watch_poses notice tag

/-! ### Handles that the service makes -/

/-- Making something of each element and then looking at all that was made is the same as looking
    at each as soon as it is made. -/
theorem mapM_bind_map {f : α → Except ε β} {g : β → δ} {k : α → Except ε δ}
    (h : ∀ a, k a = (f a).bind fun b => .ok (g b)) (as : List α) :
    as.mapM k = (as.mapM f).bind fun bs => .ok (bs.map g) := by
  induction as with
  | nil => rfl
  | cons a as ih =>
      rw [List.mapM_cons, List.mapM_cons, ih, h]
      cases f a with
      | error e => rfl
      | ok b => cases as.mapM f <;> rfl

theorem Handle.ofText_of_valid (path : String)
    (h : Bus.ObjectPath.isValid path.toList = true) (suffix : String) (timeout : Nat) :
    Handle.ofText path suffix timeout =
      .ok { path := ⟨path, h⟩, interface := Handle.interfaceName suffix, timeout } := by
  simp only [Handle.ofText, Bus.ObjectPath.ofText?, dif_pos h]

theorem Handle.ofText_of_invalid (path : String)
    (h : ¬Bus.ObjectPath.isValid path.toList = true) (suffix : String) (timeout : Nat) :
    Handle.ofText path suffix timeout =
      .error (.invalidPath path ("Object path was not valid: '" ++ path ++ "'")) := by
  simp only [Handle.ofText, Bus.ObjectPath.ofText?, dif_neg h]
  rfl

theorem interfaceName_backlight :
    Handle.interfaceName "Backlight" = "org.sessiond.session1.Backlight" := by decide

theorem interfaceName_audioSink :
    Handle.interfaceName "AudioSink" = "org.sessiond.session1.AudioSink" := by decide

theorem interfaceName_session :
    Handle.interfaceName "Session" = "org.sessiond.session1.Session" := by decide

/-- What is seen of a handle to a backlight is known before it is made. -/
theorem Device.view_backlight (timeout : Nat) (path : String) :
    Device.backlight.view path =
      (Backlight.ofPath timeout path).bind fun b => .ok b.view := by
  unfold Device.view Backlight.ofPath
  by_cases hvalid : Bus.ObjectPath.isValid path.toList = true
  · rw [if_pos hvalid, Handle.ofText_of_valid path hvalid, interfaceName_backlight]
    rfl
  · rw [if_neg hvalid, Handle.ofText_of_invalid path hvalid]
    rfl

theorem Device.view_audioSink (timeout : Nat) (path : String) :
    Device.audioSink.view path =
      (AudioSink.ofPath timeout path).bind fun a => .ok a.view := by
  unfold Device.view AudioSink.ofPath
  by_cases hvalid : Bus.ObjectPath.isValid path.toList = true
  · rw [if_pos hvalid, Handle.ofText_of_valid path hvalid, interfaceName_audioSink]
    rfl
  · rw [if_neg hvalid, Handle.ofText_of_invalid path hvalid]
    rfl

/-- Handles that are made of several paths are those that are seen at them. -/
theorem handlesTo_texts {d : Device} {make : String → Except Fault α} {view : α → HandleView}
    (hview : ∀ path, d.view path = (make path).bind fun a => .ok (view a))
    (paths : List String) :
    Outcome.handlesTo d (.texts paths) =
      (paths.mapM make).bind fun as => .ok (.handles (as.map view)) := by
  show (paths.mapM d.view).bind _ = _
  rw [mapM_bind_map hview, except_bind_bind]
  rfl

theorem ServiceOperation.inquiry_poses (s : Service) {op : ServiceOperation} {q : Question}
    (hq : op.question? = some q) :
    (op.inquiry s).Poses q "/org/sessiond/session1" (Handle.interfaceName "Session") := by
  cases op with
  | session | backlight _ | audioSink _ => cases hq
  | backlights =>
      cases hq
      simp only [inquiry, Service.backlightsInquiry, Inquiry.map, Inquiry.bind_bind]
      simp only [← handlesTo_texts (Device.view_backlight s.timeout)]
      exact (Session.ofTimeout s.timeout).handle.property_bind_poses Handle.promises_texts _ _
  | audioSinks =>
      cases hq
      simp only [inquiry, Service.audioSinksInquiry, Session.audioSinksInquiry, Inquiry.map,
        Inquiry.bind_bind]
      refine (Session.ofTimeout s.timeout).handle.optional_poses Handle.promises_texts _ rfl
        fun paths => ?_
      exact (handlesTo_texts (Device.view_audioSink s.timeout) paths).symm
  | defaultAudioSink =>
      cases hq
      simp only [inquiry, Service.defaultAudioSinkInquiry, Inquiry.map, Inquiry.bind_bind]
      refine (Session.ofTimeout s.timeout).handle.optional_poses Handle.promises_text _ rfl
        fun path => ?_
      show (Service.sinkOfDefault s.timeout (some path)).bind _ =
        Outcome.handleTo .audioSink (.text path)
      unfold Service.sinkOfDefault Outcome.handleTo
      by_cases hroot : path = "/"
      · simp only [if_pos hroot]
        rfl
      · simp only [if_neg hroot, Device.view_audioSink s.timeout, except_bind_bind]
        rfl

/-- At a path there is an object. -/
theorem Handle.exists_of_valid (path : String) (h : Bus.ObjectPath.isValid path.toList = true)
    (suffix : String) (timeout : Nat) :
    ∃ handle, Handle.ofText path suffix timeout = .ok handle ∧ handle.path.text = path ∧
      handle.interface = Handle.interfaceName suffix :=
  ⟨_, Handle.ofText_of_valid path h suffix timeout, rfl, rfl⟩

theorem BacklightTarget.resolve_of_valid (target : BacklightTarget)
    (h : Bus.ObjectPath.isValid target.pathText.toList = true) (timeout : Nat) :
    ∃ b, target.resolve timeout = .ok b ∧ b.handle.path.text = target.pathText ∧
      b.handle.interface = "org.sessiond.session1.Backlight" := by
  obtain ⟨handle, hmade, hpath, hinterface⟩ := Handle.exists_of_valid _ h "Backlight" timeout
  rw [interfaceName_backlight] at hinterface
  cases target with
  | named name =>
      refine ⟨{ name, handle }, ?_, hpath, hinterface⟩
      show (Handle.ofText (named name).pathText "Backlight" timeout).bind _ = _
      rw [hmade]
      rfl
  | atPath path =>
      refine ⟨{ name := Bus.ObjectPath.lastElement path, handle }, ?_, hpath, hinterface⟩
      show (Handle.ofText (atPath path).pathText "Backlight" timeout).bind _ = _
      rw [hmade]
      rfl

theorem AudioSink.ofPath_of_valid (path : String)
    (h : Bus.ObjectPath.isValid path.toList = true) (timeout : Nat) :
    ∃ a, AudioSink.ofPath timeout path = .ok a ∧ a.handle.path.text = path ∧
      a.handle.interface = "org.sessiond.session1.AudioSink" := by
  obtain ⟨handle, hmade, hpath, hinterface⟩ := Handle.exists_of_valid _ h "AudioSink" timeout
  rw [interfaceName_audioSink] at hinterface
  refine ⟨{ handle }, ?_, hpath, hinterface⟩
  unfold ofPath
  rw [hmade]
  rfl

/-- An operation puts its question to the object that it is for. -/
theorem Operation.inquiry_poses (s : Service) (op : Operation) {q : Question}
    (hq : op.question? = some q) (hpath : Bus.ObjectPath.isValid op.path.toList = true) :
    (op.inquiry s).Poses q op.path op.interface := by
  cases op with
  | onSession op =>
      have hposes := op.inquiry_poses (.ofTimeout s.timeout) hq
      rw [show (Session.ofTimeout s.timeout).handle.interface = _ from interfaceName_session]
        at hposes
      exact hposes
  | onBacklight target op =>
      obtain ⟨b, hmade, hbpath, hinterface⟩ :=
        target.resolve_of_valid hpath s.timeout
      have hposes := op.inquiry_poses b hq
      rw [hbpath, hinterface] at hposes
      simp only [inquiry, hmade]
      exact hposes
  | onAudioSink target op =>
      obtain ⟨a, hmade, hapath, hinterface⟩ :=
        AudioSink.ofPath_of_valid target.pathText hpath s.timeout
      have hposes := op.inquiry_poses a hq
      rw [hapath, hinterface] at hposes
      simp only [inquiry, hmade]
      exact hposes
  | onObject path suffix op =>
      obtain ⟨h, hmade, hhpath, hinterface⟩ :=
        Handle.exists_of_valid path hpath suffix s.timeout
      have hservice : serviceName ++ "." = "org.sessiond.session1." := by decide
      rw [Handle.interfaceName, hservice] at hinterface
      have hposes := op.inquiry_poses h h.view hq
      rw [hhpath, hinterface] at hposes
      simp only [inquiry, hmade]
      exact hposes
  | onService op =>
      have hposes := op.inquiry_poses s hq
      rw [interfaceName_session] at hposes
      exact hposes

/-! ### Operations without a question -/

theorem Inquiry.call?_given {r : Except ε α} {i : α → Inquiry ε β}
    (h : ∀ a, (i a).call? = none) : (Inquiry.given r i).call? = none := by
  cases r with
  | ok a => exact h a
  | error e => rfl

theorem ObjectOperation.call?_of_question? (h : Handle) (view : HandleView)
    {op : ObjectOperation} (hq : op.question? = none) : (op.inquiry h view).call? = none := by
  cases op with
  | describe => rfl
  | _ => cases hq

/-- An operation that has no question makes no call. -/
theorem Operation.call?_of_question? (s : Service) {op : Operation} (hq : op.question? = none) :
    (op.inquiry s).call? = none := by
  cases op with
  | onSession op =>
      cases op with
      | object op => exact op.call?_of_question? _ _ hq
      | _ => cases hq
  | onBacklight target op =>
      refine Inquiry.call?_given fun b => ?_
      cases op with
      | object op => exact op.call?_of_question? _ _ hq
      | _ => cases hq
  | onAudioSink target op =>
      refine Inquiry.call?_given fun a => ?_
      cases op with
      | object op => exact op.call?_of_question? _ _ hq
      | _ => cases hq
  | onObject path suffix op =>
      exact Inquiry.call?_given fun h => op.call?_of_question? h h.view hq
  | onService op =>
      cases op with
      | session | backlight _ | audioSink _ => rfl
      | _ => cases hq

/-- Where there is no path, there is no handle, and no call is made. -/
theorem Operation.call?_of_invalid (s : Service) {op : Operation}
    (h : ¬Bus.ObjectPath.isValid op.path.toList = true) : (op.inquiry s).call? = none := by
  have hsession : Bus.ObjectPath.isValid "/org/sessiond/session1".toList = true := by decide
  cases op with
  | onSession op => exact absurd hsession h
  | onService op => exact absurd hsession h
  | onBacklight target op =>
      have hmade := Handle.ofText_of_invalid target.pathText h "Backlight" s.timeout
      simp only [inquiry]
      cases hresolve : target.resolve s.timeout with
      | error fault => rfl
      | ok b =>
          rw [BacklightTarget.handle_of_resolve hresolve] at hmade
          cases hmade
  | onAudioSink target op =>
      have hmade := Handle.ofText_of_invalid target.pathText h "AudioSink" s.timeout
      simp only [inquiry]
      cases hofPath : AudioSink.ofPath s.timeout target.pathText with
      | error fault => rfl
      | ok a =>
          rw [AudioSink.handle_of_ofPath hofPath] at hmade
          cases hmade
  | onObject path suffix op =>
      simp only [inquiry]
      rw [Handle.ofText_of_invalid path h suffix s.timeout]
      rfl

/-- An operation is settled without a call, or puts its question. -/
theorem Operation.inquiry_cases (s : Service) (op : Operation) :
    (∃ result, op.inquiry s = .settled result) ∨
      ∃ q, op.question? = some q ∧ (op.inquiry s).Poses q op.path op.interface := by
  have hsettled : (op.inquiry s).call? = none → ∃ result, op.inquiry s = .settled result := by
    intro hcall
    cases hinquiry : op.inquiry s with
    | settled result => exact ⟨result, rfl⟩
    | asks call read callback =>
        rw [hinquiry] at hcall
        cases hcall
  cases hq : op.question? with
  | none => exact .inl (hsettled (op.call?_of_question? s hq))
  | some q =>
      by_cases hpath : Bus.ObjectPath.isValid op.path.toList = true
      · exact .inr ⟨q, rfl, op.inquiry_poses s hq hpath⟩
      · exact .inl (hsettled (op.call?_of_invalid s hpath))

/-! ## Performing -/

/-- A callback changes nothing but what is registered. -/
theorem enlist_eq (callback : Option Bus.Subscription) (result : Except ε α) (w : World σ) :
    ∃ subscriptions, Inquiry.enlist callback result w =
      { w with connection := { w.connection with subscriptions } } := by
  unfold Inquiry.enlist
  split
  · exact ⟨_, rfl⟩
  · exact ⟨w.connection.subscriptions, rfl⟩

/-- An inquiry makes one call, and its result is what the question makes of the answer. -/
theorem Inquiry.Poses.run {q : Question} {path interface : String} {i : Inquiry Fault Outcome}
    (h : i.Poses q path interface) {w : World σ} (hopen : w.connection.phase ≠ .closed)
    {reply : Bus.Reply} {state : σ}
    (hreply : w.connection.peer.reply w.connection.state (q.approach.call path interface) =
      (reply, state)) :
    (i.run w).1 = q.made (w.connection.inbox ++ reply.before) reply.answer ∧
    (i.run w).2.journal = w.journal ++ [.called (q.approach.call path interface)] ∧
    ∃ subscriptions, (i.run w).2.connection =
      { w.connection with
        state
        phase := Bus.Connection.phaseAfter w.connection.phase reply
        inbox := w.connection.inbox ++ arrived reply
        subscriptions } := by
  cases h with
  | asks read callback hrefused hanswered =>
      have houtcome : (w.connection.exchange (q.approach.call path interface)).1 =
          Bus.Connection.outcome (w.connection.inbox ++ reply.before) reply.answer := by
        unfold Bus.Connection.exchange
        rw [hreply]
      have hconnection := exchange_connection w.connection (q.approach.call path interface)
      rw [hreply] at hconnection
      simp only [Inquiry.run]
      rw [Action.call_of_open _ hopen, hconnection, houtcome]
      refine ⟨?_, ?_, ?_⟩
      · rw [Question.made_eq]
        cases Bus.Connection.outcome (w.connection.inbox ++ reply.before) reply.answer with
        | ok body => exact hanswered body
        | error failure => exact hrefused failure
      all_goals
        obtain ⟨subscriptions, henlist⟩ := enlist_eq callback
          (read (Bus.Connection.outcome (w.connection.inbox ++ reply.before) reply.answer)) _
        rw [henlist]
      · exact ⟨subscriptions, rfl⟩

theorem Inquiry.Poses.call? {q : Question} {path interface : String} {i : Inquiry Fault Outcome}
    (h : i.Poses q path interface) : i.call? = some (q.approach.call path interface) := by
  cases h
  rfl

/-- An operation that talks to the bus makes one call, to the object that it is for, and takes one
    reply. Its result is what its question makes of the reply: a failure keeps its name and text,
    and a success is read if and only if its first argument is of the kind that it has to be of.
    Where the operation fails, no success is recorded. -/
theorem Operation.perform_faithful (s : Service) (w : World σ) (op : Operation) {q : Question}
    (hq : op.question? = some q) (hpath : Bus.ObjectPath.isValid op.path.toList = true)
    (hopen : w.connection.phase ≠ .closed) {reply : Bus.Reply} {state : σ}
    (hreply : w.connection.peer.reply w.connection.state
      (q.approach.call op.path op.interface) = (reply, state)) :
    (op.perform s w).2.journal.calls =
      w.journal.calls ++ [q.approach.call op.path op.interface] ∧
    (op.perform s w).2.connection.state = state ∧
    (op.perform s w).1 = q.made (w.connection.inbox ++ reply.before) reply.answer ∧
    (∀ failure, (q.approach.complaint failure).cause? = some failure) ∧
    (∀ kind, q.result.kind? = some kind →
      ∀ first, (q.result.meaning? first).isSome ↔ first.kind = kind) ∧
    ∀ fault, (op.perform s w).1 = .error fault →
      (∀ path complaint, fault ≠ .invalidPath path complaint) →
      (op.perform s w).2.journal.getLast? =
        some (.called (q.approach.call op.path op.interface)) := by
  have hposes := op.inquiry_poses s hq hpath
  obtain ⟨hresult, halike⟩ := op.perform_amountsTo s w w (.refl w)
  obtain ⟨hmade, hjournal, subscriptions, hconnection⟩ := hposes.run hopen hreply
  refine ⟨?_, ?_, hresult.trans hmade, q.approach.cause?_complaint,
    fun _ => Result.isSome_meaning?_iff, ?_⟩
  · rw [halike.calls, hjournal, Journal.calls_append]
    rfl
  · rw [halike.connection, hconnection]
  · -- a path that is none may turn up behind the call, with records of handles made before it
    intro fault herror hfault
    refine op.perform_failsWith s hposes.call? w hopen fault herror ?_
    cases fault with
    | invalidPath path complaint => exact absurd rfl (hfault path complaint)
    | _ => rfl

/-- Who may not remove an inhibitor is told so in the words of the service, and nothing else is
    said to have happened. -/
theorem perform_faithful_denied :
    let denial : Bus.Failure := ⟨"org.freedesktop.DBus.Error.AccessDenied", "Not your inhibitor"⟩
    let w : World (List Bus.Reply) :=
      { connection := .fresh (.scripted .noReply) [{ answer := .refused denial }] }
    let call : Bus.Call :=
      { destination := "org.sessiond.session1", path := "/org/sessiond/session1"
        interface := "org.sessiond.session1.Session", member := "Uninhibit"
        args := [.string "7"] }
    let x := (Operation.onSession (.uninhibit "7")).perform {} w
    w.connection.phase ≠ .closed ∧ x.2.journal.calls = [call] ∧ x.2.connection.state = [] ∧
      x.1 = .error (.callFailed denial) ∧ x.2.journal.getLast? = some (.called call) := by
  intro denial w call x
  obtain ⟨hcalls, hstate, hresult, -, -, hrecords⟩ :=
    Operation.perform_faithful {} w (.onSession (.uninhibit "7"))
      (q := .method "Uninhibit" [.string "7"] .nothing) rfl (by decide) (by decide) rfl
  exact ⟨by decide, hcalls, hstate, hresult, hrecords _ hresult fun _ _ h => nomatch h⟩

end SessionControl.Client
