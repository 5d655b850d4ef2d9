import SessionControl.Proofs.Accessors
import SessionControl.Proofs.Naming
import SessionControl.Proofs.Unnamed

set_option autoImplicit false

/-! # The lack of audio support

A service that was built without audio has no audio properties, and says so by one of two errors.
That and nothing else is taken for their absence: each answer to the question for an optional
property denies it, carries its value, or fails in a way of its own (`Answer.denies_or_carries`),
and the failures stay failures up to the command that asks for the default sink. -/

namespace SessionControl.Bus.Answer

open Client (Fault Outcome Promised PropertyValue)

/-! ## Answers about a property -/

/-- The service says that it does not have the property that was asked for. -/
def Denies (a : Answer) : Prop :=
  ∃ failure : Failure, a = .refused failure ∧
    (failure.name = "org.freedesktop.DBus.Error.UnknownProperty" ∨
      failure.name = "org.freedesktop.DBus.Error.InvalidArgs")

/-- A success that carries something of a promised kind. -/
def Carries (a : Answer) (promised : Promised) (o : Outcome) : Prop :=
  ∃ v rest, a = .returned (.variant v :: rest) ∧ v.Carries promised o

/-- All other answers, each with the fault that is told of it to one who had these signals
    waiting. -/
inductive Fails (name : String) (promised : Promised) (waiting : List Signal) :
    Answer → Fault → Prop
  /-- An error by another name. -/
  | refused {failure : Failure}
      (other : failure.name ≠ "org.freedesktop.DBus.Error.UnknownProperty" ∧
        failure.name ≠ "org.freedesktop.DBus.Error.InvalidArgs") :
      Fails name promised waiting (.refused failure) (.callFailed failure)
  | silence : Fails name promised waiting .silence (.callFailed .noReply)
  /-- The connection was lost. -/
  | dropped (alone : waiting = []) : Fails name promised waiting .dropped (.callFailed .noReply)
  | cutOff (behind : waiting ≠ []) : Fails name promised waiting .dropped (.callFailed .cutOff)
  /-- A success that is no variant. -/
  | empty :
      Fails name promised waiting (.returned []) (.callFailed (.mismatch 0 .variant .nothing))
  | bare {first : Wire} {rest : Body} (other : first.kind ≠ .variant) :
      Fails name promised waiting (.returned (first :: rest))
        (.callFailed (.mismatch 0 .variant first.kind))
  /-- A value of another kind. -/
  | unexpected {v : Wire} {rest : Body} (nothing : ∀ o, ¬v.Carries promised o) :
      Fails name promised waiting (.returned (.variant v :: rest))
        (.unexpectedKind name promised.words (PropertyValue.ofWire v))

theorem denies_or_carries (name : String) (promised : Promised) (waiting : List Signal)
    (a : Answer) :
    a.Denies ∨ (∃ o, a.Carries promised o) ∨ ∃ fault, a.Fails name promised waiting fault := by
  cases a with
  | refused failure =>
      by_cases h : failure.name = "org.freedesktop.DBus.Error.UnknownProperty" ∨
          failure.name = "org.freedesktop.DBus.Error.InvalidArgs"
      · exact .inl ⟨failure, rfl, h⟩
      · exact .inr (.inr ⟨_, .refused (not_or.mp h)⟩)
  | silence => exact .inr (.inr ⟨_, .silence⟩)
  | dropped =>
      by_cases h : waiting = []
      · exact .inr (.inr ⟨_, .dropped h⟩)
      · exact .inr (.inr ⟨_, .cutOff h⟩)
  | returned body =>
      rcases body with _ | ⟨first, rest⟩
      · exact .inr (.inr ⟨_, .empty⟩)
      · by_cases hvariant : first.kind = .variant
        · obtain ⟨v, rfl⟩ : ∃ v, first = .variant v := by
            cases first <;> cases hvariant
            exact ⟨_, rfl⟩
          by_cases h : ∃ o, v.Carries promised o
          · obtain ⟨o, ho⟩ := h
            exact .inr (.inl ⟨o, v, rest, rfl, ho⟩)
          · exact .inr (.inr ⟨_, .unexpected (not_exists.mp h)⟩)
        · exact .inr (.inr ⟨_, .bare hvariant⟩)

end SessionControl.Bus.Answer

namespace SessionControl.Client

variable {σ α β : Type}

open Bus (Answer Wire)
open Bus.ObjectPath (IsPath isPath_iff)
open Command (askSession)

/-! ## What a question for a property makes of them -/

/-- The question is for a property, which has to be of a promised kind. -/
structure Question.Gets (q : Question) (name : String) (promised : Promised) : Prop where
  approach : q.approach = .get name
  result : q.result = .property name promised

theorem Question.gets_optional (name : String) (promised : Promised) (lack : Outcome)
    (finish : Outcome → Except Fault Outcome) :
    (Question.optional name promised lack finish).Gets name promised :=
  ⟨rfl, rfl⟩

theorem Question.made_of_denies {q : Question} {waiting : List Bus.Signal} {a : Answer}
    (h : a.Denies) {o : Outcome} : q.made waiting a = .ok o ↔ q.lack? = some o := by
  obtain ⟨failure, rfl, hname⟩ := h
  show q.refused failure = .ok o ↔ _
  unfold Question.refused
  cases q.lack? with
  | none => exact iff_of_false nofun nofun
  | some lack => simp only [if_pos hname, Except.ok.injEq, Option.some.injEq]

namespace Question.Gets

variable {q : Question} {name : String} {promised : Promised} {waiting : List Bus.Signal}
  {a : Answer} {o : Outcome}

theorem made_of_carries (h : q.Gets name promised) (ha : a.Carries promised o) :
    q.made waiting a = q.finish o := by
  obtain ⟨v, rest, rfl, hv⟩ := ha
  have htake := Promised.take?_of_carries hv
  simp only [Question.made, Question.answered, h.result, Result.kind?, Result.meaning?, htake]
  rfl

theorem made_of_fails (h : q.Gets name promised) {fault : Fault}
    (ha : a.Fails name promised waiting fault) : q.made waiting a = .error fault := by
  have hcomplaint : ∀ failure, q.approach.complaint failure = .callFailed failure := by
    intro failure
    rw [h.approach]
    rfl
  cases ha with
  | refused other =>
      rw [← hcomplaint]
      exact Question.refused_eq (.inr (not_or.mpr other))
  | silence => exact congrArg _ (hcomplaint _)
  | dropped alone => simp only [Question.made, if_pos alone, hcomplaint]
  | cutOff behind => simp only [Question.made, if_neg behind, hcomplaint]
  | empty => simp only [Question.made, Question.answered, h.result, Result.kind?]
  | @bare first rest other =>
      have hnone : (Result.property name promised).meaning? first = none := by
        rw [← Option.not_isSome_iff_eq_none, Result.isSome_meaning?_iff rfl]
        exact other
      simp only [Question.made, Question.answered, h.result, Result.kind?, hnone]
  | @unexpected v rest nothing =>
      have htake : promised.take? (PropertyValue.ofWire v) = none := by
        rw [Option.eq_none_iff_forall_ne_some]
        intro o ho
        exact nothing o (Promised.carries_of_take? ho)
      simp only [Question.made, Question.answered, h.result, Result.kind?, Result.meaning?, htake]
      rfl

theorem made_eq_ok_iff (h : q.Gets name promised) :
    q.made waiting a = .ok o ↔ (a.Denies ∧ q.lack? = some o) ∨
      ∃ carried, a.Carries promised carried ∧ q.finish carried = .ok o := by
  constructor
  · intro hmade
    rcases a.denies_or_carries name promised waiting with hdenies | ⟨carried, hcarries⟩ |
      ⟨fault, hfails⟩
    · exact .inl ⟨hdenies, (Question.made_of_denies hdenies).mp hmade⟩
    · rw [h.made_of_carries hcarries] at hmade
      exact .inr ⟨carried, hcarries, hmade⟩
    · cases (h.made_of_fails hfails).symm.trans hmade
  · rintro (⟨hdenies, hlack⟩ | ⟨carried, hcarries, hfinish⟩)
    · exact (Question.made_of_denies hdenies).mpr hlack
    · exact (h.made_of_carries hcarries).trans hfinish

/-- Where the property may be lacking and what is carried is always fine, nothing else fails. -/
theorem made_eq_error_iff (h : q.Gets name promised) {lack : Outcome} (hlack : q.lack? = some lack)
    (hfinish : ∀ carried, ∃ o, q.finish carried = .ok o) {fault : Fault} :
    q.made waiting a = .error fault ↔ a.Fails name promised waiting fault := by
  constructor
  · intro hmade
    rcases a.denies_or_carries name promised waiting with hdenies | ⟨carried, hcarries⟩ |
      ⟨fault', hfails⟩
    · cases ((Question.made_of_denies hdenies).mpr hlack).symm.trans hmade
    · obtain ⟨o, ho⟩ := hfinish carried
      cases ((h.made_of_carries hcarries).trans ho).symm.trans hmade
    · rw [h.made_of_fails hfails] at hmade
      cases hmade
      exact hfails
  · exact h.made_of_fails

end Question.Gets

/-! ## The session -/

/-- An action's result, seen as an outcome, is what its question makes of the answer. -/
theorem Inquiry.Poses.made {x : Action σ Fault α} {i : Inquiry Fault α} {wrap : α → Outcome}
    {q : Question} {path interface : String} (hposes : (i.map wrap).Poses q path interface)
    (hx : x.AmountsTo i) {w : World σ} (hopen : w.connection.phase ≠ .closed)
    {reply : Bus.Reply} (hreply :
      (w.connection.peer.reply w.connection.state (q.approach.call path interface)).1 = reply) :
    (x w).1.map wrap = q.made (w.connection.inbox ++ reply.before) reply.answer := by
  obtain ⟨hmade, -⟩ := hposes.run hopen (Prod.ext hreply rfl)
  rw [← hmade, (hx w w (.refl w)).1]
  cases i with
  | settled result => cases result <;> rfl
  | asks call read callback =>
      simp only [Inquiry.run, Inquiry.map, Inquiry.bind]
      cases read (Action.call call w).1 <;> rfl

theorem map_eq_ok_iff {f : α → β} (hf : ∀ a b, f a = f b → a = b) {r : Except Fault α} {a : α} :
    r.map f = .ok (f a) ↔ r = .ok a := by
  cases r with
  | error fault => exact iff_of_false nofun nofun
  | ok b =>
      constructor
      · intro h
        rw [hf b a (Except.ok.inj h)]
      · intro h
        rw [h]
        rfl

theorem map_eq_error_iff {f : α → β} {r : Except Fault α} {fault : Fault} :
    r.map f = .error fault ↔ r = .error fault := by
  cases r with
  | error fault' => simp only [Except.map, Except.error.injEq]
  | ok b => exact iff_of_false nofun nofun

/-- An array that carries no texts is empty. -/
theorem carries_no_texts_iff {v : Wire} :
    v.Carries .texts (.texts []) ↔ ∃ element, v.core = .array element [] := by
  constructor
  · rintro (_ | _ | _ | _ | _ | ⟨hcore, each⟩)
    cases each
    exact ⟨_, hcore⟩
  · rintro ⟨element, hcore⟩
    exact .texts hcore .nil

/-- What the session tells of audio, by the answers to its two questions and by what waits when they
    come. -/
structure Session.TellsAudio (session : Session) (w : World σ) (answer : String → Answer)
    (waiting : String → List Bus.Signal) : Prop where
  default_absent :
    (session.defaultAudioSink w).1 = .ok none ↔ (answer "DefaultAudioSink").Denies
  default_told (path : String) : (session.defaultAudioSink w).1 = .ok (some path) ↔
    (answer "DefaultAudioSink").Carries .text (.text path)
  default_failed (fault : Fault) : (session.defaultAudioSink w).1 = .error fault ↔
    (answer "DefaultAudioSink").Fails "DefaultAudioSink" .text (waiting "DefaultAudioSink") fault
  /-- No sinks are told if there is no such property, or if its value is an empty array. -/
  sinks_absent : (session.audioSinks w).1 = .ok [] ↔
    (answer "AudioSinks").Denies ∨ ∃ v rest element,
      answer "AudioSinks" = .returned (.variant v :: rest) ∧ v.core = .array element []
  sinks_failed (fault : Fault) : (session.audioSinks w).1 = .error fault ↔
    (answer "AudioSinks").Fails "AudioSinks" .texts (waiting "AudioSinks") fault

theorem Session.tellsAudio (timeout : Nat) {w : World σ} (hopen : w.connection.phase ≠ .closed)
    {reply : String → Bus.Reply}
    (hreply : ∀ name, (w.connection.peer.reply w.connection.state (askSession name)).1 =
      reply name) :
    (Session.ofTimeout timeout).TellsAudio w (fun name => (reply name).answer)
      fun name => w.connection.inbox ++ (reply name).before := by
  have hinterface : (Session.ofTimeout timeout).handle.interface = _ := interfaceName_session
  have hdefault : Inquiry.Poses _ _ _
      (SessionOperation.defaultAudioSink.inquiry (.ofTimeout timeout)) :=
    SessionOperation.inquiry_poses _ rfl
  have hsinks : Inquiry.Poses _ _ _ (SessionOperation.audioSinks.inquiry (.ofTimeout timeout)) :=
    SessionOperation.inquiry_poses _ rfl
  rw [hinterface] at hdefault hsinks
  have hdefault := hdefault.made (Session.defaultAudioSink_amountsTo _) hopen
    (hreply "DefaultAudioSink")
  have hsinks := hsinks.made (Session.audioSinks_amountsTo _) hopen (hreply "AudioSinks")
  have hgets := Question.gets_optional "DefaultAudioSink" .text (.optionalText none) Outcome.present
  have hgetsAll := Question.gets_optional "AudioSinks" .texts (.texts []) .ok
  constructor
  case default_absent =>
    rw [← map_eq_ok_iff (f := Outcome.optionalText) (fun _ _ => Outcome.optionalText.inj),
      hdefault, hgets.made_eq_ok_iff]
    constructor
    · rintro (⟨hdenies, -⟩ | ⟨carried, ⟨v, rest, -, hv⟩, hpresent⟩)
      · exact hdenies
      · cases hv
        cases hpresent
    · intro hdenies
      exact .inl ⟨hdenies, rfl⟩
  case default_told =>
    intro path
    rw [← map_eq_ok_iff (f := Outcome.optionalText) (fun _ _ => Outcome.optionalText.inj),
      hdefault, hgets.made_eq_ok_iff]
    constructor
    · rintro (⟨-, hnone⟩ | ⟨carried, ⟨v, rest, hanswer, hv⟩, hpresent⟩)
      · cases hnone
      · cases hv with
        | text h =>
            cases hpresent
            exact ⟨v, rest, hanswer, .text h⟩
    · intro hcarries
      exact .inr ⟨_, hcarries, rfl⟩
  case default_failed =>
    intro fault
    have hpresent : ∀ o : Outcome, ∃ o', o.present = .ok o' := by
      intro o
      cases o <;> exact ⟨_, rfl⟩
    rw [← map_eq_error_iff (f := Outcome.optionalText), hdefault,
      hgets.made_eq_error_iff rfl hpresent]
  case sinks_absent =>
    rw [← map_eq_ok_iff (f := Outcome.texts) (fun _ _ => Outcome.texts.inj), hsinks,
      hgetsAll.made_eq_ok_iff]
    constructor
    · rintro (⟨hdenies, -⟩ | ⟨carried, ⟨v, rest, hanswer, hv⟩, hcarried⟩)
      · exact .inl hdenies
      · cases hcarried
        obtain ⟨element, hcore⟩ := carries_no_texts_iff.mp hv
        exact .inr ⟨v, rest, element, hanswer, hcore⟩
    · rintro (hdenies | ⟨v, rest, element, hanswer, hcore⟩)
      · exact .inl ⟨hdenies, rfl⟩
      · exact .inr ⟨_, ⟨v, rest, hanswer, carries_no_texts_iff.mpr ⟨element, hcore⟩⟩, rfl⟩
  case sinks_failed =>
    intro fault
    rw [← map_eq_error_iff (f := Outcome.texts), hsinks,
      hgetsAll.made_eq_error_iff rfl fun o => ⟨o, rfl⟩]

/-! ## The service -/

/-- The handle is the one at this path, with this interface and time limit. -/
def Handle.IsAt (h : Handle) (path interface : String) (timeout : Nat) : Prop :=
  h.path.text = path ∧ h.interface = interface ∧ h.timeout = timeout

/-- What is told of a text that is no path. -/
def notPath (text : String) : Fault :=
  .invalidPath text ("Object path was not valid: '" ++ text ++ "'")

/-- What the service makes of the path of the default sink that the session tells: a handle at that
    very path, none for the root or where none is told, and a fault where it is no path. -/
structure Service.TakesDefault (timeout : Nat) (told : Except Fault (Option String))
    (taken : Except Fault (Option AudioSink)) : Prop where
  absent : taken = .ok none ↔ told = .ok none ∨ told = .ok (some "/")
  found (path : String) : IsPath path → path ≠ "/" → told = .ok (some path) →
    ∃ a, taken = .ok (some a) ∧ a.handle.IsAt path "org.sessiond.session1.AudioSink" timeout
  invalid (path : String) : ¬IsPath path → told = .ok (some path) →
    taken = .error (notPath path)
  failed (fault : Fault) : told = .error fault → taken = .error fault

/-- Where an inquiry goes on with a further reading, so does its result. -/
theorem result_bind {x : Action σ Fault β} {y : Action σ Fault α} {i : Inquiry Fault α}
    {f : α → Except Fault β} (hx : x.AmountsTo (i.bind f)) (hy : y.AmountsTo i) (w : World σ) :
    (x w).1 = (y w).1.bind f := by
  rw [(hx w w (.refl w)).1, (hy w w (.refl w)).1]
  cases i with
  | asks call read callback => rfl
  | settled result =>
      cases result with
      | error fault => rfl
      | ok a =>
          show (Action.ofExcept (f a) w).1 = f a
          cases f a <;> rfl

/-- On a closed connection a call fails before it is made. -/
theorem result_of_closed {x : Action σ Fault α} {call : Bus.Call}
    {read : Except Bus.Failure Bus.Body → Except Fault α} (hx : x.AmountsTo (.asks call read))
    {w : World σ} (hclosed : w.connection.phase = .closed) :
    (x w).1 = read (.error .disconnected) := by
  rw [(hx w w (.refl w)).1]
  simp only [Inquiry.run, Action.call_of_closed call hclosed]

/-- The function makes the device at a path of a text, and nothing of other texts. -/
structure MakesDevice (make : String → Except Fault α) (interface : String) (timeout : Nat)
    (handle : α → Handle) : Prop where
  made {text : String} : IsPath text →
    ∃ a, make text = .ok a ∧ (handle a).IsAt text interface timeout
  refused {text : String} : ¬IsPath text → make text = .error (notPath text)

/-- A device that is made around the handle at a text. -/
theorem makesDevice_ofText {suffix interface : String}
    (hinterface : Handle.interfaceName suffix = interface) (timeout : Nat)
    {wrap : String → Handle → α} {handle : α → Handle}
    (hwrap : ∀ text h, handle (wrap text h) = h) :
    MakesDevice (fun text => (Handle.ofText text suffix timeout).bind fun h => .ok (wrap text h))
      interface timeout handle where
  made {text} htext := by
    rw [Handle.ofText_of_valid text ((isPath_iff text).mp htext), hinterface]
    refine ⟨_, rfl, ?_⟩
    rw [hwrap]
    exact ⟨rfl, rfl, rfl⟩
  refused {text} htext := by
    rw [Handle.ofText_of_invalid text (mt (isPath_iff text).mpr htext)]
    rfl

theorem AudioSink.makesDevice (timeout : Nat) :
    MakesDevice (ofPath timeout) "org.sessiond.session1.AudioSink" timeout handle :=
  makesDevice_ofText interfaceName_audioSink timeout fun _ _ => rfl

theorem Service.sinkOfDefault_of_ne (timeout : Nat) {path : String} (h : path ≠ "/") :
    sinkOfDefault timeout (some path) =
      (AudioSink.ofPath timeout path).bind fun a => .ok (some a) :=
  if_neg h

theorem Service.sinkOfDefault_takes (timeout : Nat) (told : Except Fault (Option String)) :
    TakesDefault timeout told (told.bind (sinkOfDefault timeout)) where
  absent := by
    rcases told with fault | _ | path
    · exact iff_of_false nofun (by rintro (h | h) <;> cases h)
    · exact iff_of_true rfl (.inl rfl)
    · show sinkOfDefault timeout (some path) = .ok none ↔ _
      by_cases hroot : path = "/"
      · subst hroot
        exact iff_of_true rfl (.inr rfl)
      · rw [sinkOfDefault_of_ne timeout hroot]
        refine iff_of_false ?_ ?_
        · cases AudioSink.ofPath timeout path <;> exact nofun
        · rintro (h | h)
          · cases h
          · cases h
            exact hroot rfl
  found path hpath hroot htold := by
    obtain ⟨a, hmade, hat⟩ := (AudioSink.makesDevice timeout).made hpath
    refine ⟨a, ?_, hat⟩
    rw [htold]
    show sinkOfDefault timeout (some path) = _
    rw [sinkOfDefault_of_ne timeout hroot, hmade]
    rfl
  invalid path hpath htold := by
    have hroot : path ≠ "/" := by
      rintro rfl
      exact hpath (.inl rfl)
    rw [htold]
    show sinkOfDefault timeout (some path) = _
    rw [sinkOfDefault_of_ne timeout hroot, (AudioSink.makesDevice timeout).refused hpath]
    rfl
  failed fault htold := by
    rw [htold]
    rfl

end SessionControl.Client

namespace SessionControl.Command

open Client (Action Fault Service Session World)
open CommandLine (AudioChange)

variable {σ : Type}

/-! ## The command -/

/-- A service without audio is told from one that fails by the name of its error alone, and the
    command that asks for the default sink is told that there is none in just these cases. Of the
    session's answers each is denied, told or failed; what the service makes of a path is decided by
    the path; and where the command finds no sink it has asked for it, and asks nothing else. -/
theorem audio_absence (s : Service) (w : World σ) (env : Environment) (settings : Settings)
    (change : AudioChange) :
    let session := Session.ofTimeout s.timeout
    let reply name := (w.connection.peer.reply w.connection.state (askSession name)).1
    let x := perform env { settings with audioSink := none } s (.audioSink none change) w
    (w.connection.phase ≠ .closed →
      session.TellsAudio w (fun name => (reply name).answer)
        fun name => w.connection.inbox ++ (reply name).before) ∧
    (w.connection.phase = .closed →
      (session.defaultAudioSink w).1 = .error (.callFailed .disconnected) ∧
        (session.audioSinks w).1 = .error (.callFailed .disconnected)) ∧
    Service.TakesDefault s.timeout (session.defaultAudioSink w).1 (s.defaultAudioSink w).1 ∧
    (Says "sessiond has no default audio sink" x.1 ↔ (s.defaultAudioSink w).1 = .ok none) ∧
    ((s.defaultAudioSink w).1 = .ok none →
      x.2.journal.calls = w.journal.calls ++ [askSession "DefaultAudioSink"]) := by
  intro session reply x
  have htakes : (s.defaultAudioSink w).1 =
      (session.defaultAudioSink w).1.bind (Service.sinkOfDefault s.timeout) :=
    Client.result_bind s.defaultAudioSink_amountsTo session.defaultAudioSink_amountsTo w
  have hclosed : w.connection.phase = .closed →
      (session.defaultAudioSink w).1 = .error (.callFailed .disconnected) ∧
        (session.audioSinks w).1 = .error (.callFailed .disconnected) := by
    intro hphase
    exact ⟨Client.result_of_closed session.defaultAudioSink_amountsTo hphase,
      Client.result_of_closed session.audioSinks_amountsTo hphase⟩
  refine ⟨fun hopen => Session.tellsAudio s.timeout hopen fun _ => rfl, hclosed, ?_,
    says_audioSink_iff s change w, fun hnone => ?_⟩
  · rw [htakes]
    exact Service.sinkOfDefault_takes s.timeout _
  · have hopen : w.connection.phase ≠ .closed := by
      intro hphase
      rw [htakes, (hclosed hphase).1] at hnone
      cases hnone
    have hfound : (findAudioSink s none w).1 = .error { cause := .noDefaultSink } := by
      rw [findAudioSink_result, hnone]
      rfl
    show (quietly (audioSink s none change) w).2.journal.calls = _
    rw [audioSink_of_error s change hfound]
    exact findAudioSink_calls s hopen

/-- A service that does not even know the interface is not one without audio. -/
theorem audio_absence_unknown_interface :
    let failure : Bus.Failure :=
      ⟨"org.freedesktop.DBus.Error.UnknownInterface", "No such interface"⟩
    let w : World (List Bus.Reply) :=
      { connection := .fresh (.scripted .noReply) [{ answer := .refused failure }] }
    w.connection.phase ≠ .closed ∧
      ((Session.ofTimeout 25000).audioSinks w).1 = .error (.callFailed failure) ∧
      ¬Says "sessiond has no default audio sink" (perform .bare {} {} (.audioSink none {}) w).1 := by
  intro failure w
  have hopen : w.connection.phase ≠ .closed := by decide
  obtain ⟨htells, -, htakes, hcommand, -⟩ := audio_absence {} w .bare {} {}
  have htells := htells hopen
  have hfails : ∀ name promised waiting,
      (Bus.Answer.refused failure).Fails name promised waiting (.callFailed failure) :=
    fun _ _ _ => .refused ⟨by decide, by decide⟩
  refine ⟨hopen, (htells.sinks_failed _).mpr (hfails _ _ _), fun hsaid => ?_⟩
  have hdefault := htakes.failed _ ((htells.default_failed _).mpr (hfails _ _ _))
  cases hdefault.symm.trans (hcommand.mp hsaid)

end SessionControl.Command
