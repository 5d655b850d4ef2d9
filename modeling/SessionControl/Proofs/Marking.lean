import SessionControl.Proofs.Absence
import SessionControl.Proofs.Reporting

set_option autoImplicit false

/-! # The default sink in the status

The status marks the sink whose path is the text of a property, and the service makes a handle of
that text unless it is the root. Over a daemon whose properties stay as they are (`Fixed`), the
answers that led to a report are still given to whoever asks again (`Fixed.result_of_told`), so both
speak of the same sink: of the sinks that the status shows, those are marked that are at the path of
the default sink's handle. -/

namespace SessionControl.Command

open Bus.ObjectPath (IsPath isPath_iff)
open Client (Action Approach AudioSink Event Fault Handle HandleView Inquiry Journal Outcome
  Promised Question Service ServiceOperation Session SessionOperation World)

variable {σ α : Type}

/-! ## Properties that stay as they are -/

/-- The answer for each property, by the path of its object, its interface and its name. -/
abbrev Assignment := String → String → String → Bus.Answer

/-- When these calls are made one after another, each that asks for a property gets the answer that
    is assigned to the property. -/
def Fixed (assigned : Assignment) : Bus.Connection σ → List Bus.Call → Prop
  | _, [] => True
  | c, call :: rest =>
    (∀ path interface name, call = (Approach.get name).call path interface →
      (c.peer.reply c.state call).1.answer = assigned path interface name) ∧
    Fixed assigned (c.exchange call).2 rest

/-- There is an open connection, over which the session has the properties as they are assigned. -/
structure Offers (w : World σ) (assigned : Assignment) : Prop where
  opened : w.connection.phase ≠ .closed
  answered (name : String) :
    (w.connection.peer.reply w.connection.state (askSession name)).1.answer =
      assigned "/org/sessiond/session1" "org.sessiond.session1.Session" name

/-- The properties stay as they are where no state of the daemon has others. -/
theorem fixed_of_stateless {assigned : Assignment} {peer : Bus.Peer σ}
    (h : ∀ state path interface name,
      (peer.reply state ((Approach.get name).call path interface)).1.answer =
        assigned path interface name)
    {c : Bus.Connection σ} (hpeer : c.peer = peer) (calls : List Bus.Call) :
    Fixed assigned c calls := by
  induction calls generalizing c with
  | nil => trivial
  | cons call calls ih =>
      refine ⟨?_, ih hpeer⟩
      rintro path interface name rfl
      rw [hpeer]
      exact h c.state path interface name

theorem Fixed.of_append {assigned : Assignment} {c : Bus.Connection σ}
    {calls calls' : List Bus.Call} (h : Fixed assigned c (calls ++ calls')) :
    Fixed assigned c calls := by
  induction calls generalizing c with
  | nil => trivial
  | cons call calls ih => exact ⟨h.1, ih h.2⟩

/-- The signals that wait make no difference to a success. -/
theorem made_of_ok {q : Question} {waiting : List Bus.Signal} {answer : Bus.Answer} {o : Outcome}
    (h : q.made waiting answer = .ok o) (waiting' : List Bus.Signal) :
    q.made waiting' answer = .ok o := by
  cases answer with
  | dropped => cases h
  | _ => exact h

namespace Fixed

variable {assigned : Assignment} {c : Bus.Connection σ} {path interface name context : String}

theorem made_of_brings {rs : List Reading} (h : Fixed assigned c (rs.map Reading.call))
    (hbrought : Brings c rs) {r : Reading} (hr : r ∈ rs) (hget : r.question.approach = .get name)
    (waiting : List Bus.Signal) :
    r.question.made waiting (assigned r.path r.interface name) = .ok r.outcome := by
  induction rs generalizing c with
  | nil => cases hr
  | cons r' rs ih =>
      cases hr with
      | tail _ hr => exact ih h.2 hbrought.2 hr
      | head =>
          have hcall : r.call = (Approach.get name).call r.path r.interface := by
            rw [Reading.call, hget]
          rw [← h.1 r.path r.interface name hcall]
          exact made_of_ok hbrought.1 waiting

variable {told : List Entry}

/-- What was told of a property is what is made of the answer that is assigned to it. -/
theorem made_of_told (h : Fixed assigned c (callsFor told)) (hbrought : Brings c (readings told))
    {r : Reading} (hr : .read r ∈ told) (hget : r.question.approach = .get name)
    (waiting : List Bus.Signal) :
    r.question.made waiting (assigned r.path r.interface name) = .ok r.outcome :=
  h.made_of_brings hbrought (List.mem_filterMap.mpr ⟨.read r, hr, rfl⟩) hget waiting

theorem carries_of_told (h : Fixed assigned c (callsFor told)) (hbrought : Brings c (readings told))
    {promised : Promised} {outcome : Outcome}
    (hr : .read ⟨path, interface, .property name promised, context, outcome⟩ ∈ told) :
    (assigned path interface name).Carries promised outcome := by
  have hgets : (Question.property name promised).Gets name promised := ⟨rfl, rfl⟩
  rcases hgets.made_eq_ok_iff.mp (h.made_of_told hbrought hr rfl []) with
    ⟨-, hlack⟩ | ⟨carried, hcarries, hfinish⟩
  · cases hlack
  · cases hfinish
    exact hcarries

/-- Whoever asks the session again, over any connection, is told the same. -/
theorem result_of_told (h : Fixed assigned c (callsFor told)) (hbrought : Brings c (readings told))
    {v : World σ} (hv : Offers v assigned) {x : Action σ Fault α} {i : Inquiry Fault α}
    {wrap : α → Outcome} {question : Question} {outcome : Outcome} (hx : x.AmountsTo i)
    (hposes : (i.map wrap).Poses question "/org/sessiond/session1" "org.sessiond.session1.Session")
    (hget : question.approach = .get name) (hr : readSession question context outcome ∈ told) :
    (x v).1.map wrap = .ok outcome := by
  have hanswered := hv.answered name
  rw [askSession, ← hget] at hanswered
  rw [hposes.made hx hv.opened rfl, hanswered]
  exact h.made_of_told hbrought hr hget _

end Fixed

/-! ## Reports up to some sink -/

/-- Whatever has been told of several things, each in readings with a line behind them, tells the
    first of them to their ends and then makes some readings. -/
theorem flatMap_prefix (ask : α → List Reading) (line : α → String) {as : List α}
    {told : List Entry}
    (h : told <+: as.flatMap fun a => (ask a).map .read ++ [.line (line a)]) :
    ∃ (shown others : List α) (rs : List Reading), as = shown ++ others ∧
      told = shown.flatMap (fun a => (ask a).map .read ++ [.line (line a)]) ++ rs.map .read := by
  induction as generalizing told with
  | nil => exact ⟨[], [], [], rfl, List.prefix_nil.mp h⟩
  | cons a as ih =>
      rw [List.flatMap_cons] at h
      rcases List.prefix_or_prefix_of_prefix h (List.prefix_append _ _) with hwithin | hbehind
      -- within what is told of the first thing the end lies behind the line or among the readings
      · rcases List.prefix_concat_iff.mp hwithin with rfl | hreadings
        · exact ⟨[a], as, [], rfl, by simp⟩
        · obtain ⟨rs, -, rfl⟩ := List.prefix_map_iff.mp hreadings
          exact ⟨[], a :: as, rs, rfl, rfl⟩
      · obtain ⟨told', rfl⟩ := hbehind
        obtain ⟨shown, others, rs, rfl, rfl⟩ := ih ((List.prefix_append_right_inj _).mp h)
        exact ⟨a :: shown, others, rs, rfl, by rw [List.flatMap_cons, List.append_assoc (_ ++ _)]⟩

/-- The entry asks no audio sink for a property. -/
def Entry.OffSinks (e : Entry) : Prop :=
  ∀ path name, e.event ≠ .called ((Approach.get name).call path "org.sessiond.session1.AudioSink")

theorem offSinks_get {r : Reading} {name : String} (hget : r.question.approach = .get name)
    (hinterface : r.interface ≠ "org.sessiond.session1.AudioSink") : (Entry.read r).OffSinks := by
  intro path name' hcalled
  have hcall : r.call = (Approach.get name').call path "org.sessiond.session1.AudioSink" :=
    Event.called.inj hcalled
  rw [Reading.call, hget] at hcall
  have hargs : [Bus.Wire.string r.interface, .string name] =
      [.string "org.sessiond.session1.AudioSink", .string name'] := congrArg Bus.Call.args hcall
  injection hargs with hfirst
  injection hfirst with hsame
  exact hinterface hsame

namespace Report

/-- The reading of the sinks. -/
def asksSinks (r : Report) : Entry :=
  readSession (.optional "AudioSinks" .texts (.handles []) (Outcome.handlesTo .audioSink))
    "Could not list audio sinks" (.handles (r.sinks.map (·.view)))

/-- The reading of the default sink. -/
def asksDefault (r : Report) : Entry :=
  readSession (.optional "DefaultAudioSink" .text (.optionalText none) Outcome.present)
    "Could not read default audio sink" (.optionalText r.default)

/-- What comes before the sinks themselves are told. -/
structure Heading (r : Report) (heading : List Entry) : Prop where
  entries : r.entries = heading ++ r.sinks.flatMap (·.entries r.default)
  off_sinks : ∀ e ∈ heading, e.OffSinks
  asks_sinks : r.asksSinks ∈ heading
  asks_default : r.sinks ≠ [] → r.asksDefault ∈ heading

theorem offSinks_session {question : Question} {name context : String} {outcome : Outcome}
    (hget : question.approach = .get name) : (readSession question context outcome).OffSinks := by
  have hinterface : "org.sessiond.session1.Session" ≠ "org.sessiond.session1.AudioSink" := by decide
  exact offSinks_get hget hinterface

theorem offSinks_line (text : String) : (Entry.line text).OffSinks := nofun

theorem offSinks_questions (r : Report) : ∀ e ∈ r.questions, e.OffSinks := by
  unfold questions
  iterate 6 refine List.forall_mem_cons.mpr ⟨offSinks_session rfl, ?_⟩
  refine List.forall_mem_singleton.mpr fun path name hcalled => ?_
  have hmember : "ListInhibitors" = "Get" := congrArg Bus.Call.member (Event.called.inj hcalled)
  exact absurd hmember (by decide)

theorem offSinks_lines (r : Report) : ∀ e ∈ r.lines, e.OffSinks := by
  unfold lines
  iterate 3 refine List.forall_mem_cons.mpr ⟨offSinks_line _, ?_⟩
  exact List.forall_mem_singleton.mpr (offSinks_line _)

theorem offSinks_backlightEntries (r : Report) : ∀ e ∈ r.backlightEntries, e.OffSinks := by
  have hinterface : "org.sessiond.session1.Backlight" ≠ "org.sessiond.session1.AudioSink" := by
    decide
  have hbacklight : ∀ b : BacklightReport, ∀ e ∈ b.entries, e.OffSinks := by
    intro b
    unfold BacklightReport.entries
    refine List.forall_mem_cons.mpr ⟨offSinks_get rfl hinterface, ?_⟩
    refine List.forall_mem_cons.mpr ⟨offSinks_get rfl hinterface, ?_⟩
    exact List.forall_mem_singleton.mpr (offSinks_line _)
  unfold backlightEntries
  refine List.forall_mem_cons.mpr ⟨offSinks_session rfl, ?_⟩
  refine List.forall_mem_cons.mpr ⟨offSinks_line _, ?_⟩
  intro e he
  obtain ⟨b, -, he⟩ := List.mem_flatMap.mp he
  exact hbacklight b e he

theorem exists_heading (r : Report) : ∃ heading, r.Heading heading := by
  have hopening : ∀ e ∈ r.questions ++ r.lines ++ r.backlightEntries, e.OffSinks := by
    simp only [List.forall_mem_append]
    exact ⟨⟨r.offSinks_questions, r.offSinks_lines⟩, r.offSinks_backlightEntries⟩
  cases hsinks : r.sinks with
  | nil =>
      have hentries : r.sinkEntries = [r.asksSinks] := by
        unfold sinkEntries asksSinks
        rw [hsinks]
      refine ⟨r.questions ++ r.lines ++ r.backlightEntries ++ [r.asksSinks], ?_, ?_, ?_, ?_⟩
      · rw [entries, hentries, hsinks, List.flatMap_nil, List.append_nil]
      · exact List.forall_mem_append.mpr
          ⟨hopening, List.forall_mem_singleton.mpr (offSinks_session rfl)⟩
      · exact List.mem_append_right _ List.mem_cons_self
      · exact fun hne => absurd hsinks hne
  | cons a as =>
      let asked : List Entry := [r.asksSinks, r.asksDefault,
        .line ("  Audio sinks: " ++ toString r.sinks.length)]
      have hentries : r.sinkEntries = asked ++ r.sinks.flatMap (·.entries r.default) := by
        unfold asked sinkEntries asksSinks
        rw [hsinks]
        rfl
      refine ⟨r.questions ++ r.lines ++ r.backlightEntries ++ asked, ?_, ?_, ?_, fun _ => ?_⟩
      · rw [entries, hentries, List.append_assoc _ asked]
      · refine List.forall_mem_append.mpr ⟨hopening, ?_⟩
        refine List.forall_mem_cons.mpr ⟨offSinks_session rfl, ?_⟩
        refine List.forall_mem_cons.mpr ⟨offSinks_session rfl, ?_⟩
        exact List.forall_mem_singleton.mpr (offSinks_line _)
      · exact List.mem_append_right _ List.mem_cons_self
      · exact List.mem_append_right _ (.tail _ List.mem_cons_self)

/-- The beginning of a report, up to some of its sinks. -/
structure Cut (r : Report) (told before : List Entry) (shown : List SinkReport)
    (rest : List Reading) : Prop where
  parts : told = before ++ shown.flatMap (·.entries r.default) ++ rest.map .read
  off_sinks : ∀ e ∈ before, e.OffSinks
  first : shown <+: r.sinks
  asked : shown ≠ [] → r.asksSinks ∈ told ∧ r.asksDefault ∈ told

/-- A whole report is told up to its last sink. -/
theorem Heading.cut {r : Report} {heading : List Entry} (h : r.Heading heading) :
    r.Cut r.entries heading r.sinks [] where
  parts := h.entries.trans (List.append_nil _).symm
  off_sinks := h.off_sinks
  first := List.prefix_rfl
  asked hne := by
    rw [h.entries]
    exact ⟨List.mem_append_left _ h.asks_sinks, List.mem_append_left _ (h.asks_default hne)⟩

theorem exists_cut (r : Report) {told : List Entry} (h : told <+: r.entries) :
    ∃ before shown rest, r.Cut told before shown rest := by
  obtain ⟨heading, hheading⟩ := r.exists_heading
  rw [hheading.entries] at h
  rcases List.prefix_or_prefix_of_prefix h (List.prefix_append _ _) with hwithin | hbehind
  · refine ⟨told, [], [], by simp, ?_, List.nil_prefix, fun hne => absurd rfl hne⟩
    exact fun e he => hheading.off_sinks e (hwithin.subset he)
  · obtain ⟨behind, rfl⟩ := hbehind
    obtain ⟨shown, others, rest, hsinks, rfl⟩ := flatMap_prefix
      (fun a : SinkReport => readings (a.entries r.default)) (SinkReport.line r.default)
      ((List.prefix_append_right_inj _).mp h)
    refine ⟨heading, shown, rest, (List.append_assoc _ _ _).symm, hheading.off_sinks, ?_, ?_⟩
    · exact ⟨others, hsinks.symm⟩
    · intro hshown
      have hne : r.sinks ≠ [] := by
        rw [hsinks]
        exact List.append_ne_nil_of_left_ne_nil hshown others
      exact ⟨List.mem_append_left _ hheading.asks_sinks,
        List.mem_append_left _ (hheading.asks_default hne)⟩

end Report

/-! ## What is asked again -/

section

variable {c : Bus.Connection σ} {v : World σ} {assigned : Assignment} {told : List Entry}
  {r : Report}

/-- The service still tells handles to the same sinks. -/
theorem audioSinks_of_told (hfixed : Fixed assigned c (callsFor told))
    (hbrought : Brings c (readings told)) (hv : Offers v assigned) (hr : r.asksSinks ∈ told)
    (s : Service) :
    ∃ sinks, (s.audioSinks v).1 = .ok sinks ∧
      r.sinks.map (·.path) = sinks.map (·.handle.path.text) := by
  have hposes := ServiceOperation.inquiry_poses s
    (show ServiceOperation.audioSinks.question? = some _ from rfl)
  rw [Client.interfaceName_session] at hposes
  have hresult := hfixed.result_of_told hbrought hv s.audioSinks_amountsTo hposes rfl hr
  generalize (s.audioSinks v).1 = result at hresult ⊢
  cases result with
  | error fault => cases hresult
  | ok sinks =>
      refine ⟨sinks, rfl, ?_⟩
      have hviews : sinks.map (·.view) = r.sinks.map (·.view) :=
        Outcome.handles.inj (Except.ok.inj hresult)
      have hpaths := congrArg (List.map HandleView.path) hviews
      rw [List.map_map, List.map_map] at hpaths
      exact hpaths.symm

/-- The session still tells the same default sink. -/
theorem defaultAudioSink_of_told (hfixed : Fixed assigned c (callsFor told))
    (hbrought : Brings c (readings told)) (hv : Offers v assigned) (hr : r.asksDefault ∈ told)
    (timeout : Nat) : ((Session.ofTimeout timeout).defaultAudioSink v).1 = .ok r.default := by
  have hposes := SessionOperation.inquiry_poses (.ofTimeout timeout)
    (show SessionOperation.defaultAudioSink.question? = some _ from rfl)
  rw [show (Session.ofTimeout timeout).handle.interface = _ from Client.interfaceName_session]
    at hposes
  rw [← Client.map_eq_ok_iff (fun _ _ => Outcome.optionalText.inj)]
  exact hfixed.result_of_told hbrought hv (Session.defaultAudioSink_amountsTo _) hposes rfl hr

/-- A default sink is told if and only if its property carries a text, which is its path. -/
theorem default_eq_some_iff (hfixed : Fixed assigned c (callsFor told))
    (hbrought : Brings c (readings told)) (hr : r.asksDefault ∈ told) (path : String) :
    r.default = some path ↔ (assigned "/org/sessiond/session1" "org.sessiond.session1.Session"
      "DefaultAudioSink").Carries .text (.text path) := by
  have hmade := hfixed.made_of_told hbrought hr rfl []
  have hgets := Question.gets_optional "DefaultAudioSink" .text (.optionalText none) Outcome.present
  constructor
  · intro hdefault
    -- had the property been lacking, no default sink would have been told
    rcases hgets.made_eq_ok_iff.mp hmade with ⟨-, hlack⟩ | ⟨carried, ⟨v, rest, hv⟩, hpresent⟩
    · rw [hdefault] at hlack
      cases hlack
    · rw [hdefault] at hpresent
      cases hv.2 with
      | text htext =>
          cases hpresent
          exact ⟨v, rest, hv.1, .text htext⟩
  · intro hcarries
    have hpresent := (hgets.made_of_carries hcarries).symm.trans hmade
    exact (Outcome.optionalText.inj (Except.ok.inj hpresent)).symm

/-- The handle that is made of a text is the one at that path. -/
theorem told_of_sinkOfDefault {timeout : Nat} {told : Option String} {sink : AudioSink}
    (h : Service.sinkOfDefault timeout told = .ok (some sink)) :
    told = some sink.handle.path.text := by
  cases told with
  | none => cases h
  | some text =>
      rw [Service.sinkOfDefault] at h
      split at h
      · cases h
      · obtain ⟨a, hmade, ha⟩ := Client.ok_of_bind_ok h
        cases ha
        rw [Handle.path_of_ofText (AudioSink.handle_of_ofPath hmade)]

/-- A sink at a path is taken for the default one if and only if it is at the path that the session
    tells. -/
theorem default_eq_iff {s : Service} (hdefault :
    ((Session.ofTimeout s.timeout).defaultAudioSink v).1 = .ok r.default) {path : String}
    (hpath : IsPath path) (hroot : path ≠ "/") :
    r.default = some path ↔
      ∃ sink, (s.defaultAudioSink v).1 = .ok (some sink) ∧ sink.handle.path.text = path := by
  have htaken : (s.defaultAudioSink v).1 = Service.sinkOfDefault s.timeout r.default := by
    rw [Client.result_bind s.defaultAudioSink_amountsTo (Session.defaultAudioSink_amountsTo _),
      hdefault]
    rfl
  have htakes := Service.sinkOfDefault_takes s.timeout (.ok r.default)
  rw [htaken]
  constructor
  · intro hdefault
    obtain ⟨sink, hsink, hat, -⟩ := htakes.found path hpath hroot (congrArg Except.ok hdefault)
    exact ⟨sink, hsink, hat⟩
  · rintro ⟨sink, hsink, rfl⟩
    exact told_of_sinkOfDefault hsink

end

/-! ## The status -/

/-- What is done where these sinks are told between other things. -/
def doneAround (before : Journal) (shown : List SinkReport) (default : Option String)
    (after : List Bus.Call) : Journal :=
  before ++ (shown.flatMap (·.entries default)).map Entry.event ++ after.map Event.called

/-- The command goes through a report as far as it can, and there tells these sinks, each in its
    readings with a line behind them. Before that it asks no sink for anything, and behind it prints
    nothing. -/
structure Shows (w : World σ) (x : Except Trouble Exit × World σ) (before : Journal)
    (shown : List SinkReport) (default : Option String) (after : List Bus.Call) : Prop where
  deeds : x.2.journal.deeds = w.journal.deeds ++ doneAround before shown default after
  course : Reporting w.connection (doneAround before shown default after) x.1
  no_sink_before (path name : String) :
    .called ((Approach.get name).call path "org.sessiond.session1.AudioSink") ∉ before

/-- Of the sinks that are shown, those are marked that are the default one, by these properties. -/
structure Marks (σ : Type) (s : Service) (assigned : Assignment) (shown : List SinkReport)
    (default : Option String) : Prop where
  /-- They are the first ones of those to which the service has handles. -/
  listed : shown ≠ [] → ∀ v : World σ, Offers v assigned →
    ∃ sinks, (s.audioSinks v).1 = .ok sinks ∧
      shown.map (·.path) <+: sinks.map (·.handle.path.text)
  told : ∀ a ∈ shown,
    (assigned a.path "org.sessiond.session1.AudioSink" "Id").Carries .count (.count a.id) ∧
    (assigned a.path "org.sessiond.session1.AudioSink" "Name").Carries .text (.text a.name) ∧
    (assigned a.path "org.sessiond.session1.AudioSink" "Volume").Carries
      .level (.level a.volume) ∧
    (assigned a.path "org.sessiond.session1.AudioSink" "Mute").Carries .flag (.flag a.mute)
  default_told : shown ≠ [] → ∀ path, default = some path ↔
    (assigned "/org/sessiond/session1" "org.sessiond.session1.Session" "DefaultAudioSink").Carries
      .text (.text path)
  /-- The line of a sink carries the mark if and only if the service takes it for the default. -/
  default_taken : ∀ a ∈ shown, a.path ≠ "/" → ∀ v : World σ, Offers v assigned →
    (default = some a.path ↔
      ∃ sink, (s.defaultAudioSink v).1 = .ok (some sink) ∧ sink.handle.path.text = a.path)
  /-- That is the sink that is used where none is named. -/
  default_used : ∀ a ∈ shown, a.path ≠ "/" → ∀ v : World σ, Offers v assigned →
    (default = some a.path ↔
      ∃ sink, (findAudioSink s none v).1 = .ok sink ∧ sink.handle.path.text = a.path)
  /-- No line carries it if the default sink is unset, unsupported or not among those that are
      shown. -/
  unmarked : ∀ a ∈ shown, a.path ≠ "/" →
    ((assigned "/org/sessiond/session1" "org.sessiond.session1.Session"
        "DefaultAudioSink").Denies ∨
      ∃ path, (assigned "/org/sessiond/session1" "org.sessiond.session1.Session"
        "DefaultAudioSink").Carries .text (.text path) ∧
          (path = "/" ∨ path ∉ shown.map (·.path))) →
    default ≠ some a.path

theorem shows_of_cut {w : World σ} {x : Except Trouble Exit × World σ} {r : Report}
    {told before : List Entry} {shown : List SinkReport} {rest : List Reading}
    (hcut : r.Cut told before shown rest) (calls : List Bus.Call)
    (hdeeds : x.2.journal.deeds =
      w.journal.deeds ++ (told.map Entry.event ++ calls.map Event.called))
    (hreporting :
      Reporting w.connection (told.map Entry.event ++ calls.map Event.called) x.1) :
    Shows w x (before.map Entry.event) shown r.default (rest.map Reading.call ++ calls) := by
  have hrest : (rest.map Entry.read).map Entry.event = (rest.map Reading.call).map .called := by
    rw [List.map_map, List.map_map]
    rfl
  have hdone : told.map Entry.event ++ calls.map Event.called =
      doneAround (before.map Entry.event) shown r.default (rest.map Reading.call ++ calls) := by
    rw [hcut.parts, List.map_append, List.map_append, hrest, doneAround, List.map_append]
    simp only [List.append_assoc]
  rw [hdone] at hdeeds hreporting
  refine ⟨hdeeds, hreporting, fun path name hmem => ?_⟩
  obtain ⟨e, he, hevent⟩ := List.mem_map.mp hmem
  exact hcut.off_sinks e he path name hevent

theorem marks_of_cut (s : Service) {c : Bus.Connection σ} {assigned : Assignment} {r : Report}
    {told before : List Entry} {shown : List SinkReport} {rest : List Reading}
    (hcut : r.Cut told before shown rest) (hfixed : Fixed assigned c (callsFor told))
    (hbrought : Brings c (readings told)) : Marks σ s assigned shown r.default := by
  have hlisted : shown ≠ [] → ∀ v : World σ, Offers v assigned → ∃ sinks,
      (s.audioSinks v).1 = .ok sinks ∧
        shown.map (·.path) <+: sinks.map (·.handle.path.text) := by
    intro hshown v hv
    obtain ⟨sinks, hsinks, hpaths⟩ := audioSinks_of_told hfixed hbrought hv (hcut.asked hshown).1 s
    exact ⟨sinks, hsinks, hpaths ▸ hcut.first.map _⟩
  have htaken : ∀ a ∈ shown, a.path ≠ "/" → ∀ v : World σ, Offers v assigned →
      (r.default = some a.path ↔
        ∃ sink, (s.defaultAudioSink v).1 = .ok (some sink) ∧ sink.handle.path.text = a.path) := by
    intro a ha hroot v hv
    have hshown : shown ≠ [] := List.ne_nil_of_mem ha
    -- the path of a sink that is listed was read from a list of handles
    obtain ⟨sinks, -, hpaths⟩ := hlisted hshown v hv
    obtain ⟨sink, -, hsink⟩ := List.mem_map.mp (hpaths.subset (List.mem_map_of_mem ha))
    have hpath : IsPath a.path := hsink ▸ (isPath_iff _).mpr sink.handle.path.valid
    exact default_eq_iff
      (defaultAudioSink_of_told hfixed hbrought hv (hcut.asked hshown).2 s.timeout) hpath hroot
  constructor
  case listed => exact hlisted
  case told =>
    intro a ha
    have hentries : a.entries r.default ⊆ told := by
      intro e he
      rw [hcut.parts]
      exact List.mem_append_left _ (List.mem_append_right _ (List.mem_flatMap.mpr ⟨a, ha, he⟩))
    simp only [SinkReport.entries, List.cons_subset] at hentries
    obtain ⟨hid, hname, hvolume, hmute, -⟩ := hentries
    exact ⟨hfixed.carries_of_told hbrought hid, hfixed.carries_of_told hbrought hname,
      hfixed.carries_of_told hbrought hvolume, hfixed.carries_of_told hbrought hmute⟩
  case default_told =>
    intro hshown
    exact default_eq_some_iff hfixed hbrought (hcut.asked hshown).2
  case default_taken => exact htaken
  case default_used =>
    intro a ha hroot v hv
    simp only [htaken a ha hroot v hv, findAudioSink_eq_ok_iff]
  case unmarked =>
    intro a ha hroot hunset hmarked
    have hdefault := default_eq_some_iff hfixed hbrought (hcut.asked (List.ne_nil_of_mem ha)).2
    rcases hunset with ⟨failure, hrefused, -⟩ | ⟨path, hcarries, hother⟩
    · obtain ⟨v, rest, hreturned, -⟩ := (hdefault a.path).mp hmarked
      cases hrefused.symm.trans hreturned
    · have hsame : path = a.path :=
        Option.some.inj (((hdefault path).mpr hcarries).symm.trans hmarked)
      rcases hother with hslash | hmissing
      · exact hroot (hsame.symm.trans hslash)
      · exact hmissing (hsame ▸ List.mem_map_of_mem ha)

theorem calls_of_told {j j' : Journal} {told : List Entry} (calls : List Bus.Call)
    (h : j'.deeds = j.deeds ++ (told.map Entry.event ++ calls.map Event.called)) :
    j'.calls = j.calls ++ (callsFor told ++ calls) := by
  have htold : Journal.calls (told.map Entry.event) = callsFor told := by
    rw [Journal.calls, List.filterMap_map, callsFor, readings, List.map_filterMap]
    congr 1
    funext e
    cases e <;> rfl
  have hcalls : Journal.calls (calls.map Event.called) = calls := by
    rw [Journal.calls, List.filterMap_map]
    exact List.filterMap_some
  rw [← Journal.calls_deeds, h, Journal.calls_append, Journal.calls_append, htold, hcalls,
    Journal.calls_deeds]

/-- The status and the service agree on the default sink: of the sinks that the status tells, it
    marks those to which the service has a handle as the default one, as long as no question finds a
    property changed. -/
theorem status_marks (env : Environment) (settings : Settings) (s : Service) {w : World σ}
    (hopen : w.connection.phase ≠ .closed) {assigned : Assignment}
    (hfixed : ∀ calls, (perform env settings s .status w).2.journal.calls =
      w.journal.calls ++ calls → Fixed assigned w.connection calls) :
    ∃ before shown default after,
      Shows w (perform env settings s .status w) before shown default after ∧
      Marks σ s assigned shown default ∧
      ((perform env settings s .status w).1 = .ok 0 → ∀ v : World σ, Offers v assigned →
        ∃ sinks, (s.audioSinks v).1 = .ok sinks ∧
          shown.map (·.path) = sinks.map (·.handle.path.text)) := by
  obtain ⟨done, hdeeds, hreporting⟩ := status_reporting env settings s hopen
  generalize perform env settings s .status w = x at hfixed hdeeds hreporting ⊢
  obtain ⟨result, w'⟩ := x
  cases hreporting with
  | finished r hbrought =>
      -- no call follows the last line, so all sinks of the report are shown
      have hdone : r.entries.map Entry.event =
          r.entries.map Entry.event ++ [].map Event.called := (List.append_nil _).symm
      have hreporting := Reporting.finished r hbrought
      rw [hdone] at hdeeds hreporting
      have hfixed := (hfixed _ (calls_of_told [] hdeeds)).of_append
      obtain ⟨heading, hheading⟩ := r.exists_heading
      refine ⟨_, r.sinks, r.default, _, shows_of_cut hheading.cut [] hdeeds hreporting,
        marks_of_cut s hheading.cut hfixed hbrought, fun _ v hv => ?_⟩
      refine audioSinks_of_told hfixed hbrought hv ?_ s
      rw [hheading.entries]
      exact List.mem_append_left _ hheading.asks_sinks
  | broken r told rest failing fault horder hbrought hfailed =>
      -- the report is cut off somewhere, and the sinks are those that were told by then
      have hfixed := (hfixed _ (calls_of_told [failing.call] hdeeds)).of_append
      obtain ⟨before, shown, behind, hcut⟩ := r.exists_cut ⟨_, horder.symm⟩
      exact ⟨_, shown, r.default, _, shows_of_cut hcut [failing.call] hdeeds
        (.broken r told rest failing fault horder hbrought hfailed),
        marks_of_cut s hcut hfixed hbrought, nofun⟩

/-- The default sink is listed twice, with another one between, and is marked both times. -/
theorem status_marks_repeated :
    let paths : Bus.Wire := .array .objectPath
      [.objectPath "/loud", .objectPath "/quiet", .objectPath "/loud"]
    let value (name : String) : Bus.Wire :=
      if name = "Version" ∨ name = "Name" then .string "1"
      else if name = "AudioSinks" then paths
      else if name = "DefaultAudioSink" then .objectPath "/loud"
      else if name = "Backlights" then .array .objectPath []
      else if name = "Volume" then .double ⟨0⟩
      else if name = "Id" ∨ name = "IdleSinceHint" ∨ name = "IdleSinceHintMonotonic" then .uint64 2
      else .boolean false
    let assigned (_ _ name : String) : Bus.Answer := .returned [.variant (value name)]
    let peer : Bus.Peer Unit :=
      { reply := fun _ call => match call.args with
          | [.string interface, .string name] =>
            ({ answer := assigned call.path interface name }, ())
          | _ => ({ answer := .returned [.dict .string .variant []] }, ()) }
    let w : World Unit := { connection := .fresh peer () }
    w.connection.phase ≠ .closed ∧ (∀ calls, Fixed assigned w.connection calls) ∧
      ∃ before shown after,
        Shows w (perform .bare {} {} .status w) before shown (some "/loud") after ∧
        Marks Unit {} assigned shown (some "/loud") ∧
        shown.map (·.path) = ["/loud", "/quiet", "/loud"] := by
  intro paths value assigned peer w
  have hopen : w.connection.phase ≠ .closed := by decide
  have hpeer : w.connection.peer = peer := rfl
  have hfixed : ∀ calls, Fixed assigned w.connection calls :=
    fixed_of_stateless (fun _ _ _ _ => rfl) hpeer
  refine ⟨hopen, hfixed, ?_⟩
  obtain ⟨before, shown, default, after, hshows, hmarks, hall⟩ :=
    status_marks .bare {} {} hopen fun calls _ => hfixed calls
  have hended : (perform .bare {} {} .status w).1.toOption = some 0 := by decide +kernel
  have hdone : (perform .bare {} {} .status w).1 = .ok 0 := by
    cases hresult : (perform .bare {} {} .status w).1 with
    | error trouble =>
        rw [hresult] at hended
        cases hended
    | ok code =>
        rw [hresult] at hended
        cases hended
        rfl
  obtain ⟨sinks, hsinks, hpaths⟩ := hall hdone w ⟨hopen, fun _ => rfl⟩
  have hlisted : (({} : Service).audioSinks w).1.toOption.map (List.map (·.handle.path.text)) =
      some ["/loud", "/quiet", "/loud"] := by decide +kernel
  rw [hsinks] at hlisted
  have hshown : shown.map (·.path) = ["/loud", "/quiet", "/loud"] :=
    hpaths.trans (Option.some.inj hlisted)
  have hne : shown ≠ [] := by
    rintro rfl
    cases hshown
  have hdefault : default = some "/loud" :=
    (hmarks.default_told hne "/loud").mpr ⟨_, [], rfl, .text (.inr rfl)⟩
  subst hdefault
  exact ⟨before, shown, after, hshows, hmarks, hshown⟩

end SessionControl.Command
