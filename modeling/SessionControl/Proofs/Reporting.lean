import SessionControl.Proofs.Naming
import SessionControl.Proofs.Narration

set_option autoImplicit false

/-! # The report of the status

What showing the status tells when nothing fails is a *report*: all that is read of the session and
its devices, with the lines in between. A report fixes every question and every line by the outcomes
of the questions before. Whatever the service replies, the status is told as a report, to its end or
up to the first question that fails (`status_reporting`), and what has been printed by then is the
beginning of every report that agrees with the outcomes so far. -/

namespace SessionControl.Command

open Bus.ObjectPath (lastElement)
open Client (Action AudioSink Backlight Handle HandleView InhibitorTable Journal Outcome Promised
  Question Service Session World)

variable {σ α : Type}

/-! ## Reports -/

/-- What is told of a backlight. -/
structure BacklightReport where
  path : String
  brightness : UInt64
  maximum : UInt64

namespace BacklightReport

def name (b : BacklightReport) : String := lastElement b.path

/-- What is seen of the backlight in a list. -/
def view (b : BacklightReport) : HandleView :=
  ⟨b.path, "org.sessiond.session1.Backlight", some b.name⟩

def read (b : BacklightReport) (property : String) (value : UInt64) : Entry :=
  .read
    { path := b.path
      interface := "org.sessiond.session1.Backlight"
      question := .property property .count
      context := "Could not read brightness of " ++ b.name
      outcome := .count value }

def line (b : BacklightReport) : String :=
  "    " ++ b.name ++ ": " ++ toString b.brightness.toNat ++ "/" ++ toString b.maximum.toNat

def entries (b : BacklightReport) : List Entry :=
  [b.read "Brightness" b.brightness, b.read "MaxBrightness" b.maximum, .line b.line]

end BacklightReport

/-- What is told of an audio sink. -/
structure SinkReport where
  path : String
  id : UInt64
  name : String
  volume : Binary64
  mute : Bool

namespace SinkReport

/-- What is seen of the audio sink in a list. -/
def view (a : SinkReport) : HandleView := ⟨a.path, "org.sessiond.session1.AudioSink", none⟩

def read (a : SinkReport) (property : String) (promised : Promised) (outcome : Outcome) : Entry :=
  .read
    { path := a.path
      interface := "org.sessiond.session1.AudioSink"
      question := .property property promised
      context := "Could not read audio sink " ++ a.path
      outcome }

def line (default : Option String) (a : SinkReport) : String :=
  "    " ++ toString a.id.toNat ++ " " ++ a.name ++
    (if default = some a.path then " (default)" else "") ++
    ": volume " ++ a.volume.fixedText 2 ++ ", muted " ++ yesNo a.mute

def entries (default : Option String) (a : SinkReport) : List Entry :=
  [a.read "Id" .count (.count a.id), a.read "Name" .text (.text a.name),
   a.read "Volume" .level (.level a.volume), a.read "Mute" .flag (.flag a.mute),
   .line (a.line default)]

end SinkReport

/-- What is told of the session and its devices. -/
structure Report where
  version : String
  locked : Bool
  idle : Bool
  idleSince : UInt64
  idleSinceMonotonic : UInt64
  inhibited : Bool
  inhibitors : InhibitorTable
  backlights : List BacklightReport
  sinks : List SinkReport
  /-- The path of the default audio sink. It is not told where there are no audio sinks. -/
  default : Option String

/-- A question to the session. -/
def readSession (question : Question) (context : String) (outcome : Outcome) : Entry :=
  .read
    { path := "/org/sessiond/session1"
      interface := "org.sessiond.session1.Session"
      question, context, outcome }

namespace Report

/-- The seven questions before anything is printed. -/
def questions (r : Report) : List Entry :=
  [readSession (.property "Version" .text) "Could not read sessiond version" (.text r.version),
   readSession (.property "LockedHint" .flag) "Could not read lock state" (.flag r.locked),
   readSession (.property "IdleHint" .flag) "Could not read idle state" (.flag r.idle),
   readSession (.property "IdleSinceHint" .count) "Could not read idle timestamp"
     (.count r.idleSince),
   readSession (.property "IdleSinceHintMonotonic" .count)
     "Could not read monotonic idle timestamp" (.count r.idleSinceMonotonic),
   readSession (.property "InhibitedHint" .flag) "Could not read inhibited state"
     (.flag r.inhibited),
   readSession (.method "ListInhibitors" [] .inhibitors) "Could not list inhibitors"
     (.inhibitors r.inhibitors)]

def lines (r : Report) : List Entry :=
  [.line ("sessiond " ++ r.version),
   .line ("  Locked: " ++ yesNo r.locked),
   .line ("  Idle: " ++ yesNo r.idle ++ " (since " ++ toString r.idleSince.toNat ++
     ", monotonic " ++ toString r.idleSinceMonotonic.toNat ++ ")"),
   .line ("  Inhibited: " ++ yesNo r.inhibited ++ " (" ++ toString r.inhibitors.size ++
     " inhibitors)")]

def backlightEntries (r : Report) : List Entry :=
  readSession
      { Question.property "Backlights" .texts with finish := Outcome.handlesTo .backlight }
      "Could not list backlights" (.handles (r.backlights.map (·.view))) ::
    .line ("  Backlights: " ++ toString r.backlights.length) ::
    r.backlights.flatMap (·.entries)

/-- The default audio sink is asked for only if there are any. -/
def sinkEntries (r : Report) : List Entry :=
  readSession
      (.optional "AudioSinks" .texts (.handles []) (Outcome.handlesTo .audioSink))
      "Could not list audio sinks" (.handles (r.sinks.map (·.view))) ::
    match r.sinks with
    | [] => []
    | sinks =>
      readSession
          (.optional "DefaultAudioSink" .text (.optionalText none) Outcome.present)
          "Could not read default audio sink" (.optionalText r.default) ::
        .line ("  Audio sinks: " ++ toString sinks.length) ::
        sinks.flatMap (·.entries r.default)

/-- All that is told, in order. -/
def entries (r : Report) : List Entry :=
  r.questions ++ r.lines ++ r.backlightEntries ++ r.sinkEntries

end Report

/-- What can become of telling the status over a connection: everything that is done, and the
    result. -/
inductive Reporting (c : Bus.Connection σ) : Journal → Except Trouble Exit → Prop
  | finished (r : Report) (brought : Brings c (readings r.entries)) :
      Reporting c (r.entries.map Entry.event) (.ok 0)
  /-- A question fails. It is the last call, and nothing is printed behind it. -/
  | broken (r : Report) (told rest : List Entry) (failing : Reading) (fault : Client.Fault)
      (order : r.entries = told ++ .read failing :: rest)
      (brought : Brings c (readings told))
      (failed : failing.answer (afterCalls c (callsFor told)) = .error fault) :
      Reporting c (told.map Entry.event ++ [.called failing.call])
        (.error { contexts := [failing.context], cause := .fault fault })

/-! ## Telling devices -/

theorem view_of_backlight {timeout : Nat} {b : Backlight}
    (h : Backlight.ofPath timeout b.handle.path.text = .ok b) :
    b.view = ⟨b.handle.path.text, "org.sessiond.session1.Backlight",
      some (lastElement b.handle.path.text)⟩ := by
  have hview := Client.Device.view_backlight timeout b.handle.path.text
  rw [h, Client.Device.view, if_pos b.handle.path.valid] at hview
  exact (Except.ok.inj hview).symm

theorem view_of_audioSink {timeout : Nat} {a : AudioSink}
    (h : AudioSink.ofPath timeout a.handle.path.text = .ok a) :
    a.view = ⟨a.handle.path.text, "org.sessiond.session1.AudioSink", none⟩ := by
  have hview := Client.Device.view_audioSink timeout a.handle.path.text
  rw [h, Client.Device.view, if_pos a.handle.path.valid] at hview
  exact (Except.ok.inj hview).symm

theorem showBacklight_narrates {timeout : Nat} {b : Backlight}
    (h : Backlight.ofPath timeout b.handle.path.text = .ok b) :
    Narrates (showBacklight b : Action σ Trouble Unit) fun _ es =>
      ∃ r : BacklightReport, r.path = b.handle.path.text ∧ es = r.entries := by
  have hview := view_of_backlight h
  injection hview with _ hinterface hname
  injection hname with hname
  refine .property_bind Handle.promises_count fun brightness => ?_
  refine .property_bind Handle.promises_count fun maximum => ?_
  refine (Narrates.printLine _).imp ?_
  rintro _ _ rfl
  refine ⟨⟨b.handle.path.text, brightness, maximum⟩, rfl, ?_⟩
  rw [show b.handle.interface = _ from hinterface, show b.name = _ from hname, backlightLine,
    Decimal.natText_eq_toString, Decimal.natText_eq_toString]
  rfl

theorem sinkLine_eq (a : SinkReport) (default : Option String) :
    sinkLine a.id a.name (default = some a.path) a.volume a.mute = a.line default := by
  have hvolume : ": " ++ "volume " = ": volume " := by decide
  rw [sinkLine, volumeText, SinkReport.line, ← hvolume, Decimal.natText_eq_toString]
  simp only [String.append_assoc, decide_eq_true_eq]

theorem showSink_narrates {timeout : Nat} {a : AudioSink} (default : Option String)
    (h : AudioSink.ofPath timeout a.handle.path.text = .ok a) :
    Narrates (showSink default a : Action σ Trouble Unit) fun _ es =>
      ∃ r : SinkReport, r.path = a.handle.path.text ∧ es = r.entries default := by
  have hview := view_of_audioSink h
  injection hview with _ hinterface
  refine .property_bind Handle.promises_count fun id => ?_
  refine .property_bind Handle.promises_text fun name => ?_
  refine .property_bind Handle.promises_level fun volume => ?_
  refine .property_bind Handle.promises_flag fun mute => ?_
  refine (Narrates.printLine _).imp ?_
  rintro _ _ rfl
  refine ⟨⟨a.handle.path.text, id, name, volume, mute⟩, rfl, ?_⟩
  rw [show a.handle.interface = _ from hinterface]
  exact congrArg (fun text => [_, _, _, _, Entry.line text])
    (sinkLine_eq ⟨a.handle.path.text, id, name, volume, mute⟩ default)

/-! ## Telling the session -/

/-- The report of the session and of these devices. -/
def reportOf (o : Overview) (inhibitors : InhibitorTable) (backlights : List BacklightReport)
    (sinks : List SinkReport) (default : Option String) : Report :=
  { version := o.version, locked := o.locked, idle := o.idle, idleSince := o.idleSince
    idleSinceMonotonic := o.idleSinceMonotonic, inhibited := o.inhibited
    inhibitors, backlights, sinks, default }

theorem readOverview_narrates (s : Service) :
    Narrates (readOverview (.ofTimeout s.timeout) : Action σ Trouble Overview) fun o es =>
      ∃ table, o.inhibitors = table.size ∧ es = (reportOf o table [] [] none).questions := by
  have hinterface : (Session.ofTimeout s.timeout).handle.interface =
    "org.sessiond.session1.Session" := Client.interfaceName_session
  refine .property_bind Handle.promises_text fun version => ?_
  refine .property_bind Handle.promises_flag fun locked => ?_
  refine .property_bind Handle.promises_flag fun idle => ?_
  refine .property_bind Handle.promises_count fun idleSince => ?_
  refine .property_bind Handle.promises_count fun idleSinceMonotonic => ?_
  refine .property_bind Handle.promises_flag fun inhibited => ?_
  have hposes := Client.SessionOperation.inquiry_poses (.ofTimeout s.timeout)
    (show Client.SessionOperation.listInhibitors.question? = some _ from rfl)
  refine (Narrates.read (Session.listInhibitors_amountsTo _) rfl hposes (fun _ _ _ => trivial)
    ⟨.empty, trivial⟩).bind ?_
  rintro table _ ⟨-, rfl⟩
  refine .done ⟨table, rfl, ?_⟩
  rw [hinterface]
  rfl

theorem backlights_narrates (s : Service) :
    Narrates (within "Could not list backlights" s.backlights : Action σ Trouble (List Backlight))
      fun bs es => (∀ b ∈ bs, Backlight.ofPath s.timeout b.handle.path.text = .ok b) ∧
        es = [readSession
          { Question.property "Backlights" .texts with finish := Outcome.handlesTo .backlight }
          "Could not list backlights" (.handles (bs.map (·.view)))] := by
  have hposes := Client.ServiceOperation.inquiry_poses s
    (show Client.ServiceOperation.backlights.question? = some _ from rfl)
  rw [Client.interfaceName_session] at hposes
  exact .read s.backlights_amountsTo rfl hposes
    (fun w _ h _ hb => backlight_of_listed ⟨w, h⟩ hb) ⟨[], nofun⟩

theorem audioSinks_narrates (s : Service) :
    Narrates (within "Could not list audio sinks" s.audioSinks : Action σ Trouble (List AudioSink))
      fun as es => (∀ a ∈ as, AudioSink.ofPath s.timeout a.handle.path.text = .ok a) ∧
        es = [readSession
          (.optional "AudioSinks" .texts (.handles []) (Outcome.handlesTo .audioSink))
          "Could not list audio sinks" (.handles (as.map (·.view)))] := by
  have hposes := Client.ServiceOperation.inquiry_poses s
    (show Client.ServiceOperation.audioSinks.question? = some _ from rfl)
  rw [Client.interfaceName_session] at hposes
  exact .read s.audioSinks_amountsTo rfl hposes
    (fun w _ h _ ha => audioSink_of_listed ⟨w, h⟩ ha) ⟨[], nofun⟩

theorem defaultAudioSink_narrates (s : Service) :
    Narrates (within "Could not read default audio sink"
        (Session.ofTimeout s.timeout).defaultAudioSink : Action σ Trouble (Option String))
      fun default es => es = [readSession
        (.optional "DefaultAudioSink" .text (.optionalText none) Outcome.present)
        "Could not read default audio sink" (.optionalText default)] := by
  have hposes := Client.SessionOperation.inquiry_poses (.ofTimeout s.timeout)
    (show Client.SessionOperation.defaultAudioSink.question? = some _ from rfl)
  rw [show (Session.ofTimeout s.timeout).handle.interface = _ from Client.interfaceName_session]
    at hposes
  refine (Narrates.read (Handle.optionalProperty_amountsTo _ _ _) rfl hposes
    (fun _ _ _ => trivial) ⟨none, trivial⟩).imp ?_
  rintro default _ ⟨-, rfl⟩
  rfl

/-! ## Telling everything -/

theorem lines_of_overview {o : Overview} {table : InhibitorTable} (h : o.inhibitors = table.size) :
    o.lines.map .line = (reportOf o table [] [] none).lines := by
  simp only [Overview.lines, h, Decimal.natText_eq_toString]
  rfl

/-- Lists with the same keys show the same, if the keys tell what is seen. -/
theorem map_eq_of_keys {β γ δ : Type} {as : List α} {bs : List β} {key : α → γ} {key' : β → γ}
    {view : α → δ} {view' : β → δ} (see : γ → δ) (hview : ∀ a ∈ as, view a = see (key a))
    (hview' : ∀ b, view' b = see (key' b)) (hkeys : bs.map key' = as.map key) :
    as.map view = bs.map view' := by
  calc as.map view = (as.map key).map see := by
        rw [List.map_map]
        exact List.map_congr_left hview
    _ = (bs.map key').map see := by rw [hkeys]
    _ = bs.map view' := by
        rw [List.map_map]
        exact List.map_congr_left fun b _ => (hview' b).symm

/-- Showing the status goes through a report. -/
theorem status_narrates (s : Service) :
    Narrates (status s : Action σ Trouble Unit) fun _ es => ∃ r : Report, es = r.entries := by
  refine .withSession ?_
  refine (readOverview_narrates s).bind ?_
  rintro overview _ ⟨table, htable, rfl⟩
  refine (Narrates.each_printLine overview.lines).bind ?_
  rintro _ _ rfl
  refine (backlights_narrates s).bind ?_
  rintro backlights _ ⟨hbacklights, rfl⟩
  refine .printLine_bind ?_
  refine (Narrates.each fun b hb => showBacklight_narrates (hbacklights b hb)).bind ?_
  rintro _ _ ⟨bs, hbs, rfl⟩
  -- of the listed backlights the report has the paths, and so all that was told of them before
  have hbview : backlights.map (·.view) = bs.map (·.view) :=
    map_eq_of_keys (fun path => ⟨path, _, some (lastElement path)⟩)
      (fun b hb => view_of_backlight (hbacklights b hb)) (fun _ => rfl) hbs
  have hblength : backlights.length = bs.length := by
    simpa using (congrArg List.length hbs).symm
  rw [hbview, hblength, lines_of_overview htable, Decimal.natText_eq_toString]
  refine (audioSinks_narrates s).bind ?_
  rintro sinks _ ⟨hsinks, rfl⟩
  cases sinks with
  | nil =>
      refine .done ⟨reportOf overview table bs [] none, ?_⟩
      simp only [Report.entries, Report.backlightEntries, Report.sinkEntries, List.append_assoc,
        List.cons_append, List.nil_append, List.append_nil]
      rfl
  | cons a as =>
      refine (defaultAudioSink_narrates s).bind ?_
      rintro default _ rfl
      refine .printLine_bind ?_
      refine (Narrates.each fun b hb => showSink_narrates default (hsinks b hb)).bind ?_
      rintro _ _ ⟨rs, hrs, rfl⟩
      have haview : (a :: as).map (·.view) = rs.map (·.view) :=
        map_eq_of_keys (fun path => ⟨path, _, none⟩)
          (fun a' ha' => view_of_audioSink (hsinks a' ha')) (fun _ => rfl) hrs
      have halength : (a :: as).length = rs.length := by
        simpa using (congrArg List.length hrs).symm
      rw [haview, halength, Decimal.natText_eq_toString]
      refine .done ⟨reportOf overview table bs rs default, ?_⟩
      cases rs with
      | nil => cases hrs
      | cons r rs =>
          simp only [Report.entries, Report.backlightEntries, Report.sinkEntries,
            List.append_assoc, List.cons_append, List.nil_append, List.append_nil]
          rfl

/-! ## The number of questions -/

theorem length_callsFor_flatMap {tell : α → List Entry} {k : Nat}
    (h : ∀ a, (callsFor (tell a)).length = k) (as : List α) :
    (callsFor (as.flatMap tell)).length = k * as.length := by
  induction as with
  | nil => rfl
  | cons a as ih =>
      rw [List.flatMap_cons, callsFor_append, List.length_append, h, ih, List.length_cons,
        Nat.mul_succ, Nat.add_comm]

theorem Report.length_callsFor (r : Report) :
    (callsFor r.entries).length = 9 + 2 * r.backlights.length +
      if r.sinks = [] then 0 else 1 + 4 * r.sinks.length := by
  have hbacklights := length_callsFor_flatMap (fun b => show
    (callsFor (BacklightReport.entries b)).length = 2 from rfl) r.backlights
  have hbacklightEntries : (callsFor r.backlightEntries).length = 1 + 2 * r.backlights.length := by
    rw [← hbacklights, Nat.add_comm]
    rfl
  have hsinkEntries : (callsFor r.sinkEntries).length =
      1 + if r.sinks = [] then 0 else 1 + 4 * r.sinks.length := by
    have hsinks := length_callsFor_flatMap (fun a => show
      (callsFor (SinkReport.entries r.default a)).length = 4 from rfl) r.sinks
    unfold sinkEntries
    generalize r.sinks = as at hsinks ⊢
    cases as with
    | nil => rfl
    | cons a as =>
        rw [if_neg nofun, ← hsinks, Nat.add_comm, Nat.add_comm 1]
        rfl
  have hopening : (callsFor (r.questions ++ r.lines)).length = 7 := rfl
  rw [entries, callsFor_append, callsFor_append, List.length_append, List.length_append, hopening,
    hbacklightEntries, hsinkEntries]
  omega

/-! ## Reports that agree -/

/-- Two courses of telling that do not part before an outcome differs. -/
inductive Steered : List Entry → List Entry → Prop
  | nil : Steered [] []
  | line (text : String) {es es' : List Entry} (h : Steered es es') :
      Steered (.line text :: es) (.line text :: es')
  | read (r : Reading) (outcome : Outcome) {es es' : List Entry}
      (h : r.outcome = outcome → Steered es es') :
      Steered (.read r :: es) (.read { r with outcome } :: es')

namespace Steered

variable {es es' : List Entry}

/-- As far as the outcomes agree, the same is told. -/
theorem isPrefix (h : Steered es es') {told rest : List Entry} {failing : Reading}
    (hes : es = told ++ .read failing :: rest) (hagree : readings told <+: readings es') :
    told <+: es' := by
  induction h generalizing told with
  | nil => cases told <;> cases hes
  | line text h ih =>
      cases told with
      | nil => exact List.nil_prefix
      | cons e told =>
          cases hes
          exact List.cons_prefix_cons.mpr ⟨rfl, ih rfl hagree⟩
  | read r outcome h ih =>
      cases told with
      | nil => exact List.nil_prefix
      | cons e told =>
          cases hes
          obtain ⟨hsame, hagree⟩ := List.cons_prefix_cons.mp hagree
          have houtcome : r.outcome = outcome := congrArg Reading.outcome hsame
          exact List.cons_prefix_cons.mpr ⟨congrArg Entry.read hsame, ih houtcome rfl hagree⟩

theorem flatMap {γ : Type} {key : α → γ} {tell : α → List Entry}
    (htell : ∀ a a' es es', key a = key a' → Steered es es' →
      Steered (tell a ++ es) (tell a' ++ es'))
    {as as' : List α} (hkeys : as.map key = as'.map key) (h : Steered es es') :
    Steered (as.flatMap tell ++ es) (as'.flatMap tell ++ es') := by
  induction as generalizing as' with
  | nil =>
      cases as' with
      | nil => exact h
      | cons a' as' => cases hkeys
  | cons a as ih =>
      cases as' with
      | nil => cases hkeys
      | cons a' as' =>
          obtain ⟨hkey, hrest⟩ := List.cons_eq_cons.mp hkeys
          rw [List.flatMap_cons, List.flatMap_cons, List.append_assoc, List.append_assoc]
          exact htell a a' _ _ hkey (ih hrest)

theorem backlight (b b' : BacklightReport) (es es' : List Entry) (hpath : b.path = b'.path)
    (h : Steered es es') : Steered (b.entries ++ es) (b'.entries ++ es') := by
  obtain ⟨path, brightness, maximum⟩ := b
  obtain ⟨path', brightness', maximum'⟩ := b'
  cases hpath
  refine .read _ (.count brightness') ?_
  rintro ⟨⟩
  refine .read _ (.count maximum') ?_
  rintro ⟨⟩
  exact .line _ h

theorem sink (default : Option String) (a a' : SinkReport) (es es' : List Entry)
    (hpath : a.path = a'.path) (h : Steered es es') :
    Steered (a.entries default ++ es) (a'.entries default ++ es') := by
  obtain ⟨path, id, name, volume, mute⟩ := a
  obtain ⟨path', id', name', volume', mute'⟩ := a'
  cases hpath
  refine .read _ (.count id') ?_
  rintro ⟨⟩
  refine .read _ (.text name') ?_
  rintro ⟨⟩
  refine .read _ (.level volume') ?_
  rintro ⟨⟩
  refine .read _ (.flag mute') ?_
  rintro ⟨⟩
  exact .line _ h

/-- Devices that are seen alike have the same paths. -/
theorem paths_of_views {as as' : List α} {view : α → HandleView} (h : as.map view = as'.map view) :
    as.map (fun a => (view a).path) = as'.map fun a => (view a).path := by
  have hpaths := congrArg (List.map HandleView.path) h
  rwa [List.map_map, List.map_map] at hpaths

theorem opening (r r' : Report) (h : Steered es es') :
    Steered (r.questions ++ (r.lines ++ es)) (r'.questions ++ (r'.lines ++ es')) := by
  obtain ⟨version, locked, idle, idleSince, idleSinceMonotonic, inhibited, inhibitors, _, _, _⟩ := r
  refine .read _ (.text r'.version) ?_
  rintro ⟨⟩
  refine .read _ (.flag r'.locked) ?_
  rintro ⟨⟩
  refine .read _ (.flag r'.idle) ?_
  rintro ⟨⟩
  refine .read _ (.count r'.idleSince) ?_
  rintro ⟨⟩
  refine .read _ (.count r'.idleSinceMonotonic) ?_
  rintro ⟨⟩
  refine .read _ (.flag r'.inhibited) ?_
  rintro ⟨⟩
  refine .read _ (.inhibitors r'.inhibitors) ?_
  rintro ⟨⟩
  exact .line _ (.line _ (.line _ (.line _ h)))

theorem backlightEntries (r r' : Report) (h : Steered es es') :
    Steered (r.backlightEntries ++ es) (r'.backlightEntries ++ es') := by
  refine .read _ (.handles (r'.backlights.map (·.view))) fun hviews => ?_
  injection hviews with hviews
  have hpaths : r.backlights.map (·.path) = r'.backlights.map (·.path) := paths_of_views hviews
  have hlength : r.backlights.length = r'.backlights.length := by
    simpa using congrArg List.length hpaths
  rw [hlength]
  exact .line _ (flatMap backlight hpaths h)

theorem sinkEntries (r r' : Report) : Steered r.sinkEntries r'.sinkEntries := by
  refine .read _ (.handles (r'.sinks.map (·.view))) fun hviews => ?_
  injection hviews with hviews
  have hpaths : r.sinks.map (·.path) = r'.sinks.map (·.path) := paths_of_views hviews
  have hlength : r.sinks.length = r'.sinks.length := by
    simpa using congrArg List.length hpaths
  generalize r.sinks = as at hpaths hlength ⊢
  generalize r'.sinks = as' at hpaths hlength ⊢
  cases as with
  | nil =>
      cases as' with
      | nil => exact .nil
      | cons a' as' => cases hpaths
  | cons a as =>
      cases as' with
      | nil => cases hpaths
      | cons a' as' =>
          refine .read _ (.optionalText r'.default) fun hdefault => ?_
          injection hdefault with hdefault
          have htold := flatMap (sink r'.default) hpaths .nil
          rw [List.append_nil, List.append_nil] at htold
          rw [hdefault, hlength]
          exact .line _ htold

end Steered

/-- No two reports part before an outcome differs. -/
theorem Report.steered (r r' : Report) : Steered r.entries r'.entries := by
  simp only [entries, List.append_assoc]
  exact .opening r r' (.backlightEntries r r' (.sinkEntries r r'))

/-- Whatever the service replies, showing the status tells a report, to its end or up to the first
    question that fails. -/
theorem status_reporting (env : Environment) (settings : Settings) (service : Service)
    {w : World σ} (hopen : w.connection.phase ≠ .closed) :
    ∃ done, (perform env settings service .status w).2.journal.deeds = w.journal.deeds ++ done ∧
      Reporting w.connection done (perform env settings service .status w).1 := by
  have hnarrates : Narrates (perform env settings service .status : Action σ Trouble Exit)
      fun code es => code = 0 ∧ ∃ r : Report, es = r.entries := by
    refine (status_narrates service).bind ?_
    rintro _ _ ⟨r, rfl⟩
    exact .done ⟨rfl, r, List.append_nil _⟩
  rcases hnarrates.course w hopen with ⟨_, _, ⟨rfl, r, rfl⟩, hok, htold⟩ |
    ⟨_, told, failing, rest, fault, ⟨-, r, horder⟩, hbroken⟩
  · exact ⟨_, htold.deeds, hok ▸ .finished r htold.brought⟩
  · have hdeeds := hbroken.deeds
    rw [List.append_assoc] at hdeeds
    exact ⟨_, hdeeds, hbroken.result ▸
      .broken r told rest failing fault horder.symm hbroken.brought hbroken.failed⟩

/-- Whatever the service replies, showing the status tells a report, to its end or up to the first
    question that fails. A whole report takes nine questions, two more for each backlight and, if
    there are audio sinks, one more and four for each of them. What is told before a question fails
    is the beginning of every report with the same outcomes so far. -/
theorem perform_status (env : Environment) (settings : Settings) (service : Service) {w : World σ}
    (hopen : w.connection.phase ≠ .closed) :
    (∃ done, (perform env settings service .status w).2.journal.deeds = w.journal.deeds ++ done ∧
      Reporting w.connection done (perform env settings service .status w).1) ∧
    (∀ r : Report, (callsFor r.entries).length = 9 + 2 * r.backlights.length +
      if r.sinks = [] then 0 else 1 + 4 * r.sinks.length) ∧
    ∀ (r r' : Report) (told rest : List Entry) (failing : Reading),
      r.entries = told ++ .read failing :: rest → readings told <+: readings r'.entries →
        told <+: r'.entries := by
  refine ⟨status_reporting env settings service hopen, Report.length_callsFor, ?_⟩
  intro r r' _ _ _ horder
  exact (r.steered r').isPrefix horder

/-- The second of two backlights refuses to tell its brightness. -/
theorem perform_status_refused :
    let env : Environment :=
      { readText := fun _ => .error .notText
        hasPath := fun _ => false
        usualSettings := none
        runProgram := fun _ => .ended "" "" (.exited 0)
        rejection := none }
    let told (v : Bus.Wire) : Bus.Reply := { answer := .returned [.variant v] }
    let listed : Bus.Reply := { answer := .returned [.dict .string .variant []] }
    let paths : Bus.Wire := .array .objectPath [.objectPath "/left", .objectPath "/right"]
    let refusal : Bus.Failure := ⟨"org.freedesktop.DBus.Error.Failed", "Gone"⟩
    let w : World (List Bus.Reply) :=
      { connection := .fresh (.scripted .noReply)
          [told (.string "1"), told (.boolean true), told (.boolean false), told (.uint32 5),
           told (.uint64 6), told (.boolean false), listed, told paths, told (.uint32 7),
           told (.uint32 9), { answer := .refused refusal }] }
    let report (brightness : UInt64) : Report :=
      { version := "1", locked := true, idle := false, idleSince := 5, idleSinceMonotonic := 6
        inhibited := false, inhibitors := .empty, sinks := [], default := none
        backlights := [⟨"/left", 7, 9⟩, ⟨"/right", brightness, 9⟩] }
    w.connection.phase ≠ .closed ∧
      (∃ done, (perform env {} {} .status w).2.journal.deeds = w.journal.deeds ++ done ∧
        Reporting w.connection done (perform env {} {} .status w).1) ∧
      (callsFor (report 8).entries).length = 13 ∧
      (report 8).entries.take 16 <+: (report 20).entries := by
  intro env told listed paths refusal w report
  have hopen : w.connection.phase ≠ .closed := by decide
  obtain ⟨hreporting, hlength, hprefix⟩ := perform_status env {} {} hopen
  refine ⟨hopen, hreporting, hlength (report 8), ?_⟩
  exact hprefix (report 8) (report 20) _ _ _ rfl ⟨_, rfl⟩

end SessionControl.Command
