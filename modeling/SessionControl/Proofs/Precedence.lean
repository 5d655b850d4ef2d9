import SessionControl.Proofs.Consistency
import SessionControl.Proofs.Listing
import SessionControl.Proofs.Settings

set_option autoImplicit false

/-! # Which device a command uses

What the command line names wins over the settings, and what the settings name over what the session
tells (`Resolves`). The session is asked only where neither of them names a device, so a name that
leads nowhere is a failure and no reason to look further. Settings that cannot be loaded are a
failure before anything is said on the bus (`obey_precedence`). -/

namespace SessionControl.Command

open Bus.ObjectPath (IsElements IsPath)
open Client (Action AudioSink Backlight Device Fault Handle Journal MakesDevice Service Session World
  notPath)
open CommandLine (AudioChange Request)

variable {σ α β δ : Type}

/-! ## The device that is found -/

/-- A name that was given for a device leads to it, or to a failure before any call. -/
structure UsesNamed (d : Device) (name : String) (command : CommandLine.Command) (w : World σ)
    (x : Except Trouble α × World σ) : Prop where
  usable : IsElements name → Begins w.journal.calls (adjusting command (d.pathText name)) x
  unusable : ¬IsElements name →
    x.1 = .error { cause := .fault (notPath (d.pathText name)) } ∧ x.2.Alike w

/-- The device is the one that the command line names, or else the one that the settings name. The
    session is asked for its property where neither names one, and then the device is the one that
    it tells. -/
structure Resolves (d : Device) (property : String) (given? configured? : Option String)
    (told : String → Prop) (command : CommandLine.Command) (w : World σ)
    (x : Except Trouble α × World σ) : Prop where
  given (name : String) : given? = some name → UsesNamed d name command w x
  configured (name : String) : given? = none → configured? = some name →
    UsesNamed d name command w x
  discovered (path : String) : given? = none → configured? = none → told path →
    Begins (w.journal.calls ++ [askSession property]) (adjusting command path) x
  /-- Where the session tells of no device, it is asked all the same, but nobody else is. -/
  undiscovered : given? = none → configured? = none → (∀ path, ¬told path) →
    (∃ trouble, x.1 = .error trouble) ∧
      x.2.journal.calls = w.journal.calls ++ [askSession property]

/-- The action finds devices by their names, and where there is no name, the one that the session
    tells. -/
structure Locates (d : Device) (property : String) (told : String → Prop) (w : World σ)
    (find : Option String → Action σ Trouble δ) (handle : δ → Handle) : Prop where
  named {name : String} : IsElements name →
    ∃ a, (find (some name) w).1 = .ok a ∧ (handle a).path.text = d.pathText name
  refused {name : String} : ¬IsElements name →
    (find (some name) w).1 = .error { cause := .fault (notPath (d.pathText name)) }
  still (name : String) : (find (some name) w).2.Alike w
  discovered {path : String} : told path →
    ∃ a, (find none w).1 = .ok a ∧ (handle a).path.text = path
  undiscovered : (∀ path, ¬told path) → ∃ trouble, (find none w).1 = .error trouble
  asked : (find none w).2.journal.calls = w.journal.calls ++ [askSession property]

/-- What finds a device, and then either fails or speaks to it, uses the right one. -/
theorem Locates.resolves {d : Device} {property : String} {told : String → Prop} {w : World σ}
    {find : Option String → Action σ Trouble δ} {handle : δ → Handle}
    (h : Locates d property told w find handle) {given? configured? : Option String}
    {command : CommandLine.Command} {x : Except Trouble α × World σ}
    (hfails : ∀ trouble, (find (given? <|> configured?) w).1 = .error trouble →
      x = (.error trouble, (find (given? <|> configured?) w).2))
    (huses : ∀ a, (find (given? <|> configured?) w).1 = .ok a →
      Begins (find (given? <|> configured?) w).2.journal.calls
        (adjusting command (handle a).path.text) x) :
    Resolves d property given? configured? told command w x := by
  have hnamed : ∀ name, (given? <|> configured?) = some name → UsesNamed d name command w x := by
    intro name hname
    rw [hname] at hfails huses
    constructor
    case usable =>
      intro helements
      obtain ⟨a, ha, hpath⟩ := h.named helements
      have hbegins := huses a ha
      rwa [(h.still name).calls, hpath] at hbegins
    case unusable =>
      intro helements
      rw [hfails _ (h.refused helements)]
      exact ⟨rfl, h.still name⟩
  constructor
  case given =>
    rintro name rfl
    exact hnamed name rfl
  case configured =>
    rintro name rfl rfl
    exact hnamed name rfl
  case discovered =>
    rintro path rfl rfl hpath
    obtain ⟨a, ha, rfl⟩ := h.discovered hpath
    exact h.asked ▸ huses a ha
  case undiscovered =>
    rintro rfl rfl hnone
    obtain ⟨trouble, htrouble⟩ := h.undiscovered hnone
    rw [hfails trouble htrouble]
    exact ⟨⟨trouble, rfl⟩, h.asked⟩

/-! ### Devices by their names -/

section Named

variable {make : String → Except Fault δ} {interface : String} {timeout : Nat}
  {handle : δ → Handle} {d : Device} {name : String} {x : Action σ Fault δ}

theorem plainly_of_settled {r : Except Fault δ} (hx : x.AmountsTo (.settled r)) (w : World σ) :
    (plainly x w).1 = r.mapError (fun fault => { cause := .fault fault }) ∧
      (plainly x w).2.Alike w :=
  (hx.mapError fun fault => ({ cause := .fault fault } : Trouble)).apply_of_settled w

theorem plainly_named (hmake : MakesDevice make interface timeout handle)
    (hx : x.AmountsTo (.settled (make (d.pathText name)))) (w : World σ) (h : IsElements name) :
    ∃ a, (plainly x w).1 = .ok a ∧ (handle a).path.text = d.pathText name := by
  have hpath : IsPath (d.pathText name) :=
    (Bus.ObjectPath.isPath_iff _).mpr ((d.isValid_pathText name).mpr h)
  obtain ⟨a, ha, hat⟩ := hmake.made hpath
  refine ⟨a, ?_, hat.1⟩
  rw [(plainly_of_settled hx w).1, ha]
  rfl

theorem plainly_refused (hmake : MakesDevice make interface timeout handle)
    (hx : x.AmountsTo (.settled (make (d.pathText name)))) (w : World σ) (h : ¬IsElements name) :
    (plainly x w).1 = .error { cause := .fault (notPath (d.pathText name)) } := by
  have hpath : ¬IsPath (d.pathText name) := fun hpath =>
    h ((d.isValid_pathText name).mp ((Bus.ObjectPath.isPath_iff _).mp hpath))
  rw [(plainly_of_settled hx w).1, hmake.refused hpath]
  rfl

end Named

/-! ### Backlights -/

/-- The session tells its backlights, this one first, and all of them by paths. -/
def ToldFirst (session : Session) (w : World σ) (path : String) : Prop :=
  ∃ others, (session.backlights w).1 = .ok (path :: others) ∧
    ∀ text ∈ path :: others, IsPath text

/-- The backlight with a name, at the path of a text. -/
def namedAt (name : String) (timeout : Nat) (text : String) : Except Fault Backlight :=
  (Handle.ofText text "Backlight" timeout).bind fun handle => .ok { name, handle }

theorem makesDevice_namedAt (name : String) (timeout : Nat) :
    MakesDevice (namedAt name timeout) "org.sessiond.session1.Backlight" timeout
      Backlight.handle :=
  Client.makesDevice_ofText Client.interfaceName_backlight timeout fun _ _ => rfl

theorem backlight_named_amountsTo (s : Service) (name : String) :
    (s.backlight name : Action σ Fault Backlight).AmountsTo
      (.settled (namedAt name s.timeout (Device.backlight.pathText name))) := by
  rw [← Backlight.pathText_eq]
  exact Backlight.named_amountsTo name s.timeout

theorem findBacklight_told (s : Service) {w : World σ} {b : Backlight}
    (h : (findBacklight s none w).1 = .ok b) :
    ToldFirst (.ofTimeout s.timeout) w b.handle.path.text := by
  obtain ⟨backlights, hlisted, hfirst, -⟩ := ok_of_bind h
  have hlisted := mapError_ok_iff.mp hlisted
  rw [s.backlights_result] at hlisted
  obtain ⟨texts, htexts, hmade⟩ := Client.ok_of_bind_ok hlisted
  have hall := ((Backlight.makesDevice s.timeout).all_or_nothing texts).mp ⟨backlights, hmade⟩
  have horder := (Backlight.makesDevice s.timeout).in_order hmade
  cases horder with
  | nil => cases hfirst
  | cons hat _ =>
      cases hfirst
      rw [hat.1]
      exact ⟨_, htexts, hall⟩

theorem backlight_locates (s : Service) {w : World σ} (hopen : w.connection.phase ≠ .closed) :
    Locates .backlight "Backlights" (ToldFirst (.ofTimeout s.timeout) w) w (findBacklight s)
      Backlight.handle where
  named {name} := plainly_named (makesDevice_namedAt name s.timeout)
    (backlight_named_amountsTo s name) w
  refused {name} := plainly_refused (makesDevice_namedAt name s.timeout)
    (backlight_named_amountsTo s name) w
  still name := (plainly_of_settled (backlight_named_amountsTo s name) w).2
  discovered := by
    rintro path ⟨others, htold, hall⟩
    have hmake := Backlight.makesDevice s.timeout
    obtain ⟨devices, hmade⟩ := (hmake.all_or_nothing _).mpr hall
    have hlisted : (s.backlights w).1 = .ok devices := by
      rw [s.backlights_result, htold]
      exact hmade
    cases hmake.in_order hmade with
    | cons hat _ =>
        refine ⟨_, ?_, hat.1⟩
        rw [findBacklight_result, hlisted]
        rfl
  undiscovered hnone := by
    cases h : (findBacklight s none w).1 with
    | error trouble => exact ⟨trouble, rfl⟩
    | ok b => exact absurd (findBacklight_told s h) (hnone _)
  asked := findBacklight_calls s hopen

/-! ### Audio sinks -/

/-- The session tells its default audio sink by this path, and it is not the root that stands for
    none. -/
def ToldDefault (session : Session) (w : World σ) (path : String) : Prop :=
  (session.defaultAudioSink w).1 = .ok (some path) ∧ path ≠ "/" ∧ IsPath path

theorem audioSink_named_amountsTo (s : Service) (id : String) :
    (s.audioSink (.name id) : Action σ Fault AudioSink).AmountsTo
      (.settled (AudioSink.ofPath s.timeout (Device.audioSink.pathText id))) := by
  have hpath : AudioSink.pathText (.name id) = Device.audioSink.pathText id :=
    AudioSink.pathText_eq (.name id)
  rw [← hpath]
  exact AudioSink.atPath_amountsTo _ s.timeout

theorem defaultAudioSink_takes (s : Service) (w : World σ) :
    Service.TakesDefault s.timeout ((Session.ofTimeout s.timeout).defaultAudioSink w).1
      (s.defaultAudioSink w).1 := by
  rw [Client.result_bind s.defaultAudioSink_amountsTo
    (Session.ofTimeout s.timeout).defaultAudioSink_amountsTo w]
  exact Service.sinkOfDefault_takes s.timeout _

theorem findAudioSink_told (s : Service) {w : World σ} {a : AudioSink}
    (h : (findAudioSink s none w).1 = .ok a) :
    ∃ path, ToldDefault (.ofTimeout s.timeout) w path := by
  have hsink := (findAudioSink_eq_ok_iff s w a).mp h
  have htakes := defaultAudioSink_takes s w
  cases htold : ((Session.ofTimeout s.timeout).defaultAudioSink w).1 with
  | error fault => cases (htakes.failed fault htold).symm.trans hsink
  | ok told =>
      cases told with
      | none => cases (htakes.absent.mpr (.inl htold)).symm.trans hsink
      | some path =>
          by_cases hroot : path = "/"
          · subst hroot
            cases (htakes.absent.mpr (.inr htold)).symm.trans hsink
          · by_cases hpath : IsPath path
            · exact ⟨path, htold, hroot, hpath⟩
            · cases (htakes.invalid path hpath htold).symm.trans hsink

theorem audioSink_locates (s : Service) {w : World σ} (hopen : w.connection.phase ≠ .closed) :
    Locates .audioSink "DefaultAudioSink" (ToldDefault (.ofTimeout s.timeout) w) w
      (findAudioSink s) AudioSink.handle where
  named {id} := plainly_named (AudioSink.makesDevice s.timeout) (audioSink_named_amountsTo s id) w
  refused {id} := plainly_refused (AudioSink.makesDevice s.timeout)
    (audioSink_named_amountsTo s id) w
  still id := (plainly_of_settled (audioSink_named_amountsTo s id) w).2
  discovered := by
    rintro path ⟨htold, hroot, hpath⟩
    obtain ⟨a, ha, hat⟩ := (defaultAudioSink_takes s w).found path hpath hroot htold
    exact ⟨a, (findAudioSink_eq_ok_iff s w a).mpr ha, hat.1⟩
  undiscovered hnone := by
    cases h : (findAudioSink s none w).1 with
    | error trouble => exact ⟨trouble, rfl⟩
    | ok a =>
        obtain ⟨path, htold⟩ := findAudioSink_told s h
        exact absurd htold (hnone path)
  asked := findAudioSink_calls s hopen

/-! ## The command -/

/-- What the settings are to a command: each of them stands in where the command line is silent, and
    for nothing else. -/
structure Chooses (settings : Settings) (command : CommandLine.Command) (w : World σ)
    (x : Except Trouble α × World σ) : Prop where
  backlight (name : Option String) (set : Option UInt32) (inc : Option Int32) :
    command = .backlight name set inc →
      Resolves .backlight "Backlights" name settings.backlight
        (ToldFirst (.ofTimeout settings.timeout.toNat) w) command w x
  audioSink (id : Option String) (change : AudioChange) : command = .audioSink id change →
    Resolves .audioSink "DefaultAudioSink" id settings.audioSink
      (ToldDefault (.ofTimeout settings.timeout.toNat) w) command w x
  inhibitor (who why : Option String) (line : List String) : command = .inhibit who why line →
    ∃ rest, x.2.journal.calls = w.journal.calls ++
      addCall (who.getD settings.who) (why.getD (" ".intercalate line)) :: rest

theorem perform_chooses (env : Environment) (settings : Settings) {command : CommandLine.Command}
    (hconsistent : command.Consistent) {w : World σ} (hopen : w.connection.phase ≠ .closed) :
    Chooses settings command w
      (perform env settings { timeout := settings.timeout.toNat } command w) := by
  let s : Service := { timeout := settings.timeout.toNat }
  constructor
  case backlight =>
    rintro name set inc rfl
    exact (backlight_locates s hopen).resolves (fun _ => backlight_of_error s set inc)
      fun _ => backlight_begins set inc hopen
  case audioSink =>
    rintro id change rfl
    have hnot : ¬(change.set.isSome && change.inc.isSome) = true := fun hboth =>
      hconsistent.1 (Bool.and_eq_true_iff.mp hboth)
    exact (audioSink_locates s hopen).resolves (fun _ => audioSink_of_error s change)
      fun _ => audioSink_begins hnot hopen
  case inhibitor =>
    rintro who why line rfl
    obtain ⟨w', hw, hsession⟩ := s.session_apply (ε := Trouble) w
    show ∃ rest, ((s.session >>= fun session =>
      inhibit env session (who.getD settings.who) why line) w).2.journal.calls = _
    rw [Action.bind_apply, hsession]
    have hopen' : w'.connection.phase ≠ .closed := hw.connection ▸ hopen
    obtain ⟨done, hdone, hlifetime⟩ :=
      inhibit_lifetime env s.timeout (who.getD settings.who) why line hopen'
    have hcalls := congrArg Journal.calls hdone
    rw [Journal.calls_append, Journal.calls_deeds, Journal.calls_deeds, hw.calls,
      hlifetime.calls] at hcalls
    exact ⟨_, hcalls⟩

/-! ## The run -/

section Alike

variable {w v : World σ} {x : Except Trouble α × World σ}

theorem UsesNamed.of_alike {d : Device} {name : String} {command : CommandLine.Command}
    (h : UsesNamed d name command w x) (hw : w.Alike v) : UsesNamed d name command v x where
  usable hname := hw.calls ▸ h.usable hname
  unusable hname := by
    obtain ⟨hresult, hx⟩ := h.unusable hname
    exact ⟨hresult, hx.connection.trans hw.connection, hx.deeds.trans hw.deeds⟩

theorem Resolves.of_alike {d : Device} {property : String} {given? configured? : Option String}
    {told told' : String → Prop} {command : CommandLine.Command}
    (h : Resolves d property given? configured? told command w x) (hw : w.Alike v)
    (htold : ∀ path, told path ↔ told' path) :
    Resolves d property given? configured? told' command v x where
  given name hgiven := (h.given name hgiven).of_alike hw
  configured name hgiven hconfigured := (h.configured name hgiven hconfigured).of_alike hw
  discovered path hgiven hconfigured hpath :=
    hw.calls ▸ h.discovered path hgiven hconfigured ((htold path).mpr hpath)
  undiscovered hgiven hconfigured hnone :=
    hw.calls ▸ h.undiscovered hgiven hconfigured fun path hpath =>
      hnone path ((htold path).mp hpath)

/-- Only the calls and the connection count, not what was recorded for debugging. -/
theorem Chooses.of_alike {settings : Settings} {command : CommandLine.Command}
    (h : Chooses settings command w x) (hw : w.Alike v) : Chooses settings command v x where
  backlight name set inc hcommand := (h.backlight name set inc hcommand).of_alike hw fun path => by
    unfold ToldFirst
    rw [(Session.backlights_amountsTo _).result_congr hw]
  audioSink id change hcommand := (h.audioSink id change hcommand).of_alike hw fun path => by
    unfold ToldDefault
    rw [(Session.defaultAudioSink_amountsTo _).result_congr hw]
  inhibitor who why line hcommand := hw.calls ▸ h.inhibitor who why line hcommand

end Alike

theorem not_isElements_empty : ¬IsElements "" := by
  rw [Bus.ObjectPath.isElements_iff]
  decide

/-- Each setting is taken from the file on its own, whatever way tables are read from texts, and
    loading is done before the bus is spoken to: where it fails, it does not matter whether the bus
    would have let the client in. The settings that were loaded stand in for what the command line
    does not name, and the session is asked for a device only where neither names one. So a name
    that leads nowhere, such as the empty one, is a failure without any call. -/
theorem obey_precedence (env : Environment) {words : List String} {r : Request}
    (hread : CommandLine.read words = .ok r) {w : World σ} (hopen : w.connection.phase ≠ .closed) :
    let x := obey env words w
    let loaded := (Settings.load env r.config w).1
    (∀ parse, Settings.Loaded parse env r.config (Settings.outcome parse env r.config)) ∧
    loaded = Settings.outcome Toml.Document.table? env r.config ∧
    (∀ text t, Toml.Document.table? text = some t → t.InRange) ∧
    (∀ trouble, loaded = .error trouble → x.1 = .error trouble ∧ x.2.Alike w ∧
      ∀ rejection, obey { env with rejection } words w = x) ∧
    (∀ settings, loaded = .ok settings → env.rejection = none →
      Chooses settings r.command w x) ∧
    ¬IsElements "" := by
  intro x loaded
  obtain ⟨hloaded, hstill⟩ := (Settings.load_amountsTo env r.config).apply_of_settled w
  have hrun : ∀ env, obey env words w = run env r w := by
    intro env
    unfold obey
    rw [hread]
  refine ⟨fun parse => Settings.loaded_outcome parse env r.config, hloaded,
    fun text t => Toml.Document.inRange_table?, fun trouble htrouble => ?_,
    fun settings hsettings hrejection => ?_, not_isElements_empty⟩
  · -- loading reads nothing of the environment but the files
    have hfails : ∀ rejection, run { env with rejection } r w =
        (.error trouble, (Settings.load env r.config w).2) :=
      fun rejection => bind_of_error htrouble
    have hx : x = (.error trouble, (Settings.load env r.config w).2) :=
      (hrun env).trans (hfails env.rejection)
    rw [hx]
    exact ⟨rfl, hstill, fun rejection => (hrun _).trans (hfails rejection)⟩
  · have hconsistent : r.command.Consistent := by
      obtain ⟨front, v, rest, m, -, hm, hcommand⟩ := CommandLine.match_of_read hread
      exact hcommand ▸ CommandLine.Verb.command_consistent (.of_match hm)
    have hconnect : (connect env : Action σ Trouble Unit) = Action.done () := by
      unfold connect
      rw [hrejection]
      rfl
    have hx : x = perform env settings { timeout := settings.timeout.toNat } r.command
        (Settings.load env r.config w).2 := by
      refine (hrun env).trans ?_
      unfold run
      rw [hconnect, Action.bind_apply]
      change (Settings.load env r.config w).1 = .ok settings at hsettings
      generalize Settings.load env r.config w = y at hsettings
      obtain ⟨result, w'⟩ := y
      cases hsettings
      rfl
    rw [hx]
    exact (perform_chooses env settings hconsistent (hstill.connection ▸ hopen)).of_alike hstill

/-- The settings name a backlight by the empty text. It is not the first one of the session that is
    used then, and not even asked for. -/
theorem obey_precedence_empty_name :
    let env : Environment := { Environment.bare with readText := fun _ => .ok "backlight = ''" }
    let words := ["--config", "own.toml", "backlight", "--set", "5"]
    let r : Request :=
      { config := some "own.toml", command := .backlight none (some 5) none }
    let w : World (List Bus.Reply) := { connection := .fresh (.scripted .noReply) [] }
    CommandLine.read words = .ok r ∧ w.connection.phase ≠ .closed ∧
      (Settings.load env r.config w).1 = .ok { backlight := some "" } ∧
      (obey env words w).1 =
        .error { cause := .fault (notPath "/org/sessiond/session1/backlight/") } ∧
      (obey env words w).2.journal.calls = [] := by
  intro env words r w
  have hread : CommandLine.read words = .ok r := by
    have hsome : (CommandLine.read words).toOption = some r := by decide +kernel
    cases hwords : CommandLine.read words with
    | error refusal =>
        rw [hwords] at hsome
        cases hsome
    | ok r' =>
        rw [hwords] at hsome
        exact congrArg Except.ok (Option.some.inj hsome)
  have htokens : Toml.tokens? "backlight = ''" =
      some [.bare "backlight".toList, .blank [' '], .equals, .blank [' '], .quoted [] false] := by
    decide +kernel
  have htable : Toml.Document.table? "backlight = ''" = some [("backlight", .text "")] := by
    unfold Toml.Document.table? Toml.Document.read?
    rw [htokens]
    simp [Toml.lines?, Toml.skipBlanks, Toml.entry?, Toml.name?, Toml.namePart?, Toml.value?,
      Toml.lineEnd?, Toml.Document.ofLines?, Toml.Document.fill?, Toml.Document.sections?,
      Toml.Table.add?, Toml.Document.table]
  have hopen : w.connection.phase ≠ .closed := by decide
  obtain ⟨-, hloaded, -, -, hchooses, hempty⟩ := obey_precedence env hread hopen
  have hsettings : (Settings.load env r.config w).1 = .ok { backlight := some "" } := by
    have htext : env.readText "own.toml" = .ok "backlight = ''" := rfl
    rw [hloaded, Settings.outcome_of_consults _ (.named "own.toml"), htext, Settings.outcomeOfFile,
      htable]
    rfl
  have hbacklight := (hchooses _ hsettings rfl).backlight none (some 5) none rfl
  obtain ⟨hresult, hstill⟩ := (hbacklight.configured "" rfl rfl).unusable hempty
  have hpath : Device.backlight.pathText "" = "/org/sessiond/session1/backlight/" := by decide
  rw [hpath] at hresult
  have hnone : w.journal.calls = [] := rfl
  exact ⟨hread, hopen, hsettings, hresult, hstill.calls.trans hnone⟩

end SessionControl.Command
