import SessionControl.Proofs.Absence
import SessionControl.Proofs.Speaking

set_option autoImplicit false

/-! # Handles to the listed devices

The session lists its devices by their paths, and the service makes handles of a list all or
nothing: each text of the list becomes the handle at its place, or the first text that is no path is
told and there are no handles (`Listed`). A command that names no backlight takes the first handle
of the list, so it depends on all of its texts. -/

namespace SessionControl.Client

open Bus.ObjectPath (IsPath)

variable {σ α : Type}

/-! ## All or nothing -/

/-- Handles to the devices at these texts, or the fault of the first text that is no path. -/
structure Listed (texts : List String) (interface : String) (timeout : Nat) (handle : α → Handle)
    (result : Except Fault (List α)) : Prop where
  all_or_nothing : (∃ devices, result = .ok devices) ↔ ∀ text ∈ texts, IsPath text
  /-- One for each text, at the same place. -/
  in_order (devices : List α) : result = .ok devices →
    List.Forall₂ (fun text a => (handle a).IsAt text interface timeout) texts devices
  first_told (before after : List String) (bad : String) : texts = before ++ bad :: after →
    (∀ text ∈ before, IsPath text) → ¬IsPath bad → result = .error (notPath bad)

namespace MakesDevice

variable {make : String → Except Fault α} {interface : String} {timeout : Nat}
  {handle : α → Handle} {text : String} {texts : List String}

theorem mapM_of_path {a : α} (h : make text = .ok a) :
    (text :: texts).mapM make = (texts.mapM make).bind fun devices => .ok (a :: devices) := by
  rw [List.mapM_cons, h]
  rfl

theorem mapM_of_not_path (h : MakesDevice make interface timeout handle) (htext : ¬IsPath text) :
    (text :: texts).mapM make = .error (notPath text) := by
  rw [List.mapM_cons, h.refused htext]
  rfl

theorem all_or_nothing (h : MakesDevice make interface timeout handle) (texts : List String) :
    (∃ devices, texts.mapM make = .ok devices) ↔ ∀ text ∈ texts, IsPath text := by
  induction texts with
  | nil => exact iff_of_true ⟨[], rfl⟩ nofun
  | cons text texts ih =>
      rw [List.forall_mem_cons, ← ih]
      by_cases htext : IsPath text
      · obtain ⟨a, ha, -⟩ := h.made htext
        rw [mapM_of_path ha, and_iff_right htext]
        constructor
        · rintro ⟨devices, hdevices⟩
          obtain ⟨rest, hrest, -⟩ := ok_of_bind_ok hdevices
          exact ⟨rest, hrest⟩
        · rintro ⟨rest, hrest⟩
          rw [hrest]
          exact ⟨a :: rest, rfl⟩
      · rw [h.mapM_of_not_path htext]
        exact iff_of_false nofun fun hboth => htext hboth.1

theorem in_order (h : MakesDevice make interface timeout handle) {devices : List α}
    (hmade : texts.mapM make = .ok devices) :
    List.Forall₂ (fun text a => (handle a).IsAt text interface timeout) texts devices := by
  induction texts generalizing devices with
  | nil =>
      cases hmade
      exact .nil
  | cons text texts ih =>
      by_cases htext : IsPath text
      · obtain ⟨a, ha, hat⟩ := h.made htext
        rw [mapM_of_path ha] at hmade
        obtain ⟨rest, hrest, hdevices⟩ := ok_of_bind_ok hmade
        cases hdevices
        exact .cons hat (ih hrest)
      · rw [h.mapM_of_not_path htext] at hmade
        cases hmade

theorem first_told (h : MakesDevice make interface timeout handle) {before : List String}
    (after : List String) {bad : String} (hbefore : ∀ text ∈ before, IsPath text)
    (hbad : ¬IsPath bad) : (before ++ bad :: after).mapM make = .error (notPath bad) := by
  induction before with
  | nil => exact h.mapM_of_not_path hbad
  | cons text before ih =>
      obtain ⟨htext, hbefore⟩ := List.forall_mem_cons.mp hbefore
      obtain ⟨a, ha, -⟩ := h.made htext
      rw [List.cons_append, mapM_of_path ha, ih hbefore]
      rfl

theorem listed (h : MakesDevice make interface timeout handle) (texts : List String) :
    Listed texts interface timeout handle (texts.mapM make) where
  all_or_nothing := h.all_or_nothing texts
  in_order _ hmade := h.in_order hmade
  first_told before after bad htexts hbefore hbad := by
    rw [htexts]
    exact h.first_told after hbefore hbad

end MakesDevice

theorem Backlight.makesDevice (timeout : Nat) :
    MakesDevice (ofPath timeout) "org.sessiond.session1.Backlight" timeout handle :=
  makesDevice_ofText interfaceName_backlight timeout fun _ _ => rfl

/-! ## Lists that the service makes -/

theorem Service.backlights_result (s : Service) (w : World σ) :
    (s.backlights w).1 = ((Session.ofTimeout s.timeout).backlights w).1.bind fun texts =>
      texts.mapM (Backlight.ofPath s.timeout) :=
  result_bind s.backlights_amountsTo (Session.backlights_amountsTo _) w

theorem Service.audioSinks_result (s : Service) (w : World σ) :
    (s.audioSinks w).1 = ((Session.ofTimeout s.timeout).audioSinks w).1.bind fun texts =>
      texts.mapM (AudioSink.ofPath s.timeout) :=
  result_bind s.audioSinks_amountsTo (Session.audioSinks_amountsTo _) w

end SessionControl.Client

namespace SessionControl.Command

open Bus.ObjectPath (IsPath)
open Client (Action AudioSink Backlight Listed Service Session World notPath)

variable {σ α β : Type}

/-! ## The command -/

/-- What a command does that names no backlight, where the session lists these texts. -/
structure TakesFirst (texts : List String) (set : Option UInt32) (inc : Option Int32)
    (w : World σ) (listed : Except Client.Fault (List Backlight))
    (found : Except Trouble Backlight) (x : Except Trouble Exit × World σ) : Prop where
  /-- It speaks to the first backlight of the list, and to no other. -/
  used (b : Backlight) (others : List Backlight) : listed = .ok (b :: others) →
    found = .ok b ∧ x.2.journal.calls = w.journal.calls ++
      [askSession "Backlights", (brightnessAsk set inc).call b.handle.path.text]
  /-- It fails for the first text that is no path, wherever that stands. -/
  failed (before after : List String) (bad : String) : texts = before ++ bad :: after →
    (∀ text ∈ before, IsPath text) → ¬IsPath bad →
      x.1 = .error { contexts := ["Could not list backlights"], cause := .fault (notPath bad) } ∧
        x.2.journal.calls = w.journal.calls ++ [askSession "Backlights"]
  none_found : Says "No backlights found" x.1 ↔ texts = []
  none_used : texts = [] → x.2.journal.calls = w.journal.calls ++ [askSession "Backlights"]

theorem takesFirst_of_listed {s : Service} {w : World σ} {texts : List String}
    (h : Listed texts "org.sessiond.session1.Backlight" s.timeout Backlight.handle
      (s.backlights w).1) (hopen : w.connection.phase ≠ .closed) (env : Environment)
    (settings : Settings) (set : Option UInt32) (inc : Option Int32) :
    TakesFirst texts set inc w (s.backlights w).1 (findBacklight s none w).1
      (perform env { settings with backlight := none } s (.backlight none set inc) w) := by
  show TakesFirst texts set inc w _ _ (quietly (backlight s none set inc) w)
  have hsearched := findBacklight_calls s hopen
  -- where nothing is found, the search is all that is done
  have hfails : ∀ trouble, (findBacklight s none w).1 = .error trouble →
      (quietly (backlight s none set inc) w).1 = .error trouble ∧
        (quietly (backlight s none set inc) w).2.journal.calls =
          w.journal.calls ++ [askSession "Backlights"] := by
    intro trouble htrouble
    rw [backlight_of_error s set inc htrouble]
    exact ⟨rfl, hsearched⟩
  constructor
  case used =>
    intro b others hlisted
    have hfound : (findBacklight s none w).1 = .ok b := by
      rw [findBacklight_result, hlisted]
      rfl
    refine ⟨hfound, ?_⟩
    rw [(backlight_begins set inc hopen hfound).calls, hsearched, List.append_assoc]
    rfl
  case failed =>
    intro before after bad htexts hbefore hbad
    refine hfails _ ?_
    rw [findBacklight_result, h.first_told before after bad htexts hbefore hbad]
    rfl
  case none_found =>
    rw [says_backlight_iff]
    constructor
    · intro hnone
      cases h.in_order [] hnone
      rfl
    · rintro rfl
      obtain ⟨devices, hdevices⟩ := h.all_or_nothing.mpr nofun
      cases h.in_order devices hdevices
      exact hdevices
  case none_used =>
    rintro rfl
    obtain ⟨devices, hdevices⟩ := h.all_or_nothing.mpr nofun
    cases h.in_order devices hdevices
    refine (hfails { cause := .noBacklights } ?_).2
    rw [findBacklight_result, hdevices]
    rfl

/-- Handles are made of all listed texts or of none, with the call for the list as the only one; and
    the command that names no backlight uses the first handle, or fails if there are none, for the
    same fault, without another call. -/
theorem device_lists (s : Service) (w : World σ) (texts : List String) (env : Environment)
    (settings : Settings) (set : Option UInt32) (inc : Option Int32) :
    let session := Session.ofTimeout s.timeout
    ((session.audioSinks w).1 = .ok texts →
      Listed texts "org.sessiond.session1.AudioSink" s.timeout AudioSink.handle
        (s.audioSinks w).1 ∧
      (s.audioSinks w).2.journal.calls = w.journal.calls ++ [askSession "AudioSinks"]) ∧
    ((session.backlights w).1 = .ok texts →
      Listed texts "org.sessiond.session1.Backlight" s.timeout Backlight.handle
        (s.backlights w).1 ∧
      (s.backlights w).2.journal.calls = w.journal.calls ++ [askSession "Backlights"] ∧
      TakesFirst texts set inc w (s.backlights w).1 (findBacklight s none w).1
        (perform env { settings with backlight := none } s (.backlight none set inc) w)) := by
  intro session
  refine ⟨fun htold => ?_, fun htold => ?_⟩
  · have hlisted : (s.audioSinks w).1 = texts.mapM (AudioSink.ofPath s.timeout) := by
      rw [s.audioSinks_result, htold]
      rfl
    have hopen : w.connection.phase ≠ .closed := fun hclosed => by
      cases (Client.result_of_closed session.audioSinks_amountsTo hclosed).symm.trans htold
    rw [hlisted, ← propertyCall_session s.timeout]
    exact ⟨(AudioSink.makesDevice s.timeout).listed texts,
      calls_of_asks s.audioSinks_amountsTo hopen⟩
  · have hresult : (s.backlights w).1 = texts.mapM (Backlight.ofPath s.timeout) := by
      rw [s.backlights_result, htold]
      rfl
    have hopen : w.connection.phase ≠ .closed := fun hclosed => by
      cases (Client.result_of_closed session.backlights_amountsTo hclosed).symm.trans htold
    have hlisted := (Backlight.makesDevice s.timeout).listed texts
    rw [← hresult] at hlisted
    refine ⟨hlisted, ?_, ?_⟩
    · rw [← propertyCall_session s.timeout]
      exact calls_of_asks s.backlights_amountsTo hopen
    · exact takesFirst_of_listed hlisted hopen env settings set inc

/-- A text that is no path spoils the list, although the backlight at its head is the one that would
    have been used. -/
theorem device_lists_spoilt :
    let paths : Bus.Wire := .array .string [.string "/a", .string "b"]
    let w : World (List Bus.Reply) :=
      { connection := .fresh (.scripted .noReply) [{ answer := .returned [.variant paths] }] }
    ((Session.ofTimeout 25000).backlights w).1 = .ok ["/a", "b"] ∧
      (∀ devices, (({} : Service).backlights w).1 ≠ .ok devices) ∧
      (perform .bare {} {} (.backlight none none none) w).1 = .error
        { contexts := ["Could not list backlights"], cause := .fault (notPath "b") } ∧
      (perform .bare {} {} (.backlight none none none) w).2.journal.calls =
        [askSession "Backlights"] := by
  intro paths w
  have htold : ((Session.ofTimeout 25000).backlights w).1 = .ok ["/a", "b"] := rfl
  obtain ⟨hlisted, -, htakes⟩ := (device_lists {} w ["/a", "b"] .bare {} none none).2 htold
  have hfirst : IsPath "/a" := (Bus.ObjectPath.isPath_iff _).mpr (by decide)
  have hbad : ¬IsPath "b" := mt (Bus.ObjectPath.isPath_iff _).mp (by decide)
  refine ⟨htold, fun devices hdevices => ?_, ?_⟩
  · exact hbad (hlisted.all_or_nothing.mp ⟨devices, hdevices⟩ "b" (by decide))
  · exact htakes.failed ["/a"] [] "b" rfl (List.forall_mem_singleton.mpr hfirst) hbad

end SessionControl.Command
