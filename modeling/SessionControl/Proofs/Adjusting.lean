import SessionControl.Proofs.Asking

set_option autoImplicit false

/-! # Adjusting devices

A command that adjusts a device finds the device, makes one call for each of its attributes, and
prints the state of the device. `Adjustment` says what such a command has done over a service that
keeps devices, where any of its calls may have been rejected; and that nothing but a rejection stops
it, if it knows a device to speak to. -/

namespace SessionControl.Command

open Client (Action AudioSink Backlight BacklightTarget Fault Handle Inquiry Journal Service World)
open CommandLine (AudioChange)

variable {σ α : Type}

/-! ## Finding a device -/

/-- What is asked of the session where no device was named. -/
def searching (property : String) : Option String → List Bus.Call
  | some _ => []
  | none =>
    [deviceCall "/org/sessiond/session1" "org.freedesktop.DBus.Properties" "Get"
      [.string "org.sessiond.session1.Session", .string property]]

/-- The object is there, and the connection to speak to it. -/
def Reachable (w : World σ) (object : Option String) : Prop :=
  w.connection.phase ≠ .closed ∧
    ∃ path, object = some path ∧ Bus.ObjectPath.isValid path.toList = true

/-! ### Backlights -/

section FindBacklight

variable {s : Service} {settings : Settings} {name : Option String} {set : Option UInt32}
  {inc : Option Int32} {w : World σ}

/-- The backlight that is found is the one that the command is about. -/
theorem findBacklight_target (set : Option UInt32) (inc : Option Int32) {b : Backlight}
    (h : (findBacklight s (name <|> settings.backlight) w).1 = .ok b) :
    target s w settings (.backlight name set inc) = some b.handle.path.text ∧
      b.handle.interface = Attribute.brightness.interface := by
  unfold target
  simp only
  cases hname : name <|> settings.backlight with
  | some name =>
      rw [hname] at h
      have hmade : (BacklightTarget.named name).resolve s.timeout = .ok b :=
        settled_of_ok (Backlight.named_amountsTo name s.timeout) ⟨w, mapError_ok_iff.mp h⟩
      have hhandle := BacklightTarget.handle_of_resolve hmade
      refine ⟨?_, (Handle.interface_of_ofText hhandle).trans Client.interfaceName_backlight⟩
      rw [Handle.path_of_ofText hhandle]
      rfl
  | none =>
      rw [hname] at h
      obtain ⟨backlights, hlisted, hfirst, -⟩ := ok_of_bind h
      have hlisted := mapError_ok_iff.mp hlisted
      cases backlights with
      | nil => cases hfirst
      | cons b' bs =>
          cases hfirst
          have hmade : (BacklightTarget.atPath b.handle.path.text).resolve s.timeout = .ok b :=
            backlight_of_listed ⟨w, hlisted⟩ List.mem_cons_self
          have hhandle := BacklightTarget.handle_of_resolve hmade
          rw [hlisted]
          exact ⟨rfl, (Handle.interface_of_ofText hhandle).trans Client.interfaceName_backlight⟩

/-- A backlight that can be spoken to is found. -/
theorem findBacklight_ok {path : String}
    (hobject : target s w settings (.backlight name set inc) = some path)
    (hvalid : Bus.ObjectPath.isValid path.toList = true) :
    ∃ b, (findBacklight s (name <|> settings.backlight) w).1 = .ok b := by
  unfold target at hobject
  simp only at hobject
  cases hname : name <|> settings.backlight with
  | some name =>
      rw [hname] at hobject
      cases hobject
      obtain ⟨b, hmade, -⟩ := BacklightTarget.resolve_of_valid (.named name) hvalid s.timeout
      have hfound : (Backlight.named name s.timeout : Action σ Fault Backlight).AmountsTo
          (.settled (.ok b)) := hmade ▸ Backlight.named_amountsTo name s.timeout
      exact ⟨b, mapError_ok_iff.mpr (hfound.apply_of_settled w).1⟩
  | none =>
      rw [hname] at hobject
      simp only at hobject
      cases hlisted : (s.backlights w).1 with
      | error fault =>
          rw [hlisted] at hobject
          cases hobject
      | ok backlights =>
          rw [hlisted] at hobject
          cases backlights with
          | nil => cases hobject
          | cons b bs => exact ⟨b, ok_bind (mapError_ok_iff.mpr hlisted) rfl⟩

/-- The backlight that is used where none was named. -/
def firstBacklight : List Backlight → Except Trouble Backlight
  | b :: _ => .ok b
  | [] => .error { cause := .noBacklights }

theorem findBacklight_amountsTo (s : Service) :
    (findBacklight s none : Action σ Trouble Backlight).AmountsTo
      ((s.backlightsInquiry.mapError fun f =>
        { contexts := ["Could not list backlights"], cause := .fault f }).bind firstBacklight) :=
  (s.backlights_amountsTo.mapError _).bind rfl fun backlights => by
    cases backlights with
    | nil => exact .fail _
    | cons b bs => exact .done b

variable (s settings name set inc w) in
theorem findBacklight_converses :
    Converses (findBacklight s (name <|> settings.backlight)) w
      (searching "Backlights" (name <|> settings.backlight))
      ¬Reachable w (target s w settings (.backlight name set inc)) := by
  have hexcuse : ∀ trouble,
      (findBacklight s (name <|> settings.backlight) w).1 = .error trouble →
        ¬Reachable w (target s w settings (.backlight name set inc)) := by
    rintro trouble htrouble ⟨-, path, hobject, hvalid⟩
    obtain ⟨b, hb⟩ := findBacklight_ok hobject hvalid
    cases htrouble.symm.trans hb
  generalize target s w settings _ = object at hexcuse ⊢
  generalize (name <|> settings.backlight) = name' at hexcuse ⊢
  cases name' with
  | some name =>
      have hfind := (Backlight.named_amountsTo (σ := σ) name s.timeout).mapError fun f =>
        ({ cause := .fault f } : Trouble)
      exact .of_settled hfind w hexcuse
  | none =>
      exact .of_asks (findBacklight_amountsTo s) nofun w
        (fun hclosed hreachable => hreachable.1 hclosed) fun _ trouble _ => hexcuse trouble

variable (s settings name set inc) in
theorem findBacklight_ends {peer : Bus.Peer σ} (hpeer : w.connection.peer = peer) :
    Ends (findBacklight s (name <|> settings.backlight)) w fun b w' =>
      target s w settings (.backlight name set inc) = some b.handle.path.text ∧
        b.handle.interface = Attribute.brightness.interface ∧ w'.connection.peer = peer := by
  intro b hb
  obtain ⟨hobject, hinterface⟩ := findBacklight_target set inc hb
  refine ⟨hobject, hinterface, Eq.trans ?_ hpeer⟩
  exact (findBacklight_converses s settings name set inc w).peer rfl

end FindBacklight

/-! ### Audio sinks -/

section FindAudioSink

variable {s : Service} {settings : Settings} {id : Option String} {change : AudioChange}
  {w : World σ}

/-- The audio sink that is found is the one that the command is about. -/
theorem findAudioSink_target (change : AudioChange) {a : AudioSink}
    (h : (findAudioSink s (id <|> settings.audioSink) w).1 = .ok a) :
    target s w settings (.audioSink id change) = some a.handle.path.text ∧
      a.handle.interface = Attribute.volume.interface := by
  unfold target
  simp only
  cases hid : id <|> settings.audioSink with
  | some id =>
      rw [hid] at h
      have hmade : AudioSink.ofPath s.timeout ("/org/sessiond/session1/audiosink/" ++ id) = .ok a :=
        settled_of_ok (AudioSink.atPath_amountsTo _ s.timeout) ⟨w, mapError_ok_iff.mp h⟩
      have hhandle := AudioSink.handle_of_ofPath hmade
      rw [Handle.path_of_ofText hhandle]
      exact ⟨rfl, (Handle.interface_of_ofText hhandle).trans Client.interfaceName_audioSink⟩
  | none =>
      rw [hid] at h
      obtain ⟨sink, htold, hsink, -⟩ := ok_of_bind h
      have htold := mapError_ok_iff.mp htold
      cases sink with
      | none => cases hsink
      | some a' =>
          cases hsink
          have hhandle := AudioSink.handle_of_ofPath (audioSink_of_default ⟨w, htold⟩)
          rw [htold]
          exact ⟨rfl, (Handle.interface_of_ofText hhandle).trans Client.interfaceName_audioSink⟩

/-- An audio sink that can be spoken to is found. -/
theorem findAudioSink_ok {path : String}
    (hobject : target s w settings (.audioSink id change) = some path)
    (hvalid : Bus.ObjectPath.isValid path.toList = true) :
    ∃ a, (findAudioSink s (id <|> settings.audioSink) w).1 = .ok a := by
  unfold target at hobject
  simp only at hobject
  cases hid : id <|> settings.audioSink with
  | some id =>
      rw [hid] at hobject
      cases hobject
      obtain ⟨a, hmade, -⟩ := AudioSink.ofPath_of_valid _ hvalid s.timeout
      have hfound : (s.audioSink (.name id) : Action σ Fault AudioSink).AmountsTo
          (.settled (.ok a)) := hmade ▸ AudioSink.atPath_amountsTo _ s.timeout
      exact ⟨a, mapError_ok_iff.mpr (hfound.apply_of_settled w).1⟩
  | none =>
      rw [hid] at hobject
      simp only at hobject
      cases htold : (s.defaultAudioSink w).1 with
      | error fault =>
          rw [htold] at hobject
          cases hobject
      | ok sink =>
          rw [htold] at hobject
          cases sink with
          | none => cases hobject
          | some a => exact ⟨a, ok_bind (mapError_ok_iff.mpr htold) rfl⟩

/-- The audio sink that is used where none was named, if the service has a default one. -/
def defaultSink : Option AudioSink → Except Trouble AudioSink
  | some a => .ok a
  | none => .error { cause := .noDefaultSink }

theorem findAudioSink_amountsTo (s : Service) :
    (findAudioSink s none : Action σ Trouble AudioSink).AmountsTo
      ((s.defaultAudioSinkInquiry.mapError fun f =>
        { contexts := ["Could not find default audio sink"], cause := .fault f }).bind
          defaultSink) :=
  (s.defaultAudioSink_amountsTo.mapError _).bind rfl fun sink => by
    cases sink with
    | none => exact .fail _
    | some a => exact .done a

variable (s settings id change w) in
theorem findAudioSink_converses :
    Converses (findAudioSink s (id <|> settings.audioSink)) w
      (searching "DefaultAudioSink" (id <|> settings.audioSink))
      ¬Reachable w (target s w settings (.audioSink id change)) := by
  have hexcuse : ∀ trouble,
      (findAudioSink s (id <|> settings.audioSink) w).1 = .error trouble →
        ¬Reachable w (target s w settings (.audioSink id change)) := by
    rintro trouble htrouble ⟨-, path, hobject, hvalid⟩
    obtain ⟨a, ha⟩ := findAudioSink_ok hobject hvalid
    cases htrouble.symm.trans ha
  generalize target s w settings _ = object at hexcuse ⊢
  generalize (id <|> settings.audioSink) = id' at hexcuse ⊢
  cases id' with
  | some id =>
      have hfind := (AudioSink.atPath_amountsTo (σ := σ)
        (AudioSink.pathText (.name id)) s.timeout).mapError fun f =>
          ({ cause := .fault f } : Trouble)
      exact .of_settled hfind w hexcuse
  | none =>
      refine .of_asks (findAudioSink_amountsTo s) (fun failure a h => ?_) w
        (fun hclosed hreachable => hreachable.1 hclosed) fun _ trouble _ => hexcuse trouble
      -- a service without audio sinks rejects the call too, and then there is none to be found
      have hforgiven : Handle.forgive (α := String) (.error (.callFailed failure)) =
          if (Fault.callFailed failure).isUnknownProperty then .ok none
          else .error (.callFailed failure) := rfl
      change ((((Handle.forgive (.error (.callFailed failure))).bind
        (Service.sinkOfDefault s.timeout)).mapError _).bind defaultSink) = .ok a at h
      rw [hforgiven] at h
      split at h
      · cases h
      · cases h

variable (s settings id change) in
theorem findAudioSink_ends {peer : Bus.Peer σ} (hpeer : w.connection.peer = peer) :
    Ends (findAudioSink s (id <|> settings.audioSink)) w fun a w' =>
      target s w settings (.audioSink id change) = some a.handle.path.text ∧
        a.handle.interface = Attribute.volume.interface ∧ w'.connection.peer = peer := by
  intro a ha
  obtain ⟨hobject, hinterface⟩ := findAudioSink_target change ha
  refine ⟨hobject, hinterface, Eq.trans ?_ hpeer⟩
  exact (findAudioSink_converses s settings id change w).peer rfl

end FindAudioSink

/-! ## Commands that adjust -/

/-- What a command asks for, attribute by attribute. -/
def wanted : CommandLine.Command → (a : Attribute) → Option (Ask a)
  | .backlight _ set inc, .brightness => some (brightnessAsk set inc)
  | .audioSink _ change, .volume => some (volumeAsk change.set change.inc)
  | .audioSink _ change, .mute => some (muteAsk change.mute change.toggleMute)
  | _, _ => none

/-- The calls that a command makes to the device at a path. -/
def adjusting (command : CommandLine.Command) (path : String) : List Bus.Call :=
  [.brightness, .volume, .mute].filterMap fun a => (wanted command a).map (·.call path)

/-- The calls that ask for the device of a command. -/
def finding (settings : Settings) : CommandLine.Command → List Bus.Call
  | .backlight name _ _ => searching "Backlights" (name <|> settings.backlight)
  | .audioSink id _ => searching "DefaultAudioSink" (id <|> settings.audioSink)
  | _ => []

/-- All calls of a command about an object, which may be missing. -/
def plan (settings : Settings) (command : CommandLine.Command) (object : Option String) :
    List Bus.Call :=
  finding settings command ++ (object.map (adjusting command)).getD []

/-- The brightness of a backlight, or the volume and mute state of an audio sink, as a line. -/
def stateText (d : Devices) (path : String) : CommandLine.Command → String
  | .backlight _ _ _ => Decimal.natText (UInt32.toNat (d.stored .brightness path))
  | .audioSink _ _ => volumeText (d.stored .volume path) (d.stored .mute path)
  | _ => ""

/-- The command asks to set a volume and to change it as well. -/
def contradictory : CommandLine.Command → Bool
  | .audioSink _ change => change.set.isSome && change.inc.isSome
  | _ => false

/-- The command asks to change the attribute. -/
def changes (command : CommandLine.Command) (a : Attribute) : Bool :=
  (wanted command a).any Ask.changes

theorem mutating_searching (property : String) (name : Option String) :
    mutating (searching property name) = [] := by
  cases name <;> rfl

theorem mutating_finding (settings : Settings) (command : CommandLine.Command) :
    mutating (finding settings command) = [] := by
  cases command with
  | backlight name set inc => exact mutating_searching _ _
  | audioSink id change => exact mutating_searching _ _
  | _ => rfl

section Planned

variable {settings : Settings} {command : CommandLine.Command} {object : Option String}
  {agreed : List Bus.Call}

/-- The changes in a plan are changes that the command asks for, of the object that it is about. -/
theorem wanted_of_mem {call : Bus.Call} (hcall : call ∈ plan settings command object)
    (hmutating : isMutating call = true) :
    ∃ path a, ∃ ask : Ask a, object = some path ∧ wanted command a = some ask ∧
      call = ask.call path := by
  rcases List.mem_append.mp hcall with hfinding | hadjusting
  · have hfinding : call ∈ mutating (finding settings command) :=
      List.mem_filter.mpr ⟨hfinding, hmutating⟩
    rw [mutating_finding] at hfinding
    cases hfinding
  · cases object with
    | none => cases hadjusting
    | some path =>
        obtain ⟨a, -, ha⟩ := List.mem_filterMap.mp hadjusting
        obtain ⟨ask, hask, rfl⟩ := Option.map_eq_some_iff.mp ha
        exact ⟨path, a, ask, rfl, hask, rfl⟩

theorem adjusts_of_planned (hplanned : agreed ⊆ plan settings command object) :
    ∀ call ∈ mutating agreed, Adjusts call := by
  intro call hcall
  obtain ⟨hmem, hmutating⟩ := List.mem_filter.mp hcall
  obtain ⟨path, a, ask, -, -, rfl⟩ := wanted_of_mem (hplanned hmem) hmutating
  exact Ask.adjusts hmutating

/-- The planned changes leave everything as it is that the command does not ask to change. -/
theorem others_of_planned (hplanned : agreed ⊆ plan settings command object) {rule : Rule}
    {d d' : Devices} (happlied : Applied rule (mutating agreed) d d') (a : Attribute)
    (path : String) (hnot : ¬(object = some path ∧ changes command a = true)) :
    d'.stored a path = d.stored a path := by
  refine happlied.other fun call hcall htouches => hnot ?_
  obtain ⟨hmem, hmutating⟩ := List.mem_filter.mp hcall
  obtain ⟨path', a', ask, hobject, hask, rfl⟩ := wanted_of_mem (hplanned hmem) hmutating
  obtain ⟨rfl, rfl, hchanges⟩ := Ask.eq_of_touches htouches
  refine ⟨hobject, ?_⟩
  rw [changes, hask]
  exact hchanges

end Planned

/-! ### Backlights -/

/-- The backlight command without its printing. -/
def adjustedBrightness (s : Service) (name : Option String) (set : Option UInt32)
    (inc : Option Int32) : Action σ Trouble UInt64 := do
  let b ← findBacklight s name
  Action.log .debug ("Using backlight " ++ b.handle.path.text)
  adjustBrightness b set inc

theorem backlight_eq_print (s : Service) (name : Option String) (set : Option UInt32)
    (inc : Option Int32) :
    (backlight s name set inc : Action σ Trouble Unit) = adjustedBrightness s name set inc >>=
      fun v => Action.printLine (Decimal.natText v.toNat) := by
  simp only [backlight, adjustedBrightness, Action.bind_assoc]

section Brightness

variable (s : Service) (settings : Settings) (name : Option String) (set : Option UInt32)
  (inc : Option Int32)

theorem adjustedBrightness_converses {rule : Rule} {peer : Bus.Peer σ} {devices : σ → Devices}
    (hkeeps : Keeps rule peer devices) {w : World σ} (hpeer : w.connection.peer = peer) :
    Converses (adjustedBrightness s (name <|> settings.backlight) set inc) w
      (plan settings (.backlight name set inc) (target s w settings (.backlight name set inc)))
      ¬Reachable w (target s w settings (.backlight name set inc)) := by
  have hfind := findBacklight_converses s settings name set inc w
  refine hfind.bind fun b w₁ hb => ?_
  obtain ⟨hobject, hinterface⟩ := findBacklight_target set inc (congrArg Prod.fst hb)
  have hpeer₁ := (hfind.peer hb).trans hpeer
  rw [hobject] at hfind ⊢
  refine Converses.log_bind _ fun w₂ hw => ?_
  refine (adjustBrightness_settles hinterface set inc).converses hkeeps (hw ▸ hpeer₁) ?_
  exact fun hclosed hreachable => hreachable.1 (hfind.phase hb (hw ▸ hclosed))

/-- The brightness that comes out is the one that is stored. -/
theorem adjustedBrightness_ends {rule : Rule} {peer : Bus.Peer σ} {devices : σ → Devices}
    (hkeeps : Keeps rule peer devices) {w : World σ} (hpeer : w.connection.peer = peer) :
    Ends (adjustedBrightness s (name <|> settings.backlight) set inc) w fun v w' =>
      ∃ path, target s w settings (.backlight name set inc) = some path ∧
        v = UInt32.toUInt64 ((devices w'.connection.state).stored .brightness path) := by
  refine .bind (findBacklight_ends s settings name set inc hpeer) ?_
  rintro b w₁ ⟨hobject, hinterface, hpeer₁⟩
  refine .bind (.log _ w₁) fun _ w₂ hw => ?_
  refine ((adjustBrightness_settles hinterface set inc).ends hkeeps (hw ▸ hpeer₁)).imp ?_
  rintro v w₃ ⟨hvalue, -, -⟩
  exact ⟨_, hobject, hvalue⟩

end Brightness

/-! ### Audio sinks -/

/-- The audio sink command without its printing. -/
def adjustedSink (s : Service) (id : Option String) (change : AudioChange) :
    Action σ Trouble (Binary64 × Bool) := do
  let a ← findAudioSink s id
  Action.log .debug ("Using audio sink " ++ a.handle.path.text)
  if change.set.isSome && change.inc.isSome then giveUp .setAndChange
  else
    let volume ← adjustVolume a change.set change.inc
    let mute ← adjustMute a change.mute change.toggleMute
    return (volume, mute)

theorem audioSink_eq_print (s : Service) (id : Option String) (change : AudioChange) :
    (audioSink s id change : Action σ Trouble Unit) =
      adjustedSink s id change >>= fun v => Action.printLine (volumeText v.1 v.2) := by
  simp only [audioSink, adjustedSink, Action.bind_assoc]
  congr 1
  funext a
  congr 1
  funext _
  split
  · rfl
  · simp only [Action.bind_assoc]
    rfl

section Sink

variable (s : Service) (settings : Settings) (id : Option String) (change : AudioChange)

theorem adjustedSink_converses {rule : Rule} {peer : Bus.Peer σ} {devices : σ → Devices}
    (hkeeps : Keeps rule peer devices) {w : World σ} (hpeer : w.connection.peer = peer) :
    Converses (adjustedSink s (id <|> settings.audioSink) change) w
      (plan settings (.audioSink id change) (target s w settings (.audioSink id change)))
      ¬(Reachable w (target s w settings (.audioSink id change)) ∧
        contradictory (.audioSink id change) = false) := by
  have hfind := findAudioSink_converses s settings id change w
  refine (hfind.imp fun hexcuse hboth => hexcuse hboth.1).bind fun a w₁ ha => ?_
  obtain ⟨hobject, hinterface⟩ := findAudioSink_target change (congrArg Prod.fst ha)
  have hpeer₁ := (hfind.peer ha).trans hpeer
  have hopen : w₁.connection.phase = .closed →
      ¬(Reachable w (target s w settings (.audioSink id change)) ∧
        contradictory (.audioSink id change) = false) :=
    fun hclosed hboth => hboth.1.1 (hfind.phase ha hclosed)
  rw [hobject] at hopen ⊢
  refine Converses.log_bind _ fun w₂ hw => ?_
  rw [← hw] at hpeer₁ hopen
  split
  · next hboth => exact .giveUp _ _ _ fun hnot => by cases hboth.symm.trans hnot.2
  · have hvolume := (adjustVolume_settles hinterface change.set change.inc).converses hkeeps
      hpeer₁ hopen
    refine hvolume.bind fun volume w₃ hv => ?_
    have hmute := (adjustMute_settles hinterface change.mute change.toggleMute).converses hkeeps
      ((hvolume.peer hv).trans hpeer₁) fun hclosed => hopen (hvolume.phase hv hclosed)
    exact hmute.bind fun mute w₄ _ => .done _ w₄

/-- The volume and the mute state that come out are those that are stored. The mute state is
    adjusted last, which leaves the volume as it is. -/
theorem adjustedSink_ends {rule : Rule} {peer : Bus.Peer σ} {devices : σ → Devices}
    (hkeeps : Keeps rule peer devices) {w : World σ} (hpeer : w.connection.peer = peer) :
    Ends (adjustedSink s (id <|> settings.audioSink) change) w fun v w' =>
      ∃ path, target s w settings (.audioSink id change) = some path ∧
        v = ((devices w'.connection.state).stored .volume path,
          (devices w'.connection.state).stored .mute path) := by
  refine .bind (findAudioSink_ends s settings id change hpeer) ?_
  rintro a w₁ ⟨hobject, hinterface, hpeer₁⟩
  refine .bind (.log _ w₁) fun _ w₂ hw => ?_
  split
  · exact nofun
  · refine .bind ((adjustVolume_settles hinterface change.set change.inc).ends hkeeps
      (hw ▸ hpeer₁)) ?_
    rintro volume w₃ ⟨hvolume, hpeer₃, -⟩
    refine .bind ((adjustMute_settles hinterface change.mute change.toggleMute).ends hkeeps
      hpeer₃) ?_
    rintro mute w₄ ⟨hmute, -, hothers⟩
    refine .pure ⟨_, hobject, Prod.ext ?_ hmute⟩
    exact hvolume.trans (hothers .volume _ nofun).symm

end Sink

/-! ## Adjustments -/

/-- What a command has done that adjusts an object: it made the planned calls up to the first that
    was rejected, the service having agreed to the others. -/
structure Adjustment (rule : Rule) (devices : σ → Devices) (settings : Settings)
    (command : CommandLine.Command) (object : Option String) (w : World σ)
    (x : Except Trouble Exit × World σ) (agreed : List Bus.Call) (rejected : Option Bus.Call) :
    Prop where
  planned : agreed ++ rejected.toList <+: plan settings command object
  agreement : Agreed w.connection agreed
  /-- A call that is rejected makes the command fail. -/
  rejection : ∀ call ∈ rejected,
    (∃ failure, ((afterCalls w.connection agreed).exchange call).1 = .error failure) ∧
      (Finish.ofResult x.1).exitCode = 1
  /-- Exactly the changes before it are applied. -/
  applied : Applied rule (mutating agreed) (devices w.connection.state)
    (devices x.2.connection.state)
  /-- A command that fails prints nothing. -/
  failed : (Finish.ofResult x.1).exitCode ≠ 0 →
    x.2.journal.deeds = w.journal.deeds ++ (agreed ++ rejected.toList).map .called
  /-- One that ends well has done all that was planned, and prints what is stored then. -/
  told : (Finish.ofResult x.1).exitCode = 0 →
    agreed = plan settings command object ∧ rejected = none ∧ ∃ path, object = some path ∧
      x.2.journal.deeds = w.journal.deeds ++ agreed.map .called ++
        [.printed (stateText (devices x.2.connection.state) path command ++ "\n")]
  /-- It ends well where it can, if no call is rejected. -/
  ended : rejected = none → Reachable w object → contradictory command = false →
    (Finish.ofResult x.1).exitCode = 0
  /-- What the command does not ask to change stays as it is. -/
  others : ∀ a path, ¬(object = some path ∧ changes command a = true) →
    (devices x.2.connection.state).stored a path = (devices w.connection.state).stored a path

theorem Conversed.applied {rule : Rule} {peer : Bus.Peer σ} {devices : σ → Devices}
    (hkeeps : Keeps rule peer devices) {w w' : World σ} (hpeer : w.connection.peer = peer)
    {agreed : List Bus.Call} {rejected : Option Bus.Call} (h : Conversed w w' agreed rejected)
    (hcalls : ∀ call ∈ mutating agreed, Adjusts call) :
    Applied rule (mutating agreed) (devices w.connection.state) (devices w'.connection.state) := by
  have happlied := hkeeps.applied hpeer h.agreement hcalls
  cases rejected with
  | none =>
      rw [h.connection, Option.toList_none, List.append_nil]
      exact happlied
  | some call =>
      obtain ⟨failure, herror⟩ := h.rejection call rfl
      have hsame := hkeeps.unchanged_of_error ((afterCalls_peer _ _).trans hpeer) herror
      rw [h.connection, Option.toList_some, afterCalls_append]
      exact hsame ▸ happlied

/-- A command that makes the planned calls, and then prints what is stored, is an adjustment. -/
theorem adjustment_of_converses {rule : Rule} {peer : Bus.Peer σ} {devices : σ → Devices}
    (hkeeps : Keeps rule peer devices) {settings : Settings} {command : CommandLine.Command}
    {object : Option String} {w : World σ} (hpeer : w.connection.peer = peer)
    {x : Action σ Trouble α} {line : α → String}
    (hconverses : Converses x w (plan settings command object)
      ¬(Reachable w object ∧ contradictory command = false))
    (hends : Ends x w fun v w' => ∃ path, object = some path ∧
      line v = stateText (devices w'.connection.state) path command) :
    ∃ agreed rejected, Adjustment rule devices settings command object w
      (quietly (x >>= fun v => Action.printLine (line v)) w) agreed rejected := by
  obtain ⟨agreed, rejected, hconversed, hplanned, hfinished, hexcused⟩ := hconverses
  have hagreed : agreed ⊆ plan settings command object := fun call hcall =>
    hplanned.subset (List.mem_append_left _ hcall)
  have happlied := hconversed.applied hkeeps hpeer (adjusts_of_planned hagreed)
  have hothers := others_of_planned hagreed happlied
  refine ⟨agreed, rejected, ?_⟩
  -- what is left is to follow the action to its end, where printing changes only the journal
  unfold Ends at hends
  unfold quietly
  rw [Action.bind_apply, Action.bind_apply]
  generalize x w = y at hconversed hfinished hexcused hends happlied hothers ⊢
  obtain ⟨result, w'⟩ := y
  cases result with
  | error trouble =>
      exact
        { planned := hplanned
          agreement := hconversed.agreement
          rejection := fun call hcall => ⟨hconversed.rejection call hcall, rfl⟩
          applied := happlied
          failed := fun _ => hconversed.deeds
          told := nofun
          ended := fun hnone hreachable hcontradictory =>
            absurd ⟨hreachable, hcontradictory⟩ (hexcused trouble rfl hnone)
          others := hothers }
  | ok v =>
      obtain ⟨rfl, rfl⟩ := hfinished v rfl
      obtain ⟨path, hobject, hline⟩ := hends v rfl
      refine
        { planned := hplanned
          agreement := hconversed.agreement
          rejection := nofun
          applied := happlied
          failed := fun hcode => absurd rfl hcode
          told := fun _ => ⟨rfl, rfl, path, hobject, ?_⟩
          ended := fun _ _ _ => rfl
          others := hothers }
      show Journal.deeds (w'.journal ++ _) = _
      rw [Journal.deeds_append, hconversed.deeds, hline, Option.toList_none, List.append_nil]
      rfl

/-- The command adjusts a device. -/
def isAdjustment : CommandLine.Command → Bool
  | .backlight _ _ _ | .audioSink _ _ => true
  | _ => false

/-- What a command prints that adjusts a device is the state of the device afterwards. -/
theorem perform_adjustment {rule : Rule} {devices : σ → Devices} {w : World σ}
    (hkeeps : Keeps rule w.connection.peer devices) (env : Environment) (settings : Settings)
    (s : Service) {command : CommandLine.Command} (hcommand : isAdjustment command = true) :
    ∃ agreed rejected, Adjustment rule devices settings command (target s w settings command) w
      (perform env settings s command w) agreed rejected := by
  cases command with
  | backlight name set inc =>
      show ∃ agreed rejected, Adjustment _ _ _ _ _ _
        (quietly (backlight s (name <|> settings.backlight) set inc) w) agreed rejected
      rw [backlight_eq_print]
      refine adjustment_of_converses hkeeps rfl
        ((adjustedBrightness_converses s settings name set inc hkeeps rfl).imp
          fun hexcuse hboth => hexcuse hboth.1)
        ((adjustedBrightness_ends s settings name set inc hkeeps rfl).imp ?_)
      rintro v w' ⟨path, hobject, rfl⟩
      exact ⟨path, hobject, congrArg Decimal.natText (UInt32.toNat_toUInt64 _)⟩
  | audioSink id change =>
      show ∃ agreed rejected, Adjustment _ _ _ _ _ _
        (quietly (audioSink s (id <|> settings.audioSink) change) w) agreed rejected
      rw [audioSink_eq_print]
      refine adjustment_of_converses hkeeps rfl
        (adjustedSink_converses s settings id change hkeeps rfl)
        ((adjustedSink_ends s settings id change hkeeps rfl).imp ?_)
      rintro v w' ⟨path, hobject, rfl⟩
      exact ⟨path, hobject, rfl⟩
  | _ => cases hcommand

/-- A volume is set and a mute state toggled. -/
theorem perform_adjustment_toggled :
    let env : Environment :=
      { readText := fun _ => .error .notText
        hasPath := fun _ => false
        usualSettings := none
        runProgram := fun _ => .notStarted .notFound
        rejection := none }
    let command : CommandLine.Command :=
      .audioSink (some "3") { set := some ⟨0x3fd0000000000000⟩, toggleMute := true }
    let w : World Devices := { connection := .fresh Keeper.peer ⟨fun
      | .brightness, _ => (7 : UInt32)
      | .volume, _ => (⟨0⟩ : Binary64)
      | .mute, _ => false⟩ }
    let x := perform env {} {} command w
    let after := x.2.connection.state
    Keeps Keeper.rule w.connection.peer id ∧ isAdjustment command = true ∧
      (Finish.ofResult x.1).exitCode = 0 ∧
      after.stored .volume "/org/sessiond/session1/audiosink/3" =
        (⟨0x3fd0000000000000⟩ : Binary64) ∧
      after.stored .mute "/org/sessiond/session1/audiosink/3" = true ∧
      ∃ agreed rejected, Adjustment Keeper.rule id {} command (target {} w {} command) w x agreed
        rejected := by
  intro env command w x after
  exact ⟨Keeper.keeps, rfl, by rfl, by rfl, by rfl,
    perform_adjustment (w := w) Keeper.keeps env {} {} (by rfl)⟩

end SessionControl.Command
