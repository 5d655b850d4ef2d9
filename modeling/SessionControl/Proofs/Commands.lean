import SessionControl.Command.Run
import SessionControl.Proofs.Scripts

set_option autoImplicit false

/-! # The script of every command

Which operations each command performs, in which order, and where it gives up (`script`). Every
command follows its script (`perform_follows`); only watching the session goes on without a call
when its script has ended. -/

namespace SessionControl.Command

open Client (Action AudioSink AudioSinkOperation AudioSinkTarget Backlight BacklightOperation
  BacklightTarget Handle Inquiry Notice Operation Outcome Service Session SessionOperation World)
open CommandLine (AudioChange)

variable {σ α β : Type}

/-! ## Scripts -/

/-- The paths of the objects that an outcome tells. -/
def paths : Outcome → List String
  | .handle h => [h.path]
  | .handles hs => hs.map (·.path)
  | .optionalHandle h => h.toList.map (·.path)
  | _ => []

/-- Operations of the session whose outcomes decide nothing. -/
def sessionOps (ops : List SessionOperation) : Script := .ops (ops.map .onSession)

/-- What is read of the backlight at a path to show it. -/
def showBacklightScript (path : String) : Script :=
  .ops [.onBacklight (.atPath path) .brightness, .onBacklight (.atPath path) .maxBrightness]

/-- What is read of the audio sink at a path to show it. -/
def showSinkScript (path : String) : Script :=
  .ops [.onAudioSink (.atPath path) .id, .onAudioSink (.atPath path) .name,
    .onAudioSink (.atPath path) .volume, .onAudioSink (.atPath path) .mute]

/-- What is read to show the audio sinks at several paths. The default one is asked for only if
    there are any. -/
def showSinksScript : List String → Script
  | [] => .stop
  | ps => .perform (.onSession .defaultAudioSink) fun _ => .each showSinkScript ps

/-- What is read to show the status of the session and its devices. -/
def statusScript : Script :=
  (sessionOps [.version, .lockedHint, .idleHint, .idleSinceHint, .idleSinceHintMonotonic,
    .inhibitedHint, .listInhibitors]).andThen
  (.perform (.onService .backlights) fun backlights =>
    (Script.each showBacklightScript (paths backlights)).andThen
      (.perform (.onService .audioSinks) fun sinks => showSinksScript (paths sinks)))

/-- What is read to show properties. -/
def propertiesScript : Option String → Option String → Script
  | some name, _ =>
    .ops [.onService (.backlight name), .onBacklight (.named name) (.object .getProperties)]
  | none, some id =>
    .ops [.onService (.audioSink (.name id)),
      .onAudioSink (.identified (.name id)) (.object .getProperties)]
  | none, none => sessionOps [.object .getProperties]

/-- The operation that changes or reads the brightness of a backlight. -/
def brightnessOp : Option UInt32 → Option Int32 → BacklightOperation
  | some v, _ => .setBrightness v
  | none, some v => .incBrightness v
  | none, none => .brightness

/-- An operation on the backlight with a name, or else on the first one. -/
def backlightScript (name : Option String) (op : BacklightOperation) : Script :=
  match name with
  | some name => .ops [.onService (.backlight name), .onBacklight (.named name) op]
  | none =>
    .perform (.onService .backlights) fun backlights =>
      match paths backlights with
      | path :: _ => .ops [.onBacklight (.atPath path) op]
      | [] => .giveUp

/-- The operation that changes or reads the volume of an audio sink. -/
def volumeOp : Option Binary64 → Option Binary64 → AudioSinkOperation
  | some v, _ => .setVolume v
  | none, some v => .incVolume v
  | none, none => .volume

/-- The operation that changes or reads the mute state of an audio sink. -/
def muteOp : Option Bool → Bool → AudioSinkOperation
  | some m, _ => .setMute m
  | none, true => .toggleMute
  | none, false => .mute

/-- The operations on an audio sink. Two changes of the volume contradict each other. -/
def changeScript (target : AudioSinkTarget) (change : AudioChange) : Script :=
  if change.set.isSome && change.inc.isSome then .giveUp
  else .ops [.onAudioSink target (volumeOp change.set change.inc),
    .onAudioSink target (muteOp change.mute change.toggleMute)]

/-- The operations on the audio sink with an identifier, or else on the default one. -/
def audioSinkScript (id : Option String) (change : AudioChange) : Script :=
  match id with
  | some id =>
    .perform (.onService (.audioSink (.name id))) fun _ =>
      changeScript (.identified (.name id)) change
  | none =>
    .perform (.onService .defaultAudioSink) fun sink =>
      match paths sink with
      | path :: _ => changeScript (.atPath path) change
      | [] => .giveUp

/-- The script of a command. Of an inhibitor only the adding is told. -/
def script (settings : Settings) : CommandLine.Command → Script
  | .status => statusScript
  | .properties backlight audioSink => propertiesScript backlight audioSink
  | .lock => sessionOps [.lock]
  | .unlock => sessionOps [.unlock]
  | .inhibit who why words =>
    sessionOps [.inhibit (who.getD settings.who) (why.getD (" ".intercalate words))]
  | .uninhibit id => sessionOps [.uninhibit id]
  | .stopInhibitors => sessionOps [.stopInhibitors]
  | .listInhibitors => sessionOps [.listInhibitors]
  | .backlight name set inc => backlightScript (name <|> settings.backlight) (brightnessOp set inc)
  | .audioSink id change => audioSinkScript (id <|> settings.audioSink) change
  | .monitor => .each (fun n => sessionOps [.watch n n.member]) Notice.ofSession
  | .version => sessionOps [.version]

/-! ## Handles made anew -/

theorem inquiry_onBacklight {s : Service} (target : BacklightTarget) {b : Backlight}
    (h : target.resolve s.timeout = .ok b) (op : BacklightOperation) :
    (Operation.onBacklight target op).inquiry s = op.inquiry b := by
  show Inquiry.given (target.resolve s.timeout) _ = _
  rw [h]
  rfl

theorem inquiry_onAudioSink {s : Service} (target : AudioSinkTarget) {a : AudioSink}
    (h : AudioSink.ofPath s.timeout target.pathText = .ok a) (op : AudioSinkOperation) :
    (Operation.onAudioSink target op).inquiry s = op.inquiry a := by
  show Inquiry.given (AudioSink.ofPath s.timeout target.pathText) _ = _
  rw [h]
  rfl

theorem settled_of_ok {ε : Type} {x : Action σ ε α} {r : Except ε α} {a : α}
    (hx : x.AmountsTo (.settled r)) (h : ∃ w, (x w).1 = .ok a) : r = .ok a := by
  obtain ⟨w, hw⟩ := h
  rw [← hw, (hx.apply_of_settled w).1]

/-- What a further reading has led to comes from it. -/
theorem read_of_ok {ε : Type} {x : Action σ ε β} {q : Inquiry ε α} {f : α → Except ε β} {b : β}
    (hx : x.AmountsTo (q.bind f)) (h : ∃ w, (x w).1 = .ok b) : ∃ a, f a = .ok b := by
  obtain ⟨w, hw⟩ := h
  rw [(hx w w (.refl w)).1] at hw
  cases q with
  | settled r =>
      have hr : r.bind f = .ok b := by
        change (Action.ofExcept (r.bind f) w).1 = .ok b at hw
        revert hw
        cases r.bind f <;> exact id
      obtain ⟨a, -, ha⟩ := Client.ok_of_bind_ok hr
      exact ⟨a, ha⟩
  | asks call read callback =>
      obtain ⟨a, -, ha⟩ := Client.ok_of_bind_ok hw
      exact ⟨a, ha⟩

theorem mem_of_mapM_ok {ε : Type} {f : α → Except ε β} {as : List α} {bs : List β}
    (h : as.mapM f = .ok bs) {b : β} (hb : b ∈ bs) : ∃ a, f a = .ok b := by
  induction as generalizing bs with
  | nil =>
      cases h
      cases hb
  | cons a as ih =>
      rw [List.mapM_cons] at h
      obtain ⟨b', hfa, h⟩ := Client.ok_of_bind_ok h
      obtain ⟨bs', hrest, h⟩ := Client.ok_of_bind_ok h
      cases h
      rcases List.mem_cons.mp hb with rfl | hb
      · exact ⟨a, hfa⟩
      · exact ih hrest hb

theorem backlight_ofPath_path {timeout : Nat} {path : String} {b : Backlight}
    (h : Backlight.ofPath timeout path = .ok b) :
    Backlight.ofPath timeout b.handle.path.text = .ok b := by
  have hresolve : (BacklightTarget.atPath path).resolve timeout = .ok b := h
  rw [Handle.path_of_ofText (BacklightTarget.handle_of_resolve hresolve)]
  exact h

theorem audioSink_ofPath_path {timeout : Nat} {path : String} {a : AudioSink}
    (h : AudioSink.ofPath timeout path = .ok a) :
    AudioSink.ofPath timeout a.handle.path.text = .ok a := by
  rw [Handle.path_of_ofText (AudioSink.handle_of_ofPath h)]
  exact h

/-- A backlight that the service has told can be made anew from its path. -/
theorem backlight_of_listed {s : Service} {bs : List Backlight}
    (h : ∃ w : World σ, (s.backlights w).1 = .ok bs) {b : Backlight} (hb : b ∈ bs) :
    Backlight.ofPath s.timeout b.handle.path.text = .ok b := by
  obtain ⟨ps, hps⟩ := read_of_ok s.backlights_amountsTo h
  obtain ⟨path, hpath⟩ := mem_of_mapM_ok hps hb
  exact backlight_ofPath_path hpath

/-- An audio sink that the service has told can be made anew from its path. -/
theorem audioSink_of_listed {s : Service} {as : List AudioSink}
    (h : ∃ w : World σ, (s.audioSinks w).1 = .ok as) {a : AudioSink} (ha : a ∈ as) :
    AudioSink.ofPath s.timeout a.handle.path.text = .ok a := by
  obtain ⟨ps, hps⟩ := read_of_ok s.audioSinks_amountsTo h
  obtain ⟨path, hpath⟩ := mem_of_mapM_ok hps ha
  exact audioSink_ofPath_path hpath

theorem audioSink_of_default {s : Service} {a : AudioSink}
    (h : ∃ w : World σ, (s.defaultAudioSink w).1 = .ok (some a)) :
    AudioSink.ofPath s.timeout a.handle.path.text = .ok a := by
  obtain ⟨path?, hpath⟩ := read_of_ok s.defaultAudioSink_amountsTo h
  unfold Service.sinkOfDefault at hpath
  split at hpath
  · cases hpath
  · split at hpath
    · cases hpath
    · obtain ⟨a', hmade, ha'⟩ := Client.ok_of_bind_ok hpath
      cases ha'
      exact audioSink_ofPath_path hmade

/-! ## Showing -/

theorem showBacklight_follows {s : Service} {b : Backlight}
    (h : Backlight.ofPath s.timeout b.handle.path.text = .ok b) :
    Follows s (showBacklight b : Action σ Trouble Unit)
      (showBacklightScript b.handle.path.text) := by
  have hop := fun op => inquiry_onBacklight (.atPath b.handle.path.text) h op
  refine .perform (Handle.property_amountsTo _ _ _) (hop .brightness) fun _ _ => ?_
  refine .perform (Handle.property_amountsTo _ _ _) (hop .maxBrightness) fun _ _ => ?_
  exact .printLine _

theorem showSink_follows {s : Service} {a : AudioSink} (default : Option String)
    (h : AudioSink.ofPath s.timeout a.handle.path.text = .ok a) :
    Follows s (showSink default a : Action σ Trouble Unit)
      (showSinkScript a.handle.path.text) := by
  have hop := fun op => inquiry_onAudioSink (.atPath a.handle.path.text) h op
  refine .perform (Handle.property_amountsTo _ _ _) (hop .id) fun _ _ => ?_
  refine .perform (Handle.property_amountsTo _ _ _) (hop .name) fun _ _ => ?_
  refine .perform (Handle.property_amountsTo _ _ _) (hop .volume) fun _ _ => ?_
  refine .perform (Handle.property_amountsTo _ _ _) (hop .mute) fun _ _ => ?_
  exact .printLine _

theorem readOverview_follows (s : Service) :
    Follows s (readOverview (.ofTimeout s.timeout) : Action σ Trouble Overview)
      (sessionOps [.version, .lockedHint, .idleHint, .idleSinceHint, .idleSinceHintMonotonic,
        .inhibitedHint, .listInhibitors]) := by
  refine .perform (Handle.property_amountsTo _ _ _) rfl fun _ _ => ?_
  refine .perform (Handle.property_amountsTo _ _ _) rfl fun _ _ => ?_
  refine .perform (Handle.property_amountsTo _ _ _) rfl fun _ _ => ?_
  refine .perform (Handle.property_amountsTo _ _ _) rfl fun _ _ => ?_
  refine .perform (Handle.property_amountsTo _ _ _) rfl fun _ _ => ?_
  refine .perform (Handle.property_amountsTo _ _ _) rfl fun _ _ => ?_
  refine .perform (Session.listInhibitors_amountsTo _) rfl fun _ _ => ?_
  exact .done _

theorem status_follows (s : Service) :
    Follows s (status s : Action σ Trouble Unit) statusScript := by
  refine .withSession ?_
  refine .bind (readOverview_follows s) fun overview => ?_
  refine .bind (.each_stop (fun _ => .printLine _) overview.lines) fun _ => ?_
  refine .perform s.backlights_amountsTo rfl fun backlights hbacklights => ?_
  refine .bind (a := .stop) (.printLine _) fun _ => ?_
  -- the script goes on with the paths of what was listed, and so does the command
  have hpaths : paths (.handles (backlights.map (·.view))) =
      backlights.map (·.handle.path.text) := List.map_map
  rw [hpaths]
  refine .bind (.each fun b hb => showBacklight_follows (backlight_of_listed hbacklights hb))
    fun _ => ?_
  refine .perform s.audioSinks_amountsTo rfl fun sinks hsinks => ?_
  cases sinks with
  | nil => exact .done _
  | cons a as =>
      have hpaths : paths (.handles ((a :: as).map (·.view))) =
          (a :: as).map (·.handle.path.text) := List.map_map
      rw [hpaths]
      refine .perform (Handle.optionalProperty_amountsTo _ _ _) rfl fun default _ => ?_
      refine .bind (a := .stop) (.printLine _) fun _ => ?_
      have heach : Follows s (Action.each (showSink (σ := σ) default) (a :: as))
          (.each showSinkScript ((a :: as).map (·.handle.path.text))) :=
        .each fun b hb => showSink_follows default (audioSink_of_listed hsinks hb)
      exact heach.andPrint fun _ => .done _

theorem properties_follows (s : Service) (backlight audioSink : Option String) :
    Follows s (properties s backlight audioSink : Action σ Trouble Unit)
      (propertiesScript backlight audioSink) := by
  refine .andPrint ?_ fun _ => .andPrint (.each_stop (fun _ => .printLine _) _) fun _ => .done _
  unfold readProperties propertiesScript
  rcases backlight with _ | name
  · rcases audioSink with _ | id
    · exact .withSession (.perform_last (Handle.getProperties_amountsTo _) rfl)
    · refine .perform (AudioSink.atPath_amountsTo _ s.timeout) rfl fun a ha => ?_
      have hmade := settled_of_ok (AudioSink.atPath_amountsTo _ s.timeout) ha
      exact .perform_last (Handle.getProperties_amountsTo _)
        (inquiry_onAudioSink (.identified (.name id)) hmade _)
  · refine .perform (Backlight.named_amountsTo name s.timeout) rfl fun b hb => ?_
    have hmade := settled_of_ok (Backlight.named_amountsTo name s.timeout) hb
    exact .perform_last (Handle.getProperties_amountsTo _)
      (inquiry_onBacklight (.named name) hmade _)

/-! ## Adjusting -/

theorem adjustBrightness_follows {s : Service} (target : BacklightTarget) {b : Backlight}
    (h : target.resolve s.timeout = .ok b) (set : Option UInt32) (inc : Option Int32) :
    Follows s (adjustBrightness b set inc : Action σ Trouble UInt64)
      (.ops [.onBacklight target (brightnessOp set inc)]) := by
  have hop := inquiry_onBacklight target h
  rcases set with _ | v
  · rcases inc with _ | v
    · exact .perform_last (Handle.property_amountsTo _ _ _) (hop .brightness)
    · exact .perform (b.incBrightness_amountsTo v) (hop (.incBrightness v)) fun _ _ => .done _
  · exact .perform (b.setBrightness_amountsTo v) (hop (.setBrightness v)) fun _ _ => .done _

/-- What is done once the backlight is found. -/
theorem foundBacklight_follows {s : Service} (target : BacklightTarget) {b : Backlight}
    (h : target.resolve s.timeout = .ok b) (set : Option UInt32) (inc : Option Int32) :
    Follows s
      (do
        Action.log .debug ("Using backlight " ++ b.handle.path.text)
        let brightness ← adjustBrightness b set inc
        Action.printLine (Decimal.natText brightness.toNat) : Action σ Trouble Unit)
      (.ops [.onBacklight target (brightnessOp set inc)]) := by
  refine .bind (a := .stop) (.log _ _) fun _ => ?_
  exact .andPrint (adjustBrightness_follows target h set inc) fun _ => .printLine _

theorem backlight_follows (s : Service) (name : Option String) (set : Option UInt32)
    (inc : Option Int32) :
    Follows s (backlight s name set inc : Action σ Trouble Unit)
      (backlightScript name (brightnessOp set inc)) := by
  unfold backlight findBacklight backlightScript
  cases name with
  | some name =>
      refine .perform (Backlight.named_amountsTo name s.timeout) rfl fun b hb => ?_
      have hmade := settled_of_ok (Backlight.named_amountsTo name s.timeout) hb
      exact foundBacklight_follows (.named name) hmade set inc
  | none =>
      simp only [Action.bind_assoc]
      refine .perform s.backlights_amountsTo rfl fun backlights hbacklights => ?_
      cases backlights with
      | nil => exact .giveUp_bind _
      | cons b bs =>
          -- the script knows only the path, from which the backlight is made anew
          have hmade := backlight_of_listed hbacklights List.mem_cons_self
          exact foundBacklight_follows (.atPath b.handle.path.text) hmade set inc

theorem adjustVolume_follows {s : Service} (target : AudioSinkTarget) {a : AudioSink}
    (h : AudioSink.ofPath s.timeout target.pathText = .ok a) (set inc : Option Binary64) :
    Follows s (adjustVolume a set inc : Action σ Trouble Binary64)
      (.ops [.onAudioSink target (volumeOp set inc)]) := by
  have hop := inquiry_onAudioSink target h
  rcases set with _ | v
  · rcases inc with _ | v
    · exact .perform_last (Handle.property_amountsTo _ _ _) (hop .volume)
    · exact .perform_last (a.incVolume_amountsTo v) (hop (.incVolume v))
  · exact .perform (a.setVolume_amountsTo v) (hop (.setVolume v)) fun _ _ => .done _

theorem adjustMute_follows {s : Service} (target : AudioSinkTarget) {a : AudioSink}
    (h : AudioSink.ofPath s.timeout target.pathText = .ok a) (mute : Option Bool)
    (toggle : Bool) :
    Follows s (adjustMute a mute toggle : Action σ Trouble Bool)
      (.ops [.onAudioSink target (muteOp mute toggle)]) := by
  have hop := inquiry_onAudioSink target h
  rcases mute with _ | m
  · cases toggle with
    | true => exact .perform_last a.toggleMute_amountsTo (hop .toggleMute)
    | false => exact .perform_last (Handle.property_amountsTo _ _ _) (hop .mute)
  · exact .perform (a.setMute_amountsTo m) (hop (.setMute m)) fun _ _ => .done _

/-- What is done once the audio sink is found. -/
theorem foundSink_follows {s : Service} (target : AudioSinkTarget) {a : AudioSink}
    (h : AudioSink.ofPath s.timeout target.pathText = .ok a) (change : AudioChange) :
    Follows s
      (do
        Action.log .debug ("Using audio sink " ++ a.handle.path.text)
        if change.set.isSome && change.inc.isSome then giveUp .setAndChange
        else
          let volume ← adjustVolume a change.set change.inc
          let mute ← adjustMute a change.mute change.toggleMute
          Action.printLine (volumeText volume mute) : Action σ Trouble Unit)
      (changeScript target change) := by
  refine .bind (a := .stop) (.log _ _) fun _ => ?_
  split
  · exact .giveUp _
  · refine .bind (adjustVolume_follows target h _ _) fun volume => ?_
    exact .andPrint (adjustMute_follows target h _ _) fun _ => .printLine _

theorem audioSink_follows (s : Service) (id : Option String) (change : AudioChange) :
    Follows s (audioSink s id change : Action σ Trouble Unit) (audioSinkScript id change) := by
  unfold audioSink findAudioSink audioSinkScript
  cases id with
  | some id =>
      refine .perform (AudioSink.atPath_amountsTo _ s.timeout) rfl fun a ha => ?_
      have hmade := settled_of_ok (AudioSink.atPath_amountsTo _ s.timeout) ha
      exact foundSink_follows (.identified (.name id)) hmade change
  | none =>
      simp only [Action.bind_assoc]
      refine .perform s.defaultAudioSink_amountsTo rfl fun sink hsink => ?_
      cases sink with
      | none => exact .giveUp_bind _
      | some a =>
          have hmade := audioSink_of_default hsink
          exact foundSink_follows (.atPath a.handle.path.text) hmade change

/-! ## Single operations -/

theorem uninhibit_follows (s : Service) (id : String) :
    Follows s (uninhibit s id : Action σ Trouble Unit) (sessionOps [.uninhibit id]) :=
  .withSession (.perform_last (Session.uninhibit_amountsTo _ ⟨id⟩) rfl)

theorem stopInhibitors_follows (s : Service) :
    Follows s (stopInhibitors s : Action σ Trouble Unit) (sessionOps [.stopInhibitors]) :=
  .withSession (.perform (Session.stopInhibitors_amountsTo _) rfl fun _ _ => .printLine _)

theorem listInhibitors_follows (s : Service) :
    Follows s (listInhibitors s : Action σ Trouble Unit) (sessionOps [.listInhibitors]) := by
  refine .withSession (.perform (Session.listInhibitors_amountsTo _) rfl fun table _ => ?_)
  exact .andPrint (.each_stop (fun _ => .printLine _) _) fun _ => .done _

theorem version_follows (s : Service) :
    Follows s (version s : Action σ Trouble Unit) (sessionOps [.version]) :=
  .withSession (.perform (Handle.property_amountsTo _ _ _) rfl fun _ _ => .printLine _)

theorem inhibit_follows (env : Environment) (s : Service) (who : String) (why : Option String) :
    Follows s (inhibit env (.ofTimeout s.timeout) who why [] : Action σ Trouble Exit)
      (sessionOps [.inhibit who (why.getD (" ".intercalate []))]) := by
  refine .perform (Session.inhibit_amountsTo _ _ _) rfl fun id _ => ?_
  exact .bind (.printLine _) fun _ => .done 0

/-! ## Every command -/

/-- The action makes the calls of the script, and does not end well unless the script does. -/
def Performs (s : Service) (x : Action σ Trouble α) (script : Script) : Prop :=
  ∀ w v : World σ, Abreast w v →
    (x w).2.journal.calls = (script.follow s v).2.journal.calls ∧
      ((x w).1.isOk → (script.follow s v).1.isOk)

theorem Follows.performs {s : Service} {x : Action σ Trouble α} {a : Script}
    (h : Follows s x a) : Performs s x a := by
  intro w v hwv
  obtain ⟨hok, hw⟩ := h w v hwv
  exact ⟨hw.calls, fun hx => hok ▸ hx⟩

/-- What is done behind the script may fail, but makes no call. -/
theorem Follows.performs_bind {s : Service} {x : Action σ Trouble α} {a : Script}
    {f : α → Action σ Trouble β} (h : Follows s x a)
    (hf : ∀ r w, (f r w).2.journal.calls = w.journal.calls) : Performs s (x >>= f) a := by
  intro w v hwv
  obtain ⟨hok, hw⟩ := h w v hwv
  rw [Action.bind_apply]
  generalize x w = y at hok hw ⊢
  obtain ⟨r, w'⟩ := y
  cases r with
  | ok result => exact ⟨(hf result w').trans hw.calls, fun _ => hok ▸ rfl⟩
  | error trouble => exact ⟨hw.calls, fun hx => by cases hx⟩

theorem quietly_follows {s : Service} {x : Action σ Trouble Unit} {a : Script}
    (h : Follows s x a) : Follows s (quietly x) a :=
  h.andPrint fun _ => .done 0

/-! ### Watching -/

/-- An action without a call. -/
def Mute (x : Action σ Trouble α) : Prop := ∀ w : World σ, (x w).2.journal.calls = w.journal.calls

theorem Mute.bind {x : Action σ Trouble α} {f : α → Action σ Trouble β} (hx : Mute x)
    (hf : ∀ a, Mute (f a)) : Mute (x >>= f) := by
  intro w
  have hw := hx w
  rw [Action.bind_apply]
  generalize x w = y at hw ⊢
  obtain ⟨r, w'⟩ := y
  cases r with
  | ok a => exact (hf a w').trans hw
  | error trouble => exact hw

theorem Follows.mute {s : Service} {x : Action σ Trouble α} (h : Follows s x .stop) : Mute x :=
  fun w => (h w w (.refl w)).2.calls

theorem process_mute : Mute (Action.process : Action σ Trouble (List Bus.Delivery)) := fun _ => rfl

theorem ensureConnected_mute : Mute (ensureConnected : Action σ Trouble Unit) := by
  intro w
  unfold ensureConnected
  split <;> rfl

theorem tellPending_mute : Mute (tellPending : Action σ Trouble Unit) := by
  refine process_mute.bind fun deliveries => Mute.bind ?_ fun _ => ensureConnected_mute
  exact (Follows.each_stop (s := {}) (fun _ => .printLine _) deliveries).mute

/-- However often a pass is made, none of them makes a call. -/
theorem listen_mute (arrivals : List Bus.Arrival) :
    Mute (listen arrivals : Action σ Trouble Exit) := by
  induction arrivals with
  | nil => exact tellPending_mute.bind fun _ _ => rfl
  | cons arrival rest ih =>
      exact tellPending_mute.bind fun _ => Mute.bind (fun _ => rfl) fun _ => ih

theorem monitor_performs (arrivals : List Bus.Arrival) (s : Service) :
    Performs s (monitor arrivals s : Action σ Trouble Exit)
      (.each (fun n => sessionOps [.watch n n.member]) Notice.ofSession) := by
  have hwatch : Follows s
      (s.session >>= fun session => Action.each (fun n : Notice =>
        plainly (session.handle.watch n n.member)) Notice.ofSession : Action σ Trouble (List Unit))
      (.each (fun n => sessionOps [.watch n n.member]) (Notice.ofSession.map fun n => n)) :=
    .withSession (.each fun n _ => .perform_last (Handle.watch_amountsTo _ n n.member) rfl)
  rw [List.map_id'] at hwatch
  -- the script ends with the last subscription; what follows makes no call
  unfold monitor
  rw [← Action.bind_assoc]
  exact hwatch.performs_bind fun _ => listen_mute arrivals

/-! ### All of them -/

/-- Every command performs its script, but for the program that may run under an inhibitor. -/
theorem perform_performs (env : Environment) (settings : Settings) (s : Service)
    (command : CommandLine.Command)
    (hcommand : ∀ who why program arguments,
      command ≠ .inhibit who why (program :: arguments)) :
    Performs s (perform env settings s command : Action σ Trouble Exit)
      (script settings command) := by
  cases command with
  | status => exact (quietly_follows (status_follows s)).performs
  | properties backlight audioSink =>
      exact (quietly_follows (properties_follows s backlight audioSink)).performs
  | lock =>
      refine (quietly_follows ?_).performs
      exact .withSession (.perform_last (Session.lock_amountsTo _) rfl)
  | unlock =>
      refine (quietly_follows ?_).performs
      exact .withSession (.perform_last (Session.unlock_amountsTo _) rfl)
  | inhibit who why words =>
      cases words with
      | nil => exact (Follows.withSession (inhibit_follows env s _ why)).performs
      | cons program arguments => exact absurd rfl (hcommand who why program arguments)
  | uninhibit id => exact (quietly_follows (uninhibit_follows s id)).performs
  | stopInhibitors => exact (quietly_follows (stopInhibitors_follows s)).performs
  | listInhibitors => exact (quietly_follows (listInhibitors_follows s)).performs
  | backlight name set inc => exact (quietly_follows (backlight_follows s _ set inc)).performs
  | audioSink id change => exact (quietly_follows (audioSink_follows s _ change)).performs
  | monitor => exact monitor_performs env.arrivals s
  | version => exact (quietly_follows (version_follows s)).performs

end SessionControl.Command
