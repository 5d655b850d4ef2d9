import SessionControl.Proofs.Adjusting
import SessionControl.Proofs.Troubles

set_option autoImplicit false

/-! # Commands that name no device

Where no device is named, a command asks the session for one. What it says if there is none, it says
of nothing else: all its other troubles start with the letter of "Could not" and "Cannot". Then it
has made one call, and makes no other. -/

namespace SessionControl.Command

open Client (Action Approach AudioSink Backlight Fault Inquiry Journal Service Session World)
open CommandLine (AudioChange)

variable {σ ε α β : Type}

/-! ## What is said -/

/-- The result is a failure of which just this is said. -/
def Says (text : String) (r : Except Trouble α) : Prop :=
  ∃ trouble, r = .error trouble ∧ trouble.text = text

theorem not_says_of_startsWith {c : Char} {text : String} (htext : text.toList.head? ≠ some c)
    {trouble : Trouble} (h : trouble.StartsWith c) :
    ¬Says text (.error trouble : Except Trouble α) := by
  rintro ⟨trouble', herror, rfl⟩
  cases herror
  exact htext h

/-- What no later part says is said by the first one. -/
theorem says_bind_iff {x : Action σ Trouble α} {f : α → Action σ Trouble β} {c : Char}
    {text : String} (htext : text.toList.head? ≠ some c)
    (hf : ∀ a, FailsOnly (Trouble.StartsWith c) (f a)) (w : World σ) :
    Says text ((x >>= f) w).1 ↔ Says text (x w).1 := by
  rw [Action.bind_apply]
  generalize x w = y
  obtain ⟨r, w'⟩ := y
  cases r with
  | error trouble => simp only [Says, Except.error.injEq]
  | ok a =>
      constructor
      · rintro ⟨trouble, herror, rfl⟩
        exact absurd (hf a w' trouble herror) htext
      · rintro ⟨trouble, herror, -⟩
        cases herror

/-- Where the first part fails, nothing else is done. -/
theorem bind_of_error {x : Action σ ε α} {f : α → Action σ ε β} {w : World σ} {e : ε}
    (h : (x w).1 = .error e) : (x >>= f) w = (.error e, (x w).2) := by
  rw [Action.bind_apply]
  generalize x w = y at h ⊢
  obtain ⟨r, w'⟩ := y
  cases h
  rfl

theorem quietly_of_error {x : Action σ Trouble Unit} {w : World σ} {trouble : Trouble}
    (h : (x w).1 = .error trouble) : quietly x w = (.error trouble, (x w).2) :=
  bind_of_error h

theorem says_quietly_iff {x : Action σ Trouble Unit} {text : String}
    (htext : text.toList.head? ≠ some 'C') (w : World σ) :
    Says text (quietly x w).1 ↔ Says text (x w).1 :=
  says_bind_iff htext (fun _ => .done 0) w

/-! ## One call -/

theorem calls_of_asks {x : Action σ ε α} {call : Bus.Call}
    {read : Except Bus.Failure Bus.Body → Except ε α} (hx : x.AmountsTo (.asks call read))
    {w : World σ} (hopen : w.connection.phase ≠ .closed) :
    (x w).2.journal.calls = w.journal.calls ++ [call] := by
  obtain ⟨-, -, hdeeds⟩ := exchange_of_amountsTo hx hopen
  rw [← Journal.calls_deeds, hdeeds]
  simp

/-- The call that asks for a property of the session. -/
def askSession (name : String) : Bus.Call :=
  (Approach.get name).call "/org/sessiond/session1" "org.sessiond.session1.Session"

theorem propertyCall_session (timeout : Nat) (name : String) :
    (Session.ofTimeout timeout).handle.propertyCall "Get" [.string name] = askSession name := by
  unfold Client.Handle.propertyCall askSession
  rw [show (Session.ofTimeout timeout).handle.interface = _ from Client.interfaceName_session]
  rfl

/-- Surroundings without files, where programs do nothing. For commands that only ask the service
    these are as good as any. -/
def Environment.bare : Environment where
  readText _ := .error .notText
  hasPath _ := false
  usualSettings := none
  runProgram _ := .ended "" "" (.exited 0)
  rejection := none

/-! ## Searching -/

section Searching

variable {x : Action σ Fault α} {f : α → Action σ Trouble β} {pick : α → Except Trouble β}

/-- What is found is picked from what the client tells. -/
theorem within_bind_result (hf : ∀ a w, (f a w).1 = pick a) (context : String) (w : World σ) :
    ((within context x >>= f) w).1 = ((x w).1.mapError fun fault =>
      { contexts := [context], cause := .fault fault }).bind pick := by
  unfold within
  rw [Action.bind_apply, Action.mapError_apply]
  generalize x w = y
  obtain ⟨r, w'⟩ := y
  cases r with
  | ok a => exact hf a w'
  | error fault => rfl

/-- What is said of the picking is not said of a fault. -/
theorem says_picked_iff {context text : String} (hcontext : context.toList.head? = some 'C')
    (htext : text.toList.head? ≠ some 'C') (r : Except Fault α) :
    Says text ((r.mapError fun fault =>
      { contexts := [context], cause := .fault fault }).bind pick) ↔
        ∃ a, r = .ok a ∧ Says text (pick a) := by
  cases r with
  | ok a =>
      constructor
      · intro h
        exact ⟨a, rfl, h⟩
      · rintro ⟨a', ha, h⟩
        cases ha
        exact h
  | error fault =>
      refine iff_of_false ?_ (by rintro ⟨a, ha, -⟩; cases ha)
      exact not_says_of_startsWith htext (Trouble.startsWith_of_context hcontext fault)

end Searching

/-! ## Backlights -/

theorem findBacklight_result (s : Service) (w : World σ) :
    (findBacklight s none w).1 = ((s.backlights w).1.mapError fun fault =>
      { contexts := ["Could not list backlights"], cause := .fault fault }).bind
        firstBacklight :=
  within_bind_result (fun backlights _ => by cases backlights <;> rfl) _ w

theorem says_firstBacklight_iff (backlights : List Backlight) :
    Says "No backlights found" (firstBacklight backlights) ↔ backlights = [] := by
  cases backlights with
  | nil => exact iff_of_true ⟨_, rfl, by decide⟩ rfl
  | cons b bs => exact iff_of_false nofun nofun

theorem adjustBrightness_startsWith (b : Backlight) (set : Option UInt32) (inc : Option Int32) :
    FailsOnly (Trouble.StartsWith 'C') (adjustBrightness b set inc : Action σ Trouble UInt64) := by
  rcases set with _ | v
  · rcases inc with _ | v
    · exact within_startsWith (by simp) _
    · exact .bind (within_startsWith (by simp) _) fun _ => .done _
  · exact .bind (within_startsWith (by simp) _) fun _ => .done _

/-- That there is no backlight is said if and only if the list of them is empty. -/
theorem says_backlight_iff (s : Service) (set : Option UInt32) (inc : Option Int32)
    (w : World σ) :
    Says "No backlights found" (quietly (backlight s none set inc) w).1 ↔
      (s.backlights w).1 = .ok [] := by
  have hrest : ∀ b : Backlight, FailsOnly (Trouble.StartsWith 'C') (do
      Action.log .debug ("Using backlight " ++ b.handle.path.text)
      let brightness ← adjustBrightness b set inc
      Action.printLine (Decimal.natText brightness.toNat) : Action σ Trouble Unit) := fun b =>
    .bind (.note _) fun _ => (adjustBrightness_startsWith b set inc).bind fun _ => .note _
  rw [says_quietly_iff (by decide), backlight, says_bind_iff (by decide) hrest,
    findBacklight_result, says_picked_iff rfl (by decide)]
  simp only [says_firstBacklight_iff, exists_eq_right]

/-- Where no backlight is found, only the search is made. -/
theorem backlight_of_error (s : Service) {name : Option String} (set : Option UInt32)
    (inc : Option Int32) {w : World σ} {trouble : Trouble}
    (h : (findBacklight s name w).1 = .error trouble) :
    quietly (backlight s name set inc) w = (.error trouble, (findBacklight s name w).2) := by
  have hrun : backlight s name set inc w = (.error trouble, (findBacklight s name w).2) :=
    bind_of_error h
  rw [quietly_of_error (congrArg Prod.fst hrun), hrun]

theorem findBacklight_calls (s : Service) {w : World σ} (hopen : w.connection.phase ≠ .closed) :
    (findBacklight s none w).2.journal.calls = w.journal.calls ++ [askSession "Backlights"] := by
  rw [← propertyCall_session s.timeout]
  exact calls_of_asks (findBacklight_amountsTo s) hopen

/-! ## Audio sinks -/

theorem findAudioSink_result (s : Service) (w : World σ) :
    (findAudioSink s none w).1 = ((s.defaultAudioSink w).1.mapError fun fault =>
      { contexts := ["Could not find default audio sink"], cause := .fault fault }).bind
        defaultSink :=
  within_bind_result (fun sink _ => by cases sink <;> rfl) _ w

/-- The command uses the sink that the service takes for the default one. -/
theorem findAudioSink_eq_ok_iff (s : Service) (w : World σ) (a : AudioSink) :
    (findAudioSink s none w).1 = .ok a ↔ (s.defaultAudioSink w).1 = .ok (some a) := by
  rw [findAudioSink_result]
  rcases (s.defaultAudioSink w).1 with fault | _ | found
  · exact iff_of_false nofun nofun
  · exact iff_of_false nofun nofun
  · constructor
    · rintro ⟨⟩
      rfl
    · rintro ⟨⟩
      rfl

theorem says_defaultSink_iff (sink : Option AudioSink) :
    Says "sessiond has no default audio sink" (defaultSink sink) ↔ sink = none := by
  cases sink with
  | none => exact iff_of_true ⟨_, rfl, by decide⟩ rfl
  | some a => exact iff_of_false nofun nofun

theorem adjustVolume_startsWith (a : AudioSink) (set inc : Option Binary64) :
    FailsOnly (Trouble.StartsWith 'C') (adjustVolume a set inc : Action σ Trouble Binary64) := by
  rcases set with _ | v
  · rcases inc with _ | v
    · exact within_startsWith rfl _
    · exact within_startsWith rfl _
  · exact .bind (within_startsWith rfl _) fun _ => .done _

theorem adjustMute_startsWith (a : AudioSink) (mute : Option Bool) (toggle : Bool) :
    FailsOnly (Trouble.StartsWith 'C') (adjustMute a mute toggle : Action σ Trouble Bool) := by
  rcases mute with _ | m
  · cases toggle with
    | false => exact within_startsWith rfl _
    | true => exact within_startsWith rfl _
  · exact .bind (within_startsWith rfl _) fun _ => .done _

/-- The volume and the mute state are adjusted one after the other, unless the changes of the volume
    contradict each other. -/
theorem adjustSink_startsWith (a : AudioSink) (change : AudioChange) :
    FailsOnly (Trouble.StartsWith 'C') (do
      Action.log .debug ("Using audio sink " ++ a.handle.path.text)
      if change.set.isSome && change.inc.isSome then giveUp .setAndChange
      else
        let volume ← adjustVolume a change.set change.inc
        let mute ← adjustMute a change.mute change.toggleMute
        Action.printLine (volumeText volume mute) : Action σ Trouble Unit) := by
  refine .bind (.note _) fun _ => ?_
  split
  · exact .fail rfl
  · exact (adjustVolume_startsWith a change.set change.inc).bind fun _ =>
      (adjustMute_startsWith a change.mute change.toggleMute).bind fun _ => .note _

/-- That there is no default sink is said if and only if the service has none. -/
theorem says_audioSink_iff (s : Service) (change : AudioChange) (w : World σ) :
    Says "sessiond has no default audio sink" (quietly (audioSink s none change) w).1 ↔
      (s.defaultAudioSink w).1 = .ok none := by
  rw [says_quietly_iff (by decide), audioSink,
    says_bind_iff (by decide) (adjustSink_startsWith · change), findAudioSink_result,
    says_picked_iff rfl (by decide)]
  simp only [says_defaultSink_iff, exists_eq_right]

/-- Where no audio sink is found, only the search is made. -/
theorem audioSink_of_error (s : Service) {id : Option String} (change : AudioChange) {w : World σ}
    {trouble : Trouble} (h : (findAudioSink s id w).1 = .error trouble) :
    quietly (audioSink s id change) w = (.error trouble, (findAudioSink s id w).2) := by
  have hrun : audioSink s id change w = (.error trouble, (findAudioSink s id w).2) :=
    bind_of_error h
  rw [quietly_of_error (congrArg Prod.fst hrun), hrun]

theorem findAudioSink_calls (s : Service) {w : World σ} (hopen : w.connection.phase ≠ .closed) :
    (findAudioSink s none w).2.journal.calls =
      w.journal.calls ++ [askSession "DefaultAudioSink"] := by
  rw [← propertyCall_session s.timeout]
  exact calls_of_asks (findAudioSink_amountsTo s) hopen

end SessionControl.Command
