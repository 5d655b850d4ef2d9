import SessionControl.Proofs.Unnamed

set_option autoImplicit false

/-! # Speaking to a device

Once a command has found the device that it is about, it makes the calls that are due to it, one for
each attribute, and no others (`Begins`). This holds over any service, whatever it answers. -/

namespace SessionControl.Command

open Client (Action AudioSink Backlight Service World)
open CommandLine (AudioChange)

variable {σ α β : Type}

/-! ## Actions that make no call -/

/-- What makes no call leaves the calls of what came before. -/
theorem calls_bind_mute {x : Action σ Trouble α} {f : α → Action σ Trouble β}
    (hf : ∀ a, Mute (f a)) (w : World σ) :
    ((x >>= f) w).2.journal.calls = (x w).2.journal.calls := by
  rw [Action.bind_apply]
  generalize x w = y
  obtain ⟨r, w'⟩ := y
  cases r with
  | ok a => exact hf a w'
  | error trouble => rfl

theorem mute_printLine (text : String) :
    Mute (Action.printLine text : Action σ Trouble Unit) := by
  intro w
  show (w.journal ++ [Client.Event.printed (text ++ "\n")]).calls = w.journal.calls
  rw [Client.Journal.calls_append]
  exact List.append_nil _

/-! ## Calls that are due -/

/-- Behind the calls before, those that are due were begun: the first of them was made, the others
    in their order up to one that failed, and all of them where it went well. No other call was
    made. -/
def Begins (before due : List Bus.Call) (x : Except Trouble α × World σ) : Prop :=
  ∃ made, made ≠ [] ∧ made <+: due ∧ x.2.journal.calls = before ++ made ∧
    ∀ a, x.1 = .ok a → made = due

namespace Begins

variable {before due due' : List Bus.Call} {x : Action σ Trouble α} {f : α → Action σ Trouble β}
  {w : World σ}

theorem of_asks {call : Bus.Call} {read : Except Bus.Failure Bus.Body → Except Trouble α}
    (hx : x.AmountsTo (.asks call read)) (hopen : w.connection.phase ≠ .closed) :
    Begins w.journal.calls [call] (x w) :=
  ⟨[call], nofun, List.prefix_rfl, calls_of_asks hx hopen, fun _ _ => rfl⟩

theorem bind (hx : Begins before due (x w))
    (hf : ∀ a, (x w).1 = .ok a → Begins (x w).2.journal.calls due' (f a (x w).2)) :
    Begins before (due ++ due') ((x >>= f) w) := by
  obtain ⟨made, hne, hdue, hcalls, hall⟩ := hx
  rw [Action.bind_apply]
  generalize x w = y at hcalls hall hf ⊢
  obtain ⟨r, w'⟩ := y
  cases r with
  | error trouble => exact ⟨made, hne, hdue.trans (List.prefix_append ..), hcalls, nofun⟩
  | ok a =>
      obtain ⟨made', -, hdue', hcalls', hall'⟩ := hf a rfl
      cases hall a rfl
      refine ⟨due ++ made', List.append_ne_nil_of_left_ne_nil hne _,
        (List.prefix_append_right_inj due).mpr hdue', ?_, fun b hb => ?_⟩
      · rw [← List.append_assoc, ← hcalls]
        exact hcalls'
      · rw [hall' b hb]

theorem bind_mute (hx : Begins before due (x w)) (hf : ∀ a, Mute (f a)) :
    Begins before due ((x >>= f) w) := by
  obtain ⟨made, hne, hdue, hcalls, hall⟩ := hx
  refine ⟨made, hne, hdue, (calls_bind_mute hf w).trans hcalls, fun b hb => ?_⟩
  obtain ⟨a, ha, -, -⟩ := ok_of_bind hb
  exact hall a ha

/-- What goes well first shows in the calls before only. -/
theorem after {a : α} (hx : (x w).1 = .ok a) {f : α → Action σ Trouble β}
    (hf : Begins before due (f a (x w).2)) : Begins before due ((x >>= f) w) := by
  rw [Action.bind_apply]
  generalize x w = y at hx hf ⊢
  obtain ⟨r, w'⟩ := y
  cases hx
  exact hf

/-- A record for debugging is no call. -/
theorem after_log (text : String) {f : Unit → Action σ Trouble β}
    (hf : ∀ w', w'.connection = w.connection → Begins w'.journal.calls due (f () w')) :
    Begins w.journal.calls due ((Action.log .debug text >>= f) w) := by
  have hcalls : (Action.log .debug text w : Except Trouble Unit × World σ).2.journal.calls =
      w.journal.calls := by
    show (w.journal ++ [_]).calls = _
    rw [Client.Journal.calls_append]
    exact List.append_nil _
  rw [← hcalls]
  exact after rfl (hf _ rfl)

end Begins

/-- One call is due, and so it was made. -/
theorem Begins.calls {before : List Bus.Call} {call : Bus.Call} {x : Except Trouble α × World σ}
    (h : Begins before [call] x) : x.2.journal.calls = before ++ [call] := by
  obtain ⟨made, hne, hdue, hcalls, -⟩ := h
  obtain ⟨first, rest, rfl⟩ := List.exists_cons_of_ne_nil hne
  obtain ⟨rfl, hrest⟩ := List.cons_prefix_cons.mp hdue
  rw [hcalls, List.prefix_nil.mp hrest]

/-! ## The device that was found

A name from the settings is as good as one from the command line, so it does not matter here which
of them it is. -/

section Found

variable {s : Service} {name : Option String} {w : World σ}

/-! ### Backlights -/

theorem findBacklight_interface {b : Backlight} (hfound : (findBacklight s name w).1 = .ok b) :
    b.handle.interface = Attribute.brightness.interface := by
  have hnamed : (findBacklight s (none <|> ({ backlight := name } : Settings).backlight) w).1 =
      .ok b := hfound
  exact (findBacklight_target none none hnamed).2

theorem findBacklight_open (hopen : w.connection.phase ≠ .closed) {b : Backlight}
    (hfound : (findBacklight s name w).1 = .ok b) :
    (findBacklight s name w).2.connection.phase ≠ .closed := fun hclosed =>
  hopen ((findBacklight_converses s { backlight := name } none none none w).phase
    (Prod.ext hfound rfl) hclosed)

theorem backlight_begins (set : Option UInt32) (inc : Option Int32)
    (hopen : w.connection.phase ≠ .closed) {b : Backlight}
    (hfound : (findBacklight s name w).1 = .ok b) :
    Begins (findBacklight s name w).2.journal.calls
      [(brightnessAsk set inc).call b.handle.path.text]
      (quietly (backlight s name set inc) w) := by
  obtain ⟨read, hamounts, -⟩ :=
    adjustBrightness_settles (σ := σ) (findBacklight_interface hfound) set inc
  have hstill := findBacklight_open hopen hfound
  unfold quietly
  rw [backlight_eq_print]
  refine .bind_mute (.bind_mute (.after hfound (.after_log _ fun w' hw => ?_)) ?_) ?_
  · exact .of_asks hamounts (hw ▸ hstill)
  · exact fun _ => mute_printLine _
  · exact fun _ _ => rfl

/-! ### Audio sinks -/

theorem findAudioSink_interface {a : AudioSink} (hfound : (findAudioSink s name w).1 = .ok a) :
    a.handle.interface = Attribute.volume.interface := by
  have hnamed : (findAudioSink s (none <|> ({ audioSink := name } : Settings).audioSink) w).1 =
      .ok a := hfound
  exact (findAudioSink_target {} hnamed).2

theorem findAudioSink_open (hopen : w.connection.phase ≠ .closed) {a : AudioSink}
    (hfound : (findAudioSink s name w).1 = .ok a) :
    (findAudioSink s name w).2.connection.phase ≠ .closed := fun hclosed =>
  hopen ((findAudioSink_converses s { audioSink := name } none {} w).phase
    (Prod.ext hfound rfl) hclosed)

/-- The volume comes first, and the mute state behind it if that went well. -/
theorem audioSink_begins {change : AudioChange}
    (hconsistent : ¬(change.set.isSome && change.inc.isSome) = true)
    (hopen : w.connection.phase ≠ .closed) {a : AudioSink}
    (hfound : (findAudioSink s name w).1 = .ok a) :
    Begins (findAudioSink s name w).2.journal.calls
      [(volumeAsk change.set change.inc).call a.handle.path.text,
       (muteAsk change.mute change.toggleMute).call a.handle.path.text]
      (quietly (audioSink s name change) w) := by
  have hinterface := findAudioSink_interface hfound
  obtain ⟨readVolume, hvolume, hfails, -⟩ :=
    adjustVolume_settles (σ := σ) hinterface change.set change.inc
  obtain ⟨readMute, hmute, -⟩ :=
    adjustMute_settles (σ := σ) hinterface change.mute change.toggleMute
  have hstill := findAudioSink_open hopen hfound
  unfold quietly
  rw [audioSink_eq_print]
  refine .bind_mute (.bind_mute (.after hfound (.after_log _ fun w₁ hw => ?_)) ?_) ?_
  · have hopen₁ : w₁.connection.phase ≠ .closed := hw ▸ hstill
    rw [if_neg hconsistent]
    refine .bind (.of_asks hvolume hopen₁) fun volume hok => ?_
    refine .bind_mute (.of_asks hmute fun hclosed => hopen₁ ?_) fun _ _ => rfl
    have hconverses : Converses (adjustVolume a change.set change.inc) w₁ _ True :=
      .of_asks hvolume hfails w₁ (fun _ => trivial) fun _ _ _ _ => trivial
    exact hconverses.phase (Prod.ext hok rfl) hclosed
  · exact fun _ => mute_printLine _
  · exact fun _ _ => rfl

end Found

end SessionControl.Command
