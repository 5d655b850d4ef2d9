import SessionControl.Proofs.Acceptance
import SessionControl.Proofs.Settings
import SessionControl.Proofs.Troubles

set_option autoImplicit false

/-! # Contradictory requests

Where two options of a command contradict each other, the tool looks at one of them first and would
pass over the other. No accepted command line gets there: its command is `Consistent`, every option
that was given is carried out as it stands (`Heeds`), and no run fails because the volume was to be
both set and changed (`Coherent`). -/

namespace SessionControl.CommandLine

open Client (ok_of_bind_ok)

/-! ## Consistency -/

/-- No two changes of one thing, and not the properties of two objects at once. -/
def Command.Consistent : Command → Prop
  | .properties b a => ¬(b.isSome ∧ a.isSome)
  | .backlight _ set inc => ¬(set.isSome ∧ inc.isSome)
  | .audioSink _ change =>
    ¬(change.set.isSome ∧ change.inc.isSome) ∧ ¬(change.mute.isSome ∧ change.toggleMute)
  | _ => True

namespace Matches.Accepted

variable {g : Grammar} {m : Matches}

/-- Of two options that exclude each other only one has a value. -/
theorem value_none (h : m.Accepted g) {a b : String} (hab : (a, b) ∈ g.conflicts)
    (ha : a ∈ m.occurrences) : m.value? b = none := by
  cases hb : m.value? b with
  | none => rfl
  | some text => exact absurd (h.occurs b text hb) (h.exclusive a b hab ha)

theorem value_none_symm (h : m.Accepted g) {a b : String} (hab : (a, b) ∈ g.conflicts)
    (hb : b ∈ m.occurrences) : m.value? a = none := by
  cases ha : m.value? a with
  | none => rfl
  | some text => exact absurd hb (h.exclusive a b hab (h.occurs a text ha))

/-- An option that takes a value has one text, and what the text reads as. -/
theorem read (h : m.Accepted g) {α : Type} {o : OptionSpec} {long : String}
    (parse : String → Option α) (hlong : long ∈ m.occurrences)
    (ho : g.ofLong? long.toList = some o) (htakes : o.takesValue = true)
    (hreadable : o.readable = fun text => (parse text).isSome) :
    ∃ text v, m.valuesOf long = [text] ∧ m.value? long = some text ∧ parse text = some v := by
  obtain ⟨text, htexts, hread⟩ := h.value long hlong o ho htakes
  rw [hreadable] at hread
  obtain ⟨v, hv⟩ := Option.isSome_iff_exists.mp hread
  exact ⟨text, v, htexts, congrArg List.head? htexts, hv⟩

/-- An option that takes any text has one. -/
theorem text (h : m.Accepted g) {o : OptionSpec} {long : String} (hlong : long ∈ m.occurrences)
    (ho : g.ofLong? long.toList = some o) (htakes : o.takesValue = true) :
    ∃ text, m.valuesOf long = [text] ∧ m.value? long = some text := by
  obtain ⟨text, htexts, -⟩ := h.value long hlong o ho htakes
  exact ⟨text, htexts, congrArg List.head? htexts⟩

end Matches.Accepted

/-- What is read from the value of an option is there only if the option is. -/
theorem isSome_of_bind {α β : Type} {x : Option α} {f : α → Option β}
    (h : (x >>= f).isSome = true) : ∃ a, x = some a := by
  cases x with
  | none => cases h
  | some a => exact ⟨a, rfl⟩

theorem Verb.command_consistent {v : Verb} {m : Matches} (h : m.Accepted v.grammar) :
    (v.command m).Consistent := by
  -- values are read from texts, and of two such options only one has a text
  have hexclusive : ∀ {α β : Type} {f : String → Option α} {k : String → Option β} {a b : String},
      (a, b) ∈ v.grammar.conflicts →
        ¬((m.value? a >>= f).isSome = true ∧ (m.value? b >>= k).isSome = true) := by
    intro α β f k a b hab ⟨ha, hb⟩
    obtain ⟨text, ha⟩ := isSome_of_bind ha
    rw [h.value_none hab (h.occurs a text ha)] at hb
    cases hb
  cases v with
  | properties =>
      intro ⟨hb, ha⟩
      obtain ⟨text, htext⟩ := Option.isSome_iff_exists.mp hb
      rw [h.value_none List.mem_cons_self (h.occurs _ text htext)] at ha
      cases ha
  | backlight => exact hexclusive List.mem_cons_self
  | audioSink =>
      refine ⟨hexclusive List.mem_cons_self, fun ⟨hmute, htoggle⟩ => ?_⟩
      obtain ⟨text, htext⟩ := isSome_of_bind hmute
      exact h.exclusive "mute" "toggle-mute" (List.mem_cons_of_mem _ List.mem_cons_self)
        (h.occurs _ text htext) (Matches.has_iff.mp htoggle)
  | _ => trivial

/-- A command line that is read is cut at a command, whose grammar has accepted the words behind. -/
theorem match_of_read {words : List String} {r : Request} (h : read words = .ok r) :
    ∃ front v rest m, words = front ++ Verb.word v :: rest ∧ v.grammar.match rest = .ok m ∧
      r.command = v.command m := by
  obtain ⟨⟨p, command⟩, hwords, h⟩ := ok_of_bind_ok h
  cases command with
  | none => cases h
  | some found =>
      obtain ⟨word, rest⟩ := found
      obtain ⟨command, hcommand, h⟩ := ok_of_bind_ok h
      obtain ⟨_, -, h⟩ := ok_of_bind_ok h
      cases h
      obtain ⟨-, front, hfront⟩ := Progress.mem_of_words hwords
      unfold readCommand at hcommand
      split at hcommand
      · next v hv =>
          obtain ⟨m, hm, hcommand⟩ := ok_of_bind_ok hcommand
          cases hcommand
          have hword : v.word = word := by simpa using List.find?_some hv
          exact ⟨front, v, rest, m, hword ▸ hfront, hm, rfl⟩
      · cases hcommand

/-- Options exclude each other in either order and in every spelling. -/
example : read ["audiosink", "-t", "7", "--mute=off"] = .error .conflict := by rfl

end SessionControl.CommandLine

namespace SessionControl.Command

open Client (Action AudioSink Backlight Fault Service Session World)
open CommandLine (Matches Verb readInt32? readSwitch? readUInt32?)

variable {σ α β : Type}

/-! ## Options that are carried out -/

/-- The command carries out the option with this name and these texts, whatever its other options
    are. -/
inductive Heeds : CommandLine.Command → String → List String → Prop
  | propertiesOfBacklight {name : String} {audioSink : Option String}
      (acts : ∀ (σ : Type) (s : Service),
        (readProperties s (some name) audioSink : Action σ Trouble _) = do
          let b ← plainly (s.backlight name)
          within "Could not read properties" b.handle.getProperties) :
      Heeds (.properties (some name) audioSink) "backlight" [name]
  | propertiesOfAudioSink {backlight : Option String} {id : String}
      (acts : ∀ (σ : Type) (s : Service),
        (readProperties s backlight (some id) : Action σ Trouble _) = do
          let a ← plainly (s.audioSink (.name id))
          within "Could not read properties" a.handle.getProperties) :
      Heeds (.properties backlight (some id)) "audiosink" [id]
  | who {who : String} {why : Option String} {words : List String} :
      Heeds (.inhibit (some who) why words) "who" [who]
  | why {who : Option String} {why : String} {words : List String} :
      Heeds (.inhibit who (some why) words) "why" [why]
  | brightness {name : Option String} {v : UInt32} {inc : Option Int32} {text : String}
      (read : readUInt32? text = some v)
      (acts : ∀ (σ : Type) (b : Backlight),
        (adjustBrightness b (some v) inc : Action σ Trouble _) = do
          within ("Could not set brightness of " ++ b.name) (b.setBrightness v)
          return v.toUInt64) :
      Heeds (.backlight name (some v) inc) "set" [text]
  | brightnessChange {name : Option String} {set : Option UInt32} {v : Int32} {text : String}
      (read : readInt32? text = some v)
      (acts : ∀ (σ : Type) (b : Backlight),
        (adjustBrightness b set (some v) : Action σ Trouble _) = do
          let brightness ←
            within ("Could not change brightness of " ++ b.name) (b.incBrightness v)
          return brightness.toUInt64) :
      Heeds (.backlight name set (some v)) "inc" [text]
  | volume {id : Option String} {change : CommandLine.AudioChange} {v : Binary64} {text : String}
      (read : Binary64.ofText? text = some v) (holds : change.set = some v)
      (acts : ∀ (σ : Type) (a : AudioSink),
        (adjustVolume a change.set change.inc : Action σ Trouble _) = do
          within "Could not set volume" (a.setVolume v)
          return v) :
      Heeds (.audioSink id change) "set" [text]
  | volumeChange {id : Option String} {change : CommandLine.AudioChange} {v : Binary64}
      {text : String} (read : Binary64.ofText? text = some v) (holds : change.inc = some v)
      (acts : ∀ (σ : Type) (a : AudioSink),
        (adjustVolume a change.set change.inc : Action σ Trouble _) =
          within "Could not change volume" (a.incVolume v)) :
      Heeds (.audioSink id change) "inc" [text]
  | mute {id : Option String} {change : CommandLine.AudioChange} {m : Bool} {text : String}
      (read : readSwitch? text = some m) (holds : change.mute = some m)
      (acts : ∀ (σ : Type) (a : AudioSink),
        (adjustMute a change.mute change.toggleMute : Action σ Trouble _) = do
          within "Could not set mute state" (a.setMute m)
          return m) :
      Heeds (.audioSink id change) "mute" [text]
  | toggleMute {id : Option String} {change : CommandLine.AudioChange} {texts : List String}
      (holds : change.toggleMute = true)
      (acts : ∀ (σ : Type) (a : AudioSink),
        (adjustMute a change.mute change.toggleMute : Action σ Trouble _) =
          within "Could not toggle mute state" a.toggleMute) :
      Heeds (.audioSink id change) "toggle-mute" texts

variable {m : Matches}

theorem heeds_properties (h : m.Accepted Verb.properties.grammar) {long : String}
    (hlong : long ∈ m.occurrences) :
    Heeds (Verb.properties.command m) long (m.valuesOf long) := by
  obtain ⟨o, ho, hname⟩ := h.known long hlong
  simp only [Verb.grammar, List.mem_cons, List.not_mem_nil, or_false] at ho
  simp only [Verb.command]
  rcases ho with rfl | rfl <;> subst hname
  · obtain ⟨text, htexts, hvalue⟩ := h.text hlong rfl rfl
    rw [htexts, hvalue]
    exact .propertiesOfBacklight fun _ _ => rfl
  · obtain ⟨text, htexts, hvalue⟩ := h.text hlong rfl rfl
    rw [htexts, hvalue, h.value_none_symm List.mem_cons_self hlong]
    exact .propertiesOfAudioSink fun _ _ => rfl

theorem heeds_inhibit (h : m.Accepted Verb.inhibit.grammar) {long : String}
    (hlong : long ∈ m.occurrences) :
    Heeds (Verb.inhibit.command m) long (m.valuesOf long) := by
  obtain ⟨o, ho, hname⟩ := h.known long hlong
  simp only [Verb.grammar, List.mem_cons, List.not_mem_nil, or_false] at ho
  simp only [Verb.command]
  rcases ho with rfl | rfl <;> subst hname
  · obtain ⟨text, htexts, hvalue⟩ := h.text hlong rfl rfl
    rw [htexts, hvalue]
    exact .who
  · obtain ⟨text, htexts, hvalue⟩ := h.text hlong rfl rfl
    rw [htexts, hvalue]
    exact .why

theorem heeds_backlight (h : m.Accepted Verb.backlight.grammar) {long : String}
    (hlong : long ∈ m.occurrences) :
    Heeds (Verb.backlight.command m) long (m.valuesOf long) := by
  obtain ⟨o, ho, hname⟩ := h.known long hlong
  simp only [Verb.grammar, List.mem_cons, List.not_mem_nil, or_false] at ho
  simp only [Verb.command]
  rcases ho with rfl | rfl <;> subst hname
  · obtain ⟨text, v, htexts, hvalue, hv⟩ := h.read readUInt32? hlong rfl rfl rfl
    simp only [htexts, hvalue, Option.bind_eq_bind, Option.bind_some, hv]
    exact .brightness hv fun _ _ => rfl
  · -- the other option comes first in the command, but has no value where this one was given
    obtain ⟨text, v, htexts, hvalue, hv⟩ := h.read readInt32? hlong rfl rfl rfl
    have hset := h.value_none_symm List.mem_cons_self hlong
    simp only [htexts, hvalue, hset, Option.bind_eq_bind, Option.bind_some, Option.bind_none, hv]
    exact .brightnessChange hv fun _ _ => rfl

theorem heeds_audioSink (h : m.Accepted Verb.audioSink.grammar) {long : String}
    (hlong : long ∈ m.occurrences) :
    Heeds (Verb.audioSink.command m) long (m.valuesOf long) := by
  obtain ⟨o, ho, hname⟩ := h.known long hlong
  have hvolume : ("set", "inc") ∈ Verb.audioSink.grammar.conflicts := List.mem_cons_self
  have hmute : ("mute", "toggle-mute") ∈ Verb.audioSink.grammar.conflicts :=
    List.mem_cons_of_mem _ List.mem_cons_self
  simp only [Verb.grammar, List.mem_cons, List.not_mem_nil, or_false] at ho
  simp only [Verb.command]
  rcases ho with rfl | rfl | rfl | rfl <;> subst hname
  · obtain ⟨text, v, htexts, hvalue, hv⟩ := h.read Binary64.ofText? hlong rfl rfl rfl
    simp only [htexts, hvalue, Option.bind_eq_bind, Option.bind_some, hv]
    exact .volume hv rfl fun _ _ => rfl
  · obtain ⟨text, v, htexts, hvalue, hv⟩ := h.read Binary64.ofText? hlong rfl rfl rfl
    have hset := h.value_none_symm hvolume hlong
    simp only [htexts, hvalue, hset, Option.bind_eq_bind, Option.bind_some, Option.bind_none, hv]
    exact .volumeChange hv rfl fun _ _ => rfl
  · obtain ⟨text, v, htexts, hvalue, hv⟩ := h.read readSwitch? hlong rfl rfl rfl
    simp only [htexts, hvalue, Option.bind_eq_bind, Option.bind_some, hv]
    exact .mute hv rfl fun _ _ => rfl
  · have htoggle : m.has "toggle-mute" = true := Matches.has_iff.mpr hlong
    have hmuteless := h.value_none_symm hmute hlong
    simp only [hmuteless, htoggle, Option.bind_eq_bind, Option.bind_none]
    exact .toggleMute rfl fun _ _ => rfl

/-- Every option that a grammar has accepted is carried out. -/
theorem heeds_of_accepted {v : Verb} (h : m.Accepted v.grammar) {long : String}
    (hlong : long ∈ m.occurrences) : Heeds (v.command m) long (m.valuesOf long) := by
  cases v with
  | properties => exact heeds_properties h hlong
  | inhibit => exact heeds_inhibit h hlong
  | backlight => exact heeds_backlight h hlong
  | audioSink => exact heeds_audioSink h hlong
  | _ =>
      obtain ⟨o, ho, -⟩ := h.known long hlong
      cases ho

/-! ## Failures for two changes of the volume -/

/-- The action does not fail because the volume was to be both set and changed. -/
def Coherent (x : Action σ Trouble α) : Prop :=
  ∀ w trouble, (x w).1 = .error trouble → trouble.cause ≠ .setAndChange

namespace Coherent

variable {x : Action σ Trouble α} {f : α → Action σ Trouble β}

theorem done (a : α) : Coherent (Action.done a : Action σ Trouble α) := FailsOnly.done a

theorem fail {trouble : Trouble} (h : trouble.cause ≠ .setAndChange) :
    Coherent (Action.fail trouble : Action σ Trouble α) := by
  intro w trouble' herror
  cases herror
  exact h

theorem note (e : Client.Event) : Coherent (Action.note e : Action σ Trouble Unit) :=
  FailsOnly.note e

theorem bind (hx : Coherent x) (hf : ∀ a, Coherent (f a)) : Coherent (x >>= f) :=
  FailsOnly.bind hx hf

/-- What is told of a fault of the client is another cause. -/
theorem mapError (x : Action σ Fault α) {g : Fault → Trouble}
    (hg : ∀ fault, (g fault).cause = .fault fault) : Coherent (x.mapError g) :=
  FailsOnly.mapError x fun fault => by
    rw [hg]
    exact nofun

theorem within (context : String) (x : Action σ Fault α) : Coherent (Command.within context x) :=
  mapError x fun _ => rfl

theorem plainly (x : Action σ Fault α) : Coherent (Command.plainly x) := mapError x fun _ => rfl

theorem each {f : α → Action σ Trouble β} (hf : ∀ a, Coherent (f a)) (as : List α) :
    Coherent (Action.each f as) := by
  induction as with
  | nil => exact done []
  | cons a as ih => exact (hf a).bind fun _ => ih.bind fun _ => done _

theorem printEach {f : α → String} (as : List α) :
    Coherent (Action.each (fun a => Action.printLine (f a)) as : Action σ Trouble (List Unit)) :=
  each (fun _ => note _) as

/-- The handle to the session is made without a failure. -/
theorem withSession {s : Service} {f : Session → Action σ Trouble β}
    (hf : ∀ session, Coherent (f session)) : Coherent (s.session >>= f) :=
  fun _ => hf _ _

/-- A failure that is put off is still one of the action's own. -/
theorem attempt_bind (hx : Coherent x) {f : Except Trouble α → Action σ Trouble β}
    (hf : ∀ r, Coherent (Action.ofExcept r : Action σ Trouble α) → Coherent (f r)) :
    Coherent (x.attempt >>= f) := by
  intro w
  refine hf (x w).1 (fun w' trouble h => hx w trouble ?_) (x w).2
  cases hr : (x w).1 with
  | ok a =>
      rw [hr] at h
      cases h
  | error trouble' =>
      rw [hr] at h
      cases h
      rfl

theorem quietly {x : Action σ Trouble Unit} (hx : Coherent x) : Coherent (Command.quietly x) :=
  hx.bind fun _ => done 0

end Coherent

open Coherent (done note withSession printEach)

theorem status_coherent (s : Service) : Coherent (status s : Action σ Trouble Unit) := by
  refine withSession fun session => ?_
  refine .bind ?_ fun overview => .bind (printEach _) fun _ => ?_
  · repeat refine .bind (.within _ _) fun _ => ?_
    exact done _
  · refine .bind (.within _ _) fun backlights => .bind (note _) fun _ => ?_
    refine .bind (.each (fun b => ?_) _) fun _ => .bind (.within _ _) fun sinks => ?_
    · exact .bind (.within _ _) fun _ => .bind (.within _ _) fun _ => note _
    · cases sinks with
      | nil => exact done ()
      | cons sink sinks =>
          refine .bind (.within _ _) fun default => .bind (note _) fun _ => ?_
          refine .bind (.each (fun a => ?_) _) fun _ => done ()
          repeat refine .bind (.within _ _) fun _ => ?_
          exact note _

theorem readProperties_coherent (s : Service) (backlight audioSink : Option String) :
    Coherent (readProperties s backlight audioSink : Action σ Trouble _) := by
  unfold readProperties
  split
  · exact .bind (.plainly _) fun _ => .within _ _
  · exact .bind (.plainly _) fun _ => .within _ _
  · exact withSession fun _ => .within _ _

theorem exitCodeOf_coherent (program : String) (ending : Ending) :
    Coherent (exitCodeOf program ending : Action σ Trouble Exit) := by
  cases ending with
  | exited code => exact done _
  | killed => exact .bind (note _) fun _ => done 1

theorem hold_coherent (env : Environment) (session : Session) (id : Client.InhibitorId)
    (program : String) (words : List String) :
    Coherent (hold env session id program words : Action σ Trouble Exit) := by
  refine .bind (note _) fun _ => .bind ?_ fun _ => ?_
  · cases env.runProgram words with
    | notStarted fault => exact done ()
    | ended output complaints ending => exact note _
  · refine .attempt_bind (.within _ _) fun released hreleased => ?_
    cases env.runProgram words with
    | notStarted fault => exact .fail nofun
    | ended output complaints ending =>
        -- the removal's own failure is given back here, behind the run of the program
        exact .bind hreleased fun _ => exitCodeOf_coherent program ending

theorem inhibit_coherent (env : Environment) (session : Session) (who : String)
    (why : Option String) (words : List String) :
    Coherent (inhibit env session who why words : Action σ Trouble Exit) := by
  refine .bind (.within _ _) fun id => ?_
  cases words with
  | nil => exact .bind (note _) fun _ => done 0
  | cons program arguments => exact hold_coherent env session id program _

theorem backlight_coherent (s : Service) (name : Option String) (set : Option UInt32)
    (inc : Option Int32) : Coherent (backlight s name set inc : Action σ Trouble Unit) := by
  refine .bind ?_ fun b => .bind (note _) fun _ => .bind ?_ fun _ => note _
  · cases name with
    | some name => exact .plainly _
    | none =>
        refine .bind (.within _ _) fun backlights => ?_
        cases backlights with
        | nil => exact .fail nofun
        | cons b rest => exact done b
  · unfold adjustBrightness
    split
    · exact .bind (.within _ _) fun _ => done _
    · exact .bind (.within _ _) fun _ => done _
    · exact .within _ _

/-- The one command that can fail so does not, unless its options contradict each other. -/
theorem audioSink_coherent (s : Service) (id : Option String) {change : CommandLine.AudioChange}
    (h : ¬(change.set.isSome ∧ change.inc.isSome)) :
    Coherent (audioSink s id change : Action σ Trouble Unit) := by
  refine .bind ?_ fun a => .bind (note _) fun _ => ?_
  · cases id with
    | some id => exact .plainly _
    | none =>
        refine .bind (.within _ _) fun found => ?_
        cases found with
        | none => exact .fail nofun
        | some a => exact done a
  · rw [if_neg (by simpa using h)]
    refine .bind ?_ fun volume => .bind ?_ fun mute => note _
    · unfold adjustVolume
      split
      · exact .bind (.within _ _) fun _ => done _
      · exact .within _ _
      · exact .within _ _
    · unfold adjustMute
      split
      · exact .bind (.within _ _) fun _ => done _
      · exact .within _ _
      · exact .within _ _

theorem tellPending_coherent : Coherent (tellPending : Action σ Trouble Unit) := by
  refine .bind (fun _ _ h => nomatch h) fun deliveries => .bind (printEach _) fun _ => ?_
  intro w trouble h
  unfold ensureConnected at h
  split at h
  · cases h
    exact nofun
  · cases h

theorem listen_coherent (arrivals : List Bus.Arrival) :
    Coherent (listen arrivals : Action σ Trouble Exit) := by
  induction arrivals with
  | nil => exact tellPending_coherent.bind fun _ => done Exit.waiting
  | cons arrival rest ih =>
      exact tellPending_coherent.bind fun _ => .bind (fun _ _ h => nomatch h) fun _ => ih

theorem monitor_coherent (arrivals : List Bus.Arrival) (s : Service) :
    Coherent (monitor arrivals s : Action σ Trouble Exit) :=
  withSession fun _ => .bind (.each (fun _ => .plainly _) _) fun _ => listen_coherent arrivals

theorem perform_coherent (env : Environment) (settings : Settings) (s : Service)
    {command : CommandLine.Command} (h : command.Consistent) :
    Coherent (perform env settings s command : Action σ Trouble Exit) := by
  cases command with
  | status => exact (status_coherent s).quietly
  | properties backlight audioSink =>
      refine .quietly (.bind (readProperties_coherent s _ _) fun properties => ?_)
      exact .bind (printEach _) fun _ => done ()
  | lock => exact .quietly (withSession fun _ => .within _ _)
  | unlock => exact .quietly (withSession fun _ => .within _ _)
  | inhibit who why words =>
      exact withSession fun session => inhibit_coherent env session _ why words
  | uninhibit id => exact .quietly (withSession fun _ => .within _ _)
  | stopInhibitors =>
      exact .quietly (withSession fun _ => .bind (.within _ _) fun _ => note _)
  | listInhibitors =>
      refine .quietly (withSession fun _ => .bind (.within _ _) fun table => ?_)
      exact .bind (printEach _) fun _ => done ()
  | backlight name set inc => exact (backlight_coherent s _ set inc).quietly
  | audioSink id change => exact (audioSink_coherent s _ h.1).quietly
  | monitor => exact monitor_coherent env.arrivals s
  | version => exact .quietly (withSession fun _ => .bind (.within _ _) fun _ => note _)

theorem load_coherent (env : Environment) (config : Option String) :
    Coherent (Settings.load env config : Action σ Trouble Settings) := by
  intro w trouble herror hcause
  rw [((Settings.load_amountsTo env config).apply_of_settled w).1] at herror
  rcases Settings.cause_of_outcome herror with ⟨fault, hunreadable⟩ | hbad
  · cases hcause.symm.trans hunreadable
  · cases hcause.symm.trans hbad

theorem run_coherent (env : Environment) {r : CommandLine.Request} (h : r.command.Consistent) :
    Coherent (run env r : Action σ Trouble Exit) := by
  refine .bind (load_coherent env r.config) fun settings => .bind ?_ fun _ =>
    perform_coherent env settings _ h
  unfold connect
  split
  · exact .fail nofun
  · exact done ()

theorem refuse_coherent (refusal : CommandLine.Refusal) :
    Coherent (refuse refusal : Action σ Trouble Exit) := by
  unfold refuse
  split
  · exact .bind (note _) fun _ => done _
  · exact done _

/-! ## Every command line -/

/-- No accepted command line contains contradictory options: its command is consistent, and every
    option among its words is carried out. So no run, whatever its command line is, fails because
    the volume was to be both set and changed. -/
theorem obey_consistent (words : List String) :
    (∀ r, CommandLine.read words = .ok r → r.command.Consistent ∧
      ∃ front v rest m, words = front ++ Verb.word v :: rest ∧ v.grammar.match rest = .ok m ∧
        r.command = v.command m ∧ ∀ long ∈ m.occurrences, Heeds r.command long (m.valuesOf long)) ∧
    ∀ (σ : Type) (env : Environment) (w : World σ) (trouble : Trouble),
      (obey env words w).1 = .error trouble → trouble.cause ≠ .setAndChange := by
  have hread : ∀ r, CommandLine.read words = .ok r → r.command.Consistent := by
    intro r hr
    obtain ⟨front, v, rest, m, -, hm, hcommand⟩ := CommandLine.match_of_read hr
    exact hcommand ▸ Verb.command_consistent (.of_match hm)
  refine ⟨fun r hr => ⟨hread r hr, ?_⟩, fun σ env => ?_⟩
  · obtain ⟨front, v, rest, m, hwords, hm, hcommand⟩ := CommandLine.match_of_read hr
    refine ⟨front, v, rest, m, hwords, hm, hcommand, fun long hlong => ?_⟩
    exact hcommand ▸ heeds_of_accepted (.of_match hm) hlong
  · show Coherent (obey env words)
    unfold obey
    cases hr : CommandLine.read words with
    | error refusal => exact refuse_coherent refusal
    | ok r => exact run_coherent env (hread r hr)

end SessionControl.Command
