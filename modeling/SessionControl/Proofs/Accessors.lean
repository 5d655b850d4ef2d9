import Mathlib.Data.List.Forall2
import SessionControl.Proofs.Coercion
import SessionControl.Proofs.Fidelity

set_option autoImplicit false

/-! # Typed accessors

The accessors of the session, its backlights and its audio sinks each read one property and promise
a kind for it. What a wire value carries of a kind is told by its outermost form without variants
alone (`Wire.Carries`), item by item for a list of texts. An accessor gives what the value carries,
and where it carries nothing of the promised kind, the accessor says so and gives nothing
(`Operation.perform_typed`). -/

namespace SessionControl.Bus

open Client (Outcome Promised)

/-! ## What wire values carry -/

namespace Wire

/-- A text or a path, in any number of variants. -/
def IsText (w : Wire) (s : String) : Prop := w.core = .string s ∨ w.core = .objectPath s

/-- What a wire value in any number of variants carries of a kind of property. Small and large
    numbers carry themselves, and an array carries the texts of its items in order. -/
inductive Carries (w : Wire) : Promised → Outcome → Prop
  | text {s : String} (h : w.IsText s) : Carries w .text (.text s)
  | flag {b : Bool} (h : w.core = .boolean b) : Carries w .flag (.flag b)
  | small {n : UInt32} {m : UInt64} (h : w.core = .uint32 n) (same : m.toNat = n.toNat) :
      Carries w .count (.count m)
  | large {n : UInt64} (h : w.core = .uint64 n) : Carries w .count (.count n)
  | level {x : Binary64} (h : w.core = .double x) : Carries w .level (.level x)
  | texts {element : WireType} {items : List Wire} {ss : List String}
      (h : w.core = .array element items) (each : List.Forall₂ IsText items ss) :
      Carries w .texts (.texts ss)

end Wire
end SessionControl.Bus

namespace SessionControl.Client

variable {σ : Type}

open Bus (Wire)

/-! ## Narrowing what was coerced -/

theorem text?_ofWire_eq_some {w : Wire} {s : String} :
    (PropertyValue.ofWire w).text? = some s ↔ w.IsText s := by
  rw [PropertyValue.ofWire_eq, Wire.IsText]
  cases w.core <;> simp [PropertyValue.text?]

/-- All items are texts or the list is none of texts. -/
theorem mapM_text?_eq_some {items : List Wire} {ss : List String} :
    (items.map PropertyValue.ofWire).mapM PropertyValue.text? = some ss ↔
      List.Forall₂ Wire.IsText items ss := by
  induction items generalizing ss with
  | nil => cases ss <;> simp
  | cons w items ih =>
      simp only [List.map_cons, List.mapM_cons, Option.bind_eq_bind, Option.bind_eq_some_iff,
        Option.pure_def, Option.some.injEq, text?_ofWire_eq_some, ih]
      constructor
      · rintro ⟨s, hs, ss', hss, rfl⟩
        exact .cons hs hss
      · rintro (_ | ⟨hs, hss⟩)
        exact ⟨_, hs, _, hss, rfl⟩

theorem Promised.take?_of_carries {promised : Promised} {w : Wire} {o : Outcome}
    (h : w.Carries promised o) : promised.take? (PropertyValue.ofWire w) = some o := by
  rw [PropertyValue.ofWire_eq]
  cases h with
  | text h => rcases h with h | h <;> rw [h] <;> rfl
  | flag h | large h | level h => rw [h]; rfl
  | small h same =>
      rw [h, UInt64.toNat_inj.mp (same.trans (UInt32.toNat_toUInt64 _).symm)]
      rfl
  | texts h each =>
      rw [h]
      exact Option.map_eq_some_iff.mpr ⟨_, mapM_text?_eq_some.mpr each, rfl⟩

theorem Promised.carries_of_take? {promised : Promised} {w : Wire} {o : Outcome}
    (h : promised.take? (PropertyValue.ofWire w) = some o) : w.Carries promised o := by
  rw [PropertyValue.ofWire_eq] at h
  cases promised with
  | text =>
      cases hw : w.core <;> rw [hw] at h <;> cases h
      · exact .text (.inl hw)
      · exact .text (.inr hw)
  | flag =>
      cases hw : w.core <;> rw [hw] at h <;> cases h
      exact .flag hw
  | count =>
      cases hw : w.core <;> rw [hw] at h <;> cases h
      · exact .small hw (UInt32.toNat_toUInt64 _)
      · exact .large hw
  | level =>
      cases hw : w.core <;> rw [hw] at h <;> cases h
      exact .level hw
  | texts =>
      cases hw : w.core with
      | array element items =>
          rw [hw] at h
          obtain ⟨ss, hss, rfl⟩ := Option.map_eq_some_iff.mp h
          exact .texts hw (mapM_text?_eq_some.mp hss)
      | _ =>
          rw [hw] at h
          cases h

/-- Narrowing a coerced value takes what the wire value carries, and takes nothing else. -/
theorem Promised.take?_ofWire_eq_some {promised : Promised} {w : Wire} {o : Outcome} :
    promised.take? (PropertyValue.ofWire w) = some o ↔ w.Carries promised o :=
  ⟨carries_of_take?, take?_of_carries⟩

/-! ## The accessors -/

/-- The property that an accessor of the session reads, and what it promises of it. -/
def SessionOperation.promise? : SessionOperation → Option (String × Promised)
  | version => some ("Version", .text)
  | idleHint => some ("IdleHint", .flag)
  | inhibitedHint => some ("InhibitedHint", .flag)
  | lockedHint => some ("LockedHint", .flag)
  | idleSinceHint => some ("IdleSinceHint", .count)
  | idleSinceHintMonotonic => some ("IdleSinceHintMonotonic", .count)
  | backlights => some ("Backlights", .texts)
  | audioSinks => some ("AudioSinks", .texts)
  | defaultAudioSink => some ("DefaultAudioSink", .text)
  | _ => none

def BacklightOperation.promise? : BacklightOperation → Option (String × Promised)
  | brightness => some ("Brightness", .count)
  | maxBrightness => some ("MaxBrightness", .count)
  | deviceName => some ("Name", .text)
  | online => some ("Online", .flag)
  | subsystem => some ("Subsystem", .text)
  | sysPath => some ("SysPath", .text)
  | devPath => some ("DevPath", .text)
  | _ => none

def AudioSinkOperation.promise? : AudioSinkOperation → Option (String × Promised)
  | id => some ("Id", .count)
  | name => some ("Name", .text)
  | mute => some ("Mute", .flag)
  | volume => some ("Volume", .level)
  | _ => none

namespace Operation

/-- The property that a typed accessor reads, and what it promises of it. -/
def promise? : Operation → Option (String × Promised)
  | onSession op => op.promise?
  | onBacklight _ op => op.promise?
  | onAudioSink _ op => op.promise?
  | _ => none

/-- What an accessor gives for what the value carries. Only the default audio sink is one that might
    have been absent. -/
def gives : Operation → Outcome → Outcome
  | onSession .defaultAudioSink, .text s => .optionalText (some s)
  | _, outcome => outcome

/-- An accessor asks for its property and expects the promised kind. -/
structure Asks (op : Operation) (name : String) (promised : Promised) (q : Question) : Prop where
  question : op.question? = some q
  approach : q.approach = .get name
  result : q.result = .property name promised
  finish (outcome : Outcome) : q.finish outcome = .ok (op.gives outcome)

theorem asks_of_promise? {op : Operation} {name : String} {promised : Promised}
    (h : op.promise? = some (name, promised)) : ∃ q, op.Asks name promised q := by
  cases op with
  | onSession op =>
      cases op with
      | defaultAudioSink =>
          cases h
          exact ⟨_, rfl, rfl, rfl, fun outcome => by cases outcome <;> rfl⟩
      | _ => cases h <;> exact ⟨_, rfl, rfl, rfl, fun _ => rfl⟩
  | onBacklight target op =>
      cases op <;> cases h <;> exact ⟨_, rfl, rfl, rfl, fun _ => rfl⟩
  | onAudioSink target op =>
      cases op <;> cases h <;> exact ⟨_, rfl, rfl, rfl, fun _ => rfl⟩
  | onObject path suffix op => cases h
  | onService op => cases h

/-- What an accessor makes of a value. -/
theorem Asks.answered {op : Operation} {name : String} {promised : Promised} {q : Question}
    (h : op.Asks name promised q) (v : Wire) (rest : Bus.Body) :
    q.answered (.variant v :: rest) =
      match promised.take? (PropertyValue.ofWire v) with
      | some outcome => .ok (op.gives outcome)
      | none => .error (.unexpectedKind name promised.words (PropertyValue.ofWire v)) := by
  simp only [Question.answered, h.result, Result.kind?, Result.meaning?]
  cases promised.take? (PropertyValue.ofWire v) with
  | some outcome => exact h.finish outcome
  | none => rfl

/-- A typed accessor whose property is told succeeds if and only if the value carries something of
    the promised kind, and gives just that. Otherwise it tells the property, what was promised of
    it, and the value that was found in its place. -/
theorem perform_typed (s : Service) (w : World σ) (op : Operation) {name : String}
    {promised : Promised} (hop : op.promise? = some (name, promised))
    (hpath : Bus.ObjectPath.isValid op.path.toList = true)
    (hopen : w.connection.phase ≠ .closed) {reply : Bus.Reply} {state : σ}
    (hreply : w.connection.peer.reply w.connection.state
      ((Approach.get name).call op.path op.interface) = (reply, state))
    {v : Wire} {rest : Bus.Body} (hanswer : reply.answer = .returned (.variant v :: rest)) :
    (∀ outcome, (op.perform s w).1 = .ok outcome ↔
      ∃ carried, v.Carries promised carried ∧ outcome = op.gives carried) ∧
    ((∀ carried, ¬v.Carries promised carried) → (op.perform s w).1 =
      .error (.unexpectedKind name promised.words (PropertyValue.ofWire v))) := by
  obtain ⟨q, hq⟩ := asks_of_promise? hop
  have hresult : (op.perform s w).1 = q.answered (.variant v :: rest) := by
    have hcalled : w.connection.peer.reply w.connection.state
        (q.approach.call op.path op.interface) = (reply, state) := hq.approach ▸ hreply
    obtain ⟨hrun, -⟩ := (op.perform_amountsTo s) w w (.refl w)
    obtain ⟨hmade, -⟩ := (op.inquiry_poses s hq.question hpath).run hopen hcalled
    rw [hrun, hmade, hanswer]
    rfl
  rw [hresult, hq.answered]
  simp only [← Promised.take?_ofWire_eq_some]
  cases promised.take? (PropertyValue.ofWire v) with
  | some carried => simp [eq_comm]
  | none => simp

/-- Texts and paths may be mixed, each in variants of its own, but a single number among them
    leaves nothing of the list. -/
theorem perform_typed_mixed :
    let told (last : Wire) : Wire :=
      .variant (.array .variant [.variant (.string "/a"), .variant (.variant last)])
    let w (last : Wire) : World (List Bus.Reply) :=
      { connection := .fresh (.scripted .noReply) [{ answer := .returned [.variant (told last)] }] }
    ((onSession .audioSinks).perform {} (w (.objectPath "/b"))).1 = .ok (.texts ["/a", "/b"]) ∧
      ((onSession .audioSinks).perform {} (w (.byte 7))).1 = .error
        (.unexpectedKind "AudioSinks" "an array of strings" (.list [.text "/a", .absent])) := by
  intro told w
  have htyped := fun last => perform_typed {} (w last) (onSession .audioSinks) rfl (by decide)
    (show (w last).connection.phase ≠ .closed from nofun) rfl rfl
  constructor
  · refine ((htyped (.objectPath "/b")).1 _).mpr ⟨.texts ["/a", "/b"], ?_, rfl⟩
    exact .texts rfl (.cons (.inl rfl) (.cons (.inr rfl) .nil))
  · refine (htyped (.byte 7)).2 fun carried hcarried => ?_
    cases hcarried with
    | texts h each =>
        cases h
        rcases each with _ | ⟨-, _ | ⟨hlast, -⟩⟩
        rcases hlast with h | h <;> cases h

end Operation

end SessionControl.Client
