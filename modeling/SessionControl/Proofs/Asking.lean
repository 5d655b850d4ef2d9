import SessionControl.Proofs.Conversing
import SessionControl.Proofs.Devices
import SessionControl.Proofs.Fidelity

set_option autoImplicit false

/-! # Asking about an attribute

An attribute of a device is adjusted with one call, and the value that comes out is the one that was
asked for, the one that the call has returned, or the one that it has read. Over a service that
keeps devices all three are the value that is stored afterwards (`Settles.ends`). -/

namespace SessionControl.Command

open Client (Action AudioSink Backlight Fault Handle Inquiry PropertyValue World)
open Client.PropertyValue (Narrowing)

variable {σ β : Type}

/-! ## What is asked for of an attribute -/

/-- An attribute is read, set to a value, or changed by the service. -/
inductive Ask (a : Attribute)
  | read
  | set (v : a.Value)
  | change (args : Bus.Body)

namespace Ask

variable {a : Attribute}

def call (path : String) : Ask a → Bus.Call
  | read => a.getCall path
  | set v => a.setCall path v
  | change args => a.changeCall path args

/-- What the answer to a call tells of the value that is stored afterwards. -/
def Tells : Ask a → Bus.Body → a.Value → Prop
  | read, body, v => body = [.variant (a.wire v)]
  | set v', _, v => v = v'
  | change _, body, v => body = [a.wire v]

def changes : Ask a → Bool
  | read => false
  | set _ | change _ => true

theorem adjusts {ask : Ask a} {path : String} (h : isMutating (ask.call path) = true) :
    Adjusts (ask.call path) := by
  cases ask with
  | read => cases (a.mutating_getCall path).symm.trans h
  | set v => exact .set a path v
  | change args => exact .change a path args

/-- A call touches at most what it asks to change. -/
theorem eq_of_touches {ask : Ask a} {path : String} {a' : Attribute} {path' : String}
    (h : Touches (ask.call path) a' path') : a' = a ∧ path' = path ∧ ask.changes = true := by
  obtain ⟨hpath, hmember⟩ := h
  cases ask with
  | read => exact absurd hmember a'.not_of_get
  | set v => exact ⟨a.eq_of_setter hmember, hpath.symm, rfl⟩
  | change args => exact ⟨a.eq_of_changer hmember, hpath.symm, rfl⟩

end Ask

/-- The action makes the one call that is asked for, and its result is the value that the answer
    tells. -/
def Settles {a : Attribute} (x : Action σ Trouble β) (path : String) (ask : Ask a)
    (f : a.Value → β) : Prop :=
  ∃ read, x.AmountsTo (.asks (ask.call path) read) ∧
    (∀ failure b, read (.error failure) ≠ .ok b) ∧
      ∀ body v, ask.Tells body v → read (.ok body) = .ok (f v)

/-- What an answer tells is what is stored, and other attributes stay as they are. -/
theorem Keeps.tells_stored {rule : Rule} {peer : Bus.Peer σ} {devices : σ → Devices}
    (h : Keeps rule peer devices) {c : Bus.Connection σ} (hpeer : c.peer = peer) {a : Attribute}
    (ask : Ask a) (path : String) {body : Bus.Body}
    (hok : (c.exchange (ask.call path)).1 = .ok body) :
    ask.Tells body ((devices (c.exchange (ask.call path)).2.state).stored a path) ∧
      ∀ a' path', a' ≠ a →
        (devices (c.exchange (ask.call path)).2.state).stored a' path' =
          (devices c.state).stored a' path' := by
  subst hpeer
  have hanswer := returned_of_ok hok
  cases ask with
  | read =>
      have hsame : devices (c.exchange (a.getCall path)).2.state = devices c.state :=
        h.unchanged_of_read rfl (a.mutating_getCall path)
      refine ⟨?_, fun a' path' _ => congrArg (fun d => d.stored a' path') hsame⟩
      show body = [.variant (a.wire
        ((devices (c.exchange (a.getCall path)).2.state).stored a path))]
      rw [hsame]
      exact h.get c.state a path body hanswer
  | set v =>
      have hstored : devices (c.exchange (a.setCall path v)).2.state =
          (devices c.state).put a path v := h.set c.state a path v body hanswer
      simp only [Ask.call, hstored]
      exact ⟨Devices.put_same _ a path v, fun a' path' ha => Devices.put_other (.inl ha) _ v⟩
  | change args =>
      obtain ⟨v, -, hbody, hstored⟩ := h.change c.state a path args body hanswer
      change devices (c.exchange (a.changeCall path args)).2.state = _ at hstored
      simp only [Ask.call, hstored]
      refine ⟨?_, fun a' path' ha => Devices.put_other (.inl ha) _ v⟩
      rw [Devices.put_same]
      exact hbody

namespace Settles

variable {a : Attribute} {x : Action σ Trouble β} {path : String} {ask : Ask a} {f : a.Value → β}

/-- The one call is made, and over a service that keeps devices only its rejection is a failure. -/
theorem converses (hx : Settles x path ask f) {rule : Rule} {peer : Bus.Peer σ}
    {devices : σ → Devices} (hkeeps : Keeps rule peer devices) {w : World σ}
    (hpeer : w.connection.peer = peer) {excuse : Prop}
    (hclosed : w.connection.phase = .closed → excuse) :
    Converses x w [ask.call path] excuse := by
  obtain ⟨read, hx, herror, hread⟩ := hx
  refine .of_asks hx herror w hclosed fun body trouble hbody htrouble => ?_
  by_cases hphase : w.connection.phase = .closed
  · exact hclosed hphase
  · have hresult := (exchange_of_amountsTo hx hphase).1
    rw [hbody, hread body _ (hkeeps.tells_stored hpeer ask path hbody).1] at hresult
    cases hresult.symm.trans htrouble

/-- Where the action ends well, its result is the value that is stored, and no other attribute has
    changed. -/
theorem ends (hx : Settles x path ask f) {rule : Rule} {peer : Bus.Peer σ}
    {devices : σ → Devices} (hkeeps : Keeps rule peer devices) {w : World σ}
    (hpeer : w.connection.peer = peer) :
    Ends x w fun b w' => b = f ((devices w'.connection.state).stored a path) ∧
      w'.connection.peer = peer ∧
        ∀ a' path', a' ≠ a → (devices w'.connection.state).stored a' path' =
          (devices w.connection.state).stored a' path' := by
  intro b hok
  obtain ⟨read, hx, herror, hread⟩ := hx
  -- a closed connection rejects every call, and a rejection is never read as a value
  have hopen : w.connection.phase ≠ .closed := by
    intro hclosed
    have hresult := (hx w w (.refl w)).1
    simp only [Inquiry.run, Action.call_of_closed _ hclosed] at hresult
    exact herror _ b (hresult.symm.trans hok)
  obtain ⟨hresult, hconnection, -⟩ := exchange_of_amountsTo hx hopen
  rw [hconnection]
  cases hanswer : (w.connection.exchange (ask.call path)).1 with
  | error failure =>
      rw [hresult, hanswer] at hok
      exact absurd hok (herror failure b)
  | ok body =>
      obtain ⟨htells, hothers⟩ := hkeeps.tells_stored hpeer ask path hanswer
      rw [hresult, hanswer, hread body _ htells] at hok
      exact ⟨(Except.ok.inj hok).symm, hpeer, hothers⟩

/-! ### By the three kinds of calls -/

theorem of_command {h : Handle} {v : a.Value} {g : Fault → Trouble}
    (hx : x.AmountsTo (((h.commandInquiry a.setter [a.wire v]).mapError g).map fun _ => f v))
    (hcall : h.methodCall a.setter [a.wire v] = a.setCall path v) :
    Settles x path (.set v) f := by
  change x.AmountsTo (.asks (h.methodCall a.setter [a.wire v]) _) at hx
  rw [hcall] at hx
  refine ⟨_, hx, nofun, fun body v' htells => ?_⟩
  cases htells
  rfl

theorem of_request {h : Handle} {args : Bus.Body} {result : Bus.Argument a.Value}
    {g : Fault → Trouble}
    (hx : x.AmountsTo (((h.requestInquiry a.changer args result).mapError g).map f))
    (hcall : h.methodCall a.changer args = a.changeCall path args)
    (hread : ∀ v, result.read? (a.wire v) = some v) : Settles x path (.change args) f := by
  change x.AmountsTo (.asks (h.methodCall a.changer args) _) at hx
  rw [hcall] at hx
  refine ⟨_, hx, nofun, fun body v htells => ?_⟩
  cases htells
  show ((Handle.firstOf result (.ok [a.wire v])).mapError g).bind _ = _
  rw [Handle.firstOf_cons, hread]
  rfl

/-- As `of_request`, where the result is taken as it is. -/
theorem of_request_only {x : Action σ Trouble a.Value} {h : Handle} {args : Bus.Body}
    {result : Bus.Argument a.Value} {g : Fault → Trouble}
    (hx : x.AmountsTo ((h.requestInquiry a.changer args result).mapError g))
    (hcall : h.methodCall a.changer args = a.changeCall path args)
    (hread : ∀ v, result.read? (a.wire v) = some v) :
    Settles x path (.change args) fun v => v := by
  rw [← Inquiry.map_id (Inquiry.mapError g _)] at hx
  exact of_request hx hcall hread

theorem of_property {h : Handle} {kind : Narrowing β} {g : Fault → Trouble}
    (hx : x.AmountsTo ((h.propertyInquiry kind a.property).mapError g))
    (hcall : h.propertyCall "Get" [.string a.property] = a.getCall path)
    (htake : ∀ v, kind.take? (PropertyValue.ofWire (a.wire v)) = some (f v)) :
    Settles x path .read f := by
  change x.AmountsTo (.asks (h.propertyCall "Get" [.string a.property]) _) at hx
  rw [hcall] at hx
  refine ⟨_, hx, nofun, fun body v htells => ?_⟩
  have hnarrow : Handle.narrow kind a.property (PropertyValue.ofWire (a.wire v)) = .ok (f v) := by
    simp only [Handle.narrow, htake]
  cases htells
  show (Handle.narrow kind a.property (PropertyValue.ofWire (a.wire v))).mapError g = _
  rw [hnarrow]
  rfl

end Settles

/-! ## Adjusting what was found -/

def brightnessAsk : Option UInt32 → Option Int32 → Ask .brightness
  | some v, _ => .set v
  | none, some v => .change [.int32 v]
  | none, none => .read

def volumeAsk : Option Binary64 → Option Binary64 → Ask .volume
  | some v, _ => .set v
  | none, some v => .change [.double v]
  | none, none => .read

def muteAsk : Option Bool → Bool → Ask .mute
  | some m, _ => .set m
  | none, true => .change []
  | none, false => .read

/-- A handle that is used on the interface of an attribute makes the calls of that attribute. -/
theorem methodCall_attribute {h : Handle} {a : Attribute} (hinterface : h.interface = a.interface)
    (member : String) (args : Bus.Body) :
    h.methodCall member args = deviceCall h.path.text a.interface member args := by
  rw [← hinterface]
  rfl

theorem propertyCall_attribute {h : Handle} {a : Attribute}
    (hinterface : h.interface = a.interface) :
    h.propertyCall "Get" [.string a.property] = a.getCall h.path.text := by
  unfold Attribute.getCall
  rw [← hinterface]
  rfl

theorem adjustBrightness_settles {b : Backlight}
    (hb : b.handle.interface = Attribute.brightness.interface) (set : Option UInt32)
    (inc : Option Int32) :
    Settles (adjustBrightness b set inc : Action σ Trouble UInt64) b.handle.path.text
      (brightnessAsk set inc) UInt32.toUInt64 := by
  rcases set with _ | v
  · rcases inc with _ | v
    · exact .of_property ((Handle.property_amountsTo _ _ _).mapError _)
        (propertyCall_attribute hb) fun _ => rfl
    · exact .of_request (((b.incBrightness_amountsTo v).mapError _).map _)
        (methodCall_attribute hb _ _) fun _ => rfl
  · exact .of_command (a := .brightness) (((b.setBrightness_amountsTo v).mapError _).map _)
      (methodCall_attribute hb _ _)

theorem adjustVolume_settles {a : AudioSink}
    (ha : a.handle.interface = Attribute.volume.interface) (set inc : Option Binary64) :
    Settles (adjustVolume a set inc : Action σ Trouble Binary64) a.handle.path.text
      (volumeAsk set inc) fun v => v := by
  rcases set with _ | v
  · rcases inc with _ | v
    · exact .of_property ((Handle.property_amountsTo _ _ _).mapError _)
        (propertyCall_attribute ha) fun _ => rfl
    · exact .of_request_only ((a.incVolume_amountsTo v).mapError _) (methodCall_attribute ha _ _)
        fun _ => rfl
  · exact .of_command (a := .volume) (((a.setVolume_amountsTo v).mapError _).map _)
      (methodCall_attribute ha _ _)

theorem adjustMute_settles {a : AudioSink}
    (ha : a.handle.interface = Attribute.mute.interface) (mute : Option Bool) (toggle : Bool) :
    Settles (adjustMute a mute toggle : Action σ Trouble Bool) a.handle.path.text
      (muteAsk mute toggle) fun v => v := by
  rcases mute with _ | m
  · cases toggle with
    | true =>
        exact .of_request_only (a.toggleMute_amountsTo.mapError _) (methodCall_attribute ha _ _)
          fun _ => rfl
    | false =>
        exact .of_property ((Handle.property_amountsTo _ _ _).mapError _)
          (propertyCall_attribute ha) fun _ => rfl
  · exact .of_command (a := .mute) (((a.setMute_amountsTo m).mapError _).map _)
      (methodCall_attribute ha _ _)

end SessionControl.Command
