import Mathlib.Logic.Function.Basic
import SessionControl.Proofs.Mutations
import SessionControl.Proofs.Watching

set_option autoImplicit false

/-! # Devices behind the bus

A service that keeps devices stores a brightness for each backlight, and a volume and a mute state
for each audio sink (`Keeps`). It may reject any call, and how a change by a difference or a toggle
comes out is a rule of its own; a value that it is given it stores, and what it stores it tells.
Over any sequence of calls that succeed the devices are those that the changes among them leave
(`Keeps.applied`). A plain service of this kind is given at the end (`Keeper.keeps`). -/

namespace SessionControl.Command

variable {σ : Type}

/-! ## Attributes -/

/-- What can be changed of a device. -/
inductive Attribute
  | brightness | volume | mute
  deriving DecidableEq, Repr

namespace Attribute

@[reducible] def Value : Attribute → Type
  | brightness => UInt32
  | volume => Binary64
  | mute => Bool

def interface : Attribute → String
  | brightness => "org.sessiond.session1.Backlight"
  | volume | mute => "org.sessiond.session1.AudioSink"

def property : Attribute → String
  | brightness => "Brightness"
  | volume => "Volume"
  | mute => "Mute"

/-- The method that stores a value. -/
def setter : Attribute → String
  | brightness => "SetBrightness"
  | volume => "SetVolume"
  | mute => "SetMute"

/-- The method that changes what is stored by a rule of the service. -/
def changer : Attribute → String
  | brightness => "IncBrightness"
  | volume => "IncVolume"
  | mute => "ToggleMute"

/-- The value on the wire, in the type that the attribute is declared with. -/
def wire : (a : Attribute) → a.Value → Bus.Wire
  | brightness, v => .uint32 v
  | volume, v => .double v
  | mute, v => .boolean v

/-! ### Calls -/

def setCall (a : Attribute) (path : String) (v : a.Value) : Bus.Call :=
  deviceCall path a.interface a.setter [a.wire v]

def changeCall (a : Attribute) (path : String) (args : Bus.Body) : Bus.Call :=
  deviceCall path a.interface a.changer args

def getCall (a : Attribute) (path : String) : Bus.Call :=
  deviceCall path "org.freedesktop.DBus.Properties" "Get" [.string a.interface, .string a.property]

theorem mutating_getCall (a : Attribute) (path : String) :
    isMutating (a.getCall path) = false := rfl

/-! ### Methods -/

theorem setter_ne_changer (a a' : Attribute) : a.setter ≠ a'.changer := by
  cases a <;> cases a' <;> decide

theorem eq_of_property (a : Attribute) {a' : Attribute} (h : a.property = a'.property) :
    a' = a := by
  revert h
  cases a <;> cases a' <;> decide

theorem not_of_get (a : Attribute) : ¬("Get" = a.setter ∨ "Get" = a.changer) := by
  cases a <;> decide

/-- No two attributes share a method. -/
theorem eq_of_setter (a : Attribute) {a' : Attribute}
    (h : a.setter = a'.setter ∨ a.setter = a'.changer) : a' = a := by
  revert h
  cases a <;> cases a' <;> decide

theorem eq_of_changer (a : Attribute) {a' : Attribute}
    (h : a.changer = a'.setter ∨ a.changer = a'.changer) : a' = a := by
  revert h
  cases a <;> cases a' <;> decide

end Attribute

/-! ## Devices -/

/-- The values of all attributes, by the paths of the devices. -/
structure Devices where
  stored : (a : Attribute) → String → a.Value

namespace Devices

/-- Stores one value. -/
def put (d : Devices) (a : Attribute) (path : String) (v : a.Value) : Devices :=
  ⟨Function.update d.stored a (Function.update (d.stored a) path v)⟩

theorem put_same (d : Devices) (a : Attribute) (path : String) (v : a.Value) :
    (d.put a path v).stored a path = v := by
  simp [put]

theorem put_other {a a' : Attribute} {path path' : String} (h : a' ≠ a ∨ path' ≠ path)
    (d : Devices) (v : a.Value) : (d.put a path v).stored a' path' = d.stored a' path' := by
  show Function.update d.stored a (Function.update (d.stored a) path v) a' path' = _
  by_cases ha : a' = a
  · subst ha
    have hpath : path' ≠ path := h.resolve_left fun hne => hne rfl
    rw [Function.update_self, Function.update_of_ne hpath]
  · rw [Function.update_of_ne ha]

end Devices

/-- How a service changes a stored value: the path and arguments of the call, the value before, and
    one that may come out. -/
def Rule : Type := (a : Attribute) → String → Bus.Body → a.Value → a.Value → Prop

/-- A call to store a value or to change one. -/
inductive Adjusts : Bus.Call → Prop
  | set (a : Attribute) (path : String) (v : a.Value) : Adjusts (a.setCall path v)
  | change (a : Attribute) (path : String) (args : Bus.Body) : Adjusts (a.changeCall path args)

/-- What a successful call makes of the devices, if it changes them. -/
inductive Changed (rule : Rule) : Bus.Call → Devices → Devices → Prop
  | set (a : Attribute) (path : String) (v : a.Value) (d : Devices) :
      Changed rule (a.setCall path v) d (d.put a path v)
  | change (a : Attribute) (path : String) (args : Bus.Body) (d : Devices) (v : a.Value)
      (ruled : rule a path args (d.stored a path) v) :
      Changed rule (a.changeCall path args) d (d.put a path v)

/-- What several changes in turn make of the devices. -/
inductive Applied (rule : Rule) : List Bus.Call → Devices → Devices → Prop
  | nil (d : Devices) : Applied rule [] d d
  | cons {call : Bus.Call} {calls : List Bus.Call} {d d' d'' : Devices}
      (first : Changed rule call d d') (rest : Applied rule calls d' d'') :
      Applied rule (call :: calls) d d''

/-- The call is a change of this attribute of this device. -/
def Touches (call : Bus.Call) (a : Attribute) (path : String) : Prop :=
  call.path = path ∧ (call.member = a.setter ∨ call.member = a.changer)

theorem Changed.other {rule : Rule} {call : Bus.Call} {d d' : Devices}
    (h : Changed rule call d d') {a : Attribute} {path : String} (hcall : ¬Touches call a path) :
    d'.stored a path = d.stored a path := by
  cases h with
  | set a' path' v =>
      refine Devices.put_other ?_ d v
      by_contra hsame
      rw [not_or, not_not, not_not] at hsame
      obtain ⟨rfl, rfl⟩ := hsame
      exact hcall ⟨rfl, .inl rfl⟩
  | change a' path' args _ v =>
      refine Devices.put_other ?_ d v
      by_contra hsame
      rw [not_or, not_not, not_not] at hsame
      obtain ⟨rfl, rfl⟩ := hsame
      exact hcall ⟨rfl, .inr rfl⟩

/-- What no call touches stays as it is. -/
theorem Applied.other {rule : Rule} {calls : List Bus.Call} {d d' : Devices}
    (h : Applied rule calls d d') {a : Attribute} {path : String}
    (hcalls : ∀ call ∈ calls, ¬Touches call a path) : d'.stored a path = d.stored a path := by
  induction h with
  | nil d => rfl
  | cons first rest ih =>
      have hrest := ih fun call hcall => hcalls call (List.mem_cons_of_mem _ hcall)
      exact hrest.trans (first.other (hcalls _ List.mem_cons_self))

/-! ## Services that keep devices -/

/-- The service behind the bus keeps devices, which are a part of its state. A call that it does
    not answer with a success leaves them as they are, and so does a call that only reads. -/
structure Keeps (rule : Rule) (peer : Bus.Peer σ) (devices : σ → Devices) : Prop where
  rejected : ∀ s call, (∀ body, (peer.reply s call).1.answer ≠ .returned body) →
    devices (peer.reply s call).2 = devices s
  read : ∀ s call, isMutating call = false → devices (peer.reply s call).2 = devices s
  set : ∀ s (a : Attribute) path v body,
    (peer.reply s (a.setCall path v)).1.answer = .returned body →
      devices (peer.reply s (a.setCall path v)).2 = (devices s).put a path v
  /-- The new value comes out by the service's own rule, and is returned. -/
  change : ∀ s (a : Attribute) path args body,
    (peer.reply s (a.changeCall path args)).1.answer = .returned body →
      ∃ v, rule a path args ((devices s).stored a path) v ∧ body = [a.wire v] ∧
        devices (peer.reply s (a.changeCall path args)).2 = (devices s).put a path v
  /-- A value is told in its declared type. -/
  get : ∀ s (a : Attribute) path body,
    (peer.reply s (a.getCall path)).1.answer = .returned body →
      body = [.variant (a.wire ((devices s).stored a path))]

/-! ### Single calls -/

theorem returned_of_ok {c : Bus.Connection σ} {call : Bus.Call} {body : Bus.Body}
    (h : (c.exchange call).1 = .ok body) :
    (c.peer.reply c.state call).1.answer = .returned body := by
  simp only [Bus.Connection.exchange] at h
  cases hanswer : (c.peer.reply c.state call).1.answer with
  | returned body' =>
      rw [hanswer] at h
      cases h
      rfl
  | refused failure | silence | dropped =>
      rw [hanswer] at h
      cases h

theorem not_returned_of_error {c : Bus.Connection σ} {call : Bus.Call} {failure : Bus.Failure}
    (h : (c.exchange call).1 = .error failure) (body : Bus.Body) :
    (c.peer.reply c.state call).1.answer ≠ .returned body := by
  intro hanswer
  simp only [Bus.Connection.exchange, hanswer] at h
  cases h

namespace Keeps

variable {rule : Rule} {peer : Bus.Peer σ} {devices : σ → Devices}

theorem unchanged_of_error (h : Keeps rule peer devices) {c : Bus.Connection σ}
    (hpeer : c.peer = peer) {call : Bus.Call} {failure : Bus.Failure}
    (herror : (c.exchange call).1 = .error failure) :
    devices (c.exchange call).2.state = devices c.state := by
  subst hpeer
  exact h.rejected c.state call (not_returned_of_error herror)

theorem unchanged_of_read (h : Keeps rule peer devices) {c : Bus.Connection σ}
    (hpeer : c.peer = peer) {call : Bus.Call} (hread : isMutating call = false) :
    devices (c.exchange call).2.state = devices c.state := by
  subst hpeer
  exact h.read c.state call hread

/-- A call that changes something, and succeeds, changes the devices. -/
theorem changed (h : Keeps rule peer devices) {c : Bus.Connection σ} (hpeer : c.peer = peer)
    {call : Bus.Call} (hcall : Adjusts call) {body : Bus.Body}
    (hok : (c.exchange call).1 = .ok body) :
    Changed rule call (devices c.state) (devices (c.exchange call).2.state) := by
  subst hpeer
  have hanswer := returned_of_ok hok
  cases hcall with
  | set a path v =>
      have hstored := h.set c.state a path v body hanswer
      show Changed rule _ _ (devices (c.peer.reply c.state _).2)
      rw [hstored]
      exact .set a path v _
  | change a path args =>
      obtain ⟨v, hruled, -, hstored⟩ := h.change c.state a path args body hanswer
      show Changed rule _ _ (devices (c.peer.reply c.state _).2)
      rw [hstored]
      exact .change a path args _ v hruled

/-! ### Several calls -/

/-- Over calls that succeed one after another, the devices become what the changes make of them. -/
theorem applied (h : Keeps rule peer devices) {c : Bus.Connection σ} (hpeer : c.peer = peer)
    {calls : List Bus.Call} (hagreed : Agreed c calls)
    (hcalls : ∀ call ∈ mutating calls, Adjusts call) :
    Applied rule (mutating calls) (devices c.state) (devices (afterCalls c calls).state) := by
  induction calls generalizing c with
  | nil => exact .nil _
  | cons call calls ih =>
      obtain ⟨⟨body, hok⟩, hagreed⟩ := hagreed
      have hpeer' : (c.exchange call).2.peer = peer := hpeer
      cases hmutating : isMutating call with
      | true =>
          rw [mutating, List.filter_cons_of_pos hmutating] at hcalls ⊢
          refine .cons (h.changed hpeer (hcalls call List.mem_cons_self) hok) ?_
          exact ih hpeer' hagreed fun other hother => hcalls other (List.mem_cons_of_mem _ hother)
      | false =>
          -- a call that only reads is missing from the changes, and leaves the devices alone
          have hskip : ¬isMutating call = true := by simp [hmutating]
          rw [mutating, List.filter_cons_of_neg hskip] at hcalls ⊢
          rw [← h.unchanged_of_read hpeer hmutating]
          exact ih hpeer' hagreed hcalls

end Keeps

/-! ### The plainest service -/

namespace Keeper

def value? : (a : Attribute) → Bus.Body → Option a.Value
  | .brightness, [.uint32 v] => some v
  | .volume, [.double v] => some v
  | .mute, [.boolean v] => some v
  | _, _ => none

/-- A brightness is changed by a difference, and a mute state is toggled. -/
def next? : (a : Attribute) → Bus.Body → a.Value → Option a.Value
  | .brightness, [.int32 d], v => some (v + d.toUInt32)
  | .mute, [], v => some !v
  | _, _, _ => none

/-- The property that a call reads. -/
def property? (call : Bus.Call) : Option (String × String) :=
  match call.args with
  | [.string interface, .string property] =>
    if call.member = "Get" then some (interface, property) else none
  | _ => none

theorem member_of_property? {call : Bus.Call} {read : String × String}
    (h : property? call = some read) : call.member = "Get" := by
  unfold property? at h
  split at h
  · by_contra hmember
    rw [if_neg hmember] at h
    cases h
  · cases h

/-- What the service makes of a call that is about the attribute. -/
def serve? (d : Devices) (call : Bus.Call) (a : Attribute) : Option (Bus.Body × Devices) :=
  if call.member = a.setter then
    (value? a call.args).map fun v => ([], d.put a call.path v)
  else if call.member = a.changer then
    (next? a call.args (d.stored a call.path)).map fun v => ([a.wire v], d.put a call.path v)
  else if property? call = some (a.interface, a.property) then
    some ([.variant (a.wire (d.stored a call.path))], d)
  else none

/-- The service refuses what it does not serve. -/
def peer : Bus.Peer Devices where
  reply d call :=
    match [Attribute.brightness, .volume, .mute].findSome? (serve? d call) with
    | some (body, d') => ({ answer := .returned body }, d')
    | none => ({ answer := .refused .noReply }, d)

/-- A call that is answered with a success is about an attribute. -/
theorem served_of_returned {d : Devices} {call : Bus.Call} {body : Bus.Body}
    (h : (peer.reply d call).1.answer = .returned body) :
    ∃ a, serve? d call a = some (body, (peer.reply d call).2) := by
  revert h
  simp only [peer]
  split
  · next body' d' hserve =>
      intro h
      cases h
      obtain ⟨a, -, ha⟩ := List.exists_of_findSome?_eq_some hserve
      exact ⟨a, ha⟩
  · exact nofun

theorem unchanged_of_refused {d : Devices} {call : Bus.Call}
    (h : ∀ body, (peer.reply d call).1.answer ≠ .returned body) :
    (peer.reply d call).2 = d := by
  revert h
  simp only [peer]
  split
  · exact fun h => absurd rfl (h _)
  · exact fun _ => rfl

/-- A call that is served stores a value, changes one, or reads one. -/
theorem serve?_cases {d d' : Devices} {call : Bus.Call} {a : Attribute} {body : Bus.Body}
    (h : serve? d call a = some (body, d')) :
    (call.member = a.setter ∧ ∃ v, value? a call.args = some v ∧ d' = d.put a call.path v) ∨
    (call.member = a.changer ∧ ∃ v, next? a call.args (d.stored a call.path) = some v ∧
      body = [a.wire v] ∧ d' = d.put a call.path v) ∨
    (property? call = some (a.interface, a.property) ∧
      body = [.variant (a.wire (d.stored a call.path))] ∧ d' = d) := by
  unfold serve? at h
  split at h
  · next hmember =>
      obtain ⟨v, hv, heq⟩ := Option.map_eq_some_iff.mp h
      cases heq
      exact .inl ⟨hmember, v, hv, rfl⟩
  · split at h
    · next hmember =>
        obtain ⟨v, hv, heq⟩ := Option.map_eq_some_iff.mp h
        cases heq
        exact .inr (.inl ⟨hmember, v, hv, rfl, rfl⟩)
    · split at h
      · next hproperty =>
          cases h
          exact .inr (.inr ⟨hproperty, rfl, rfl⟩)
      · cases h

/-- How this service changes values. -/
def rule : Rule := fun a _ args v v' => next? a args v = some v'

theorem keeps : Keeps rule peer id where
  rejected _ _ h := unchanged_of_refused h
  read d call hread := by
    by_cases hreturned : ∃ body, (peer.reply d call).1.answer = .returned body
    · obtain ⟨body, hbody⟩ := hreturned
      obtain ⟨a, ha⟩ := served_of_returned hbody
      obtain ⟨hset, -⟩ | ⟨hchange, -⟩ | ⟨-, -, hsame⟩ := serve?_cases ha
      · exact absurd hread (by rw [isMutating, hset]; cases a <;> decide)
      · exact absurd hread (by rw [isMutating, hchange]; cases a <;> decide)
      · exact hsame
    · exact unchanged_of_refused fun body hbody => hreturned ⟨body, hbody⟩
  set d a path v body h := by
    obtain ⟨a', ha⟩ := served_of_returned h
    obtain ⟨hset, v', hv, hstored⟩ | ⟨hchange, -⟩ | ⟨hread, -⟩ := serve?_cases ha
    · -- the attribute that served the call is the one that it names, as no two share a method
      obtain rfl := a.eq_of_setter (.inl hset)
      have hvalue : value? a' [a'.wire v] = some v := by cases a' <;> rfl
      cases hvalue.symm.trans hv
      exact hstored
    · exact absurd hchange (a.setter_ne_changer a')
    · exact absurd (.inl (member_of_property? hread).symm) a.not_of_get
  change d a path args body h := by
    obtain ⟨a', ha⟩ := served_of_returned h
    obtain ⟨hset, -⟩ | ⟨hchange, v, hv, hbody, hstored⟩ | ⟨hread, -⟩ := serve?_cases ha
    · exact absurd hset.symm (a'.setter_ne_changer a)
    · obtain rfl := a.eq_of_changer (.inr hchange)
      exact ⟨v, hv, hbody, hstored⟩
    · exact absurd (.inr (member_of_property? hread).symm) a.not_of_get
  get d a path body h := by
    obtain ⟨a', ha⟩ := served_of_returned h
    obtain ⟨hset, -⟩ | ⟨hchange, -⟩ | ⟨hread, hbody, -⟩ := serve?_cases ha
    · exact absurd (.inl hset) a'.not_of_get
    · exact absurd (.inr hchange) a'.not_of_get
    · have hproperty : a.property = a'.property := congrArg Prod.snd (Option.some.inj hread)
      obtain rfl := a.eq_of_property hproperty
      exact hbody

end Keeper
end SessionControl.Command
