import SessionControl.Client.Operation
import SessionControl.Proofs.Likeness

set_option autoImplicit false

/-! # Inquiries

What an operation of the client comes down to, as a value: either its result is settled without the
service, or it makes one call and its result is a reading of what comes back; a subscription also
registers a callback. `Action.AmountsTo` says that an action comes down to an inquiry, up to its
records for debugging. The lemmas below take an action apart along its definition and so find its
inquiry. -/

namespace SessionControl.Client

variable {σ ε δ α β : Type}

/-- The course of an operation that makes at most one call. -/
inductive Inquiry (ε α : Type)
  /-- No call is made. -/
  | settled (result : Except ε α)
  /-- One call is made. A callback, if there is one, is registered once the reading went well. -/
  | asks (call : Bus.Call) (read : Except Bus.Failure Bus.Body → Except ε α)
      (callback : Option Bus.Subscription := none)

namespace Inquiry

/-! ## Parts -/

/-- The call that is made, if any. -/
def call? : Inquiry ε α → Option Bus.Call
  | settled _ => none
  | asks call _ _ => some call

/-- The callback that may be registered. -/
def callback? : Inquiry ε α → Option Bus.Subscription
  | settled _ => none
  | asks _ _ callback => callback

/-! ## Running -/

/-- Registers a callback behind a reading that went well. -/
def enlist (callback : Option Bus.Subscription) (result : Except ε α) (w : World σ) : World σ :=
  match callback, result with
  | some s, .ok _ => { w with connection := w.connection.subscribe s }
  | _, _ => w

/-- The action that follows the course. -/
def run : Inquiry ε α → Action σ ε α
  | settled result => Action.ofExcept result
  | asks call read callback => fun w =>
    (read (Action.call call w).1,
      enlist callback (read (Action.call call w).1) (Action.call call w).2)

/-! ## Transforming -/

/-- Carries a result on to a further reading. -/
def bind (q : Inquiry ε α) (f : α → Except ε β) : Inquiry ε β :=
  match q with
  | settled result => settled (result.bind f)
  | asks call read callback => asks call (fun r => (read r).bind f) callback

/-- Words a result differently. -/
def map (f : α → β) (q : Inquiry ε α) : Inquiry ε β := q.bind fun a => .ok (f a)

/-- Words an error differently. -/
def mapError (f : ε → δ) : Inquiry ε α → Inquiry δ α
  | settled result => settled (result.mapError f)
  | asks call read callback => asks call (fun r => (read r).mapError f) callback

/-- The result as it is, error or not. -/
def attempt : Inquiry ε α → Inquiry δ (Except ε α)
  | settled result => settled (.ok result)
  | asks call read callback => asks call (fun r => .ok (read r)) callback

/-- The inquiry that a settled result leads to. -/
def given (result : Except ε α) (q : α → Inquiry ε β) : Inquiry ε β :=
  match result with
  | .ok a => q a
  | .error e => settled (.error e)

theorem map_id (q : Inquiry ε α) : (q.map fun a => a) = q := by
  have hbind : ∀ r : Except ε α, (r.bind fun a => .ok a) = r := by
    intro r
    cases r <;> rfl
  cases q with
  | settled result => exact congrArg settled (hbind result)
  | asks call read callback => exact congrArg (asks call · callback) (funext fun r => hbind _)

end Inquiry

/-- Where a further reading went well, so did what it reads on from. -/
theorem ok_of_bind_ok {r : Except ε α} {f : α → Except ε β} {b : β} (h : r.bind f = .ok b) :
    ∃ a, r = .ok a ∧ f a = .ok b := by
  cases r with
  | error e => cases h
  | ok a => exact ⟨a, rfl, h⟩

/-! ## Calls -/

theorem Action.call_of_open (c : Bus.Call) {w : World σ} (hopen : w.connection.phase ≠ .closed) :
    Action.call c w = ((w.connection.exchange c).1,
      { connection := (w.connection.exchange c).2, journal := w.journal ++ [.called c] }) := by
  unfold Action.call
  split
  · next hclosed => exact absurd hclosed hopen
  · rfl

theorem Action.call_of_closed (c : Bus.Call) {w : World σ}
    (hclosed : w.connection.phase = .closed) : Action.call c w = (.error .disconnected, w) := by
  unfold Action.call
  rw [hclosed]

/-! ## Actions that come down to an inquiry -/

/-- The action is like following the course of the inquiry. -/
def Action.AmountsTo (x : Action σ ε α) (q : Inquiry ε α) : Prop := x.Alike q.run

namespace Action.AmountsTo

/-! ### Without a call -/

theorem done (a : α) : (Action.done a : Action σ ε α).AmountsTo (.settled (.ok a)) :=
  Alike.done a

theorem fail (e : ε) : (Action.fail e : Action σ ε α).AmountsTo (.settled (.error e)) :=
  Alike.fail e

theorem ofExcept (r : Except ε α) : (Action.ofExcept r : Action σ ε α).AmountsTo (.settled r) :=
  Alike.ofExcept r

theorem log {severity : Severity} (h : severity ≠ .warn) (text : String) :
    (Action.log severity text : Action σ ε Unit).AmountsTo (.settled (.ok ())) :=
  Alike.log h text

/-! ### With a call -/

theorem call (c : Bus.Call) :
    (Action.call c : Action σ Bus.Failure Bus.Body).AmountsTo (.asks c id) :=
  Alike.call c

/-- What precedes an inquiry without a call of its own shows only where it fails. -/
theorem given {x : Action σ ε α} {r : Except ε α} {f : α → Action σ ε β} {q : α → Inquiry ε β}
    (hx : x.AmountsTo (.settled r)) (hf : ∀ a, (f a).AmountsTo (q a)) :
    (x >>= f).AmountsTo (.given r q) := by
  intro w v h
  obtain ⟨hr, hw⟩ := hx w v h
  rw [bind_apply]
  rcases hxw : x w with ⟨r', w'⟩
  rw [hxw] at hr hw
  cases r with
  | ok a =>
      cases (show r' = .ok a from hr)
      exact hf a w' v hw
  | error e =>
      cases (show r' = .error e from hr)
      exact ⟨rfl, hw⟩

theorem after {x : Action σ ε α} {a : α} {f : α → Action σ ε β} {q : α → Inquiry ε β}
    (hx : x.AmountsTo (.settled (.ok a))) (hf : ∀ a, (f a).AmountsTo (q a)) :
    (x >>= f).AmountsTo (q a) :=
  hx.given hf

/-- An action like one that follows the course wherever it starts. -/
theorem of_run {x y : Action σ ε α} {q : Inquiry ε α} (hx : x.Alike y)
    (hy : ∀ v : World σ, y v = q.run v) : x.AmountsTo q := by
  intro w v h
  rw [← hy v]
  exact hx w v h

/-- What is settled without the service has its result and leaves everything as it is. -/
theorem apply_of_settled {x : Action σ ε α} {r : Except ε α} (hx : x.AmountsTo (.settled r))
    (w : World σ) : (x w).1 = r ∧ (x w).2.Alike w := by
  obtain ⟨hresult, hw⟩ := hx w w (.refl w)
  cases r with
  | ok a => exact ⟨hresult, hw⟩
  | error e => exact ⟨hresult, hw⟩

/-- The result does not depend on what was recorded for debugging. -/
theorem result_congr {x : Action σ ε α} {q : Inquiry ε α} (hx : x.AmountsTo q) {w v : World σ}
    (h : w.Alike v) : (x w).1 = (x v).1 :=
  (hx w v h).1.trans (hx v v (.refl v)).1.symm

/-- What follows an inquiry without a call of its own is a further reading. -/
theorem bind {x : Action σ ε α} {q : Inquiry ε α} {f : α → Action σ ε β} {g : α → Except ε β}
    (hx : x.AmountsTo q) (hq : q.callback? = none) (hf : ∀ a, (f a).AmountsTo (.settled (g a))) :
    (x >>= f).AmountsTo (q.bind g) := by
  -- the callback has to be absent: it would be registered ahead of a further reading that fails
  refine of_run (Alike.bind hx hf) fun v => ?_
  cases q with
  | settled result => cases result <;> rfl
  | asks c read callback =>
      cases hq
      rw [bind_apply]
      simp only [Inquiry.run, Inquiry.bind, Inquiry.enlist]
      rcases read (Action.call c v).1 with e | a
      · rfl
      · show Action.ofExcept (g a) _ = _
        simp only [Except.bind]
        cases g a <;> rfl

/-- The action for each element in turn, where none makes a call. -/
theorem each {f : α → Action σ ε β} {g : α → Except ε β}
    (hf : ∀ a, (f a).AmountsTo (.settled (g a))) (as : List α) :
    (Action.each f as).AmountsTo (.settled (as.mapM g)) := by
  induction as with
  | nil => exact done []
  | cons a as ih =>
      rw [List.mapM_cons]
      exact (hf a).bind rfl fun b => ih.bind rfl fun bs => done (b :: bs)

/-- Wording a result differently does not touch the callback. -/
theorem map {x : Action σ ε α} {q : Inquiry ε α} (hx : x.AmountsTo q) (g : α → β) :
    (x >>= fun a => Action.done (g a)).AmountsTo (q.map g) := by
  refine of_run (Alike.bind hx fun a => Alike.done (g a)) fun v => ?_
  cases q with
  | settled result => cases result <;> rfl
  | asks c read callback =>
      rw [bind_apply]
      simp only [Inquiry.run, Inquiry.map, Inquiry.bind]
      rcases read (Action.call c v).1 with e | a <;> cases callback <;> rfl

theorem mapError {x : Action σ ε α} {q : Inquiry ε α} (f : ε → δ) (hx : x.AmountsTo q) :
    (x.mapError f).AmountsTo (q.mapError f) := by
  refine of_run (Alike.mapError f hx) fun v => ?_
  cases q with
  | settled result => cases result <;> rfl
  | asks c read callback =>
      rw [Action.mapError_apply]
      simp only [Inquiry.run, Inquiry.mapError]
      rcases read (Action.call c v).1 with e | a <;> cases callback <;> rfl

theorem attempt {x : Action σ ε α} {q : Inquiry ε α} (hx : x.AmountsTo q)
    (hq : q.callback? = none) :
    (x.attempt : Action σ δ (Except ε α)).AmountsTo q.attempt := by
  refine of_run (Alike.attempt hx) fun v => ?_
  cases q with
  | settled result => cases result <;> rfl
  | asks c read callback =>
      cases hq
      rfl

/-- A callback that is registered behind an inquiry becomes a part of it. -/
theorem subscribe {x : Action σ ε α} {c : Bus.Call}
    {read : Except Bus.Failure Bus.Body → Except ε α} (hx : x.AmountsTo (.asks c read))
    (s : Bus.Subscription) :
    (x >>= fun _ => Action.subscribe s).AmountsTo
      (.asks c (fun r => (read r).bind fun _ => .ok ()) (some s)) := by
  refine of_run (Alike.bind hx fun _ => Alike.subscribe s) fun v => ?_
  rw [bind_apply]
  simp only [Inquiry.run, Inquiry.enlist]
  rcases read (Action.call c v).1 with e | a <;> rfl

/-- A record for debugging, and a result worded differently, behind an inquiry. -/
theorem recorded {x : Action σ ε α} {q : Inquiry ε α} (hx : x.AmountsTo q)
    (hq : q.callback? = none) (text : α → String) (g : α → β) :
    (x >>= fun a => Action.log .debug (text a) >>= fun _ => Action.done (g a)).AmountsTo
      (q.map g) :=
  hx.bind hq fun a => (log (by decide) (text a)).after fun _ => done (g a)

theorem recorded_only {x : Action σ ε α} {q : Inquiry ε α} (hx : x.AmountsTo q)
    (hq : q.callback? = none) (text : α → String) :
    (x >>= fun a => Action.log .debug (text a) >>= fun _ => Action.done a).AmountsTo q :=
  q.map_id ▸ hx.recorded hq text fun a => a

theorem recorded_unit {x : Action σ ε Unit} {q : Inquiry ε Unit} (hx : x.AmountsTo q)
    (hq : q.callback? = none) (text : String) :
    (x >>= fun _ => Action.log .debug text).AmountsTo q :=
  q.map_id ▸ hx.bind hq fun _ => log (by decide) text

end Action.AmountsTo
end SessionControl.Client
