import SessionControl.Command.Trouble
import SessionControl.Proofs.Operations

set_option autoImplicit false

/-! # Scripts

What a command does with the client is a *script*: operations one after another, where the outcome
of each decides how to go on. Following a script ends with the first operation that fails. An action
of the tool *follows* a script if it makes the very same calls, whatever it prints in between; the
lemmas below take an action apart along its definition and so find its script. -/

namespace SessionControl.Command

open Client (Action Fault Inquiry Journal Operation Outcome Service World)

variable {σ α β : Type}

/-! ## Scripts -/

/-- Operations one after another. The outcome of each decides what follows. -/
inductive Script
  | stop
  /-- The command fails for a reason of its own. -/
  | giveUp
  | perform (op : Operation) (next : Outcome → Script)

namespace Script

/-- Operations whose outcomes decide nothing. -/
def ops : List Operation → Script
  | [] => stop
  | op :: rest => perform op fun _ => ops rest

/-- One script after another. -/
def andThen : Script → Script → Script
  | stop, b => b
  | giveUp, _ => giveUp
  | perform op next, b => perform op fun outcome => (next outcome).andThen b

/-- The script for each element in turn. -/
def each (f : α → Script) : List α → Script
  | [] => stop
  | a :: as => (f a).andThen (each f as)

/-- Performs the operations of a script, up to the first that fails. An error without a fault is
    one of the command's own. -/
def follow (s : Service) : Script → Action σ (Option Fault) Unit
  | stop => Action.done ()
  | giveUp => Action.fail none
  | perform op next => do
    let outcome ← (op.perform s).mapError some
    (next outcome).follow s

theorem andThen_stop (a : Script) : a.andThen stop = a := by
  induction a with
  | stop => rfl
  | giveUp => rfl
  | perform op next ih => exact congrArg (perform op) (funext ih)

theorem follow_perform (s : Service) (op : Operation) (next : Outcome → Script) (w : World σ) :
    (perform op next).follow s w = match op.perform s w with
      | (.ok outcome, w) => (next outcome).follow s w
      | (.error fault, w) => (.error (some fault), w) := by
  show ((op.perform s).mapError some >>= fun outcome => (next outcome).follow s) w = _
  rw [Action.bind_apply, Action.mapError_apply]
  rcases op.perform s w with ⟨_ | outcome, w'⟩ <;> rfl

theorem follow_andThen (s : Service) (a b : Script) (w : World σ) :
    (a.andThen b).follow s w = match a.follow s w with
      | (.ok _, w) => b.follow s w
      | (.error fault, w) => (.error fault, w) := by
  induction a generalizing w with
  | stop => rfl
  | giveUp => rfl
  | perform op next ih =>
      show (perform op fun outcome => (next outcome).andThen b).follow s w = _
      rw [follow_perform, follow_perform]
      rcases op.perform s w with ⟨_ | outcome, w'⟩
      · rfl
      · exact ih outcome w'

end Script

/-! ## Worlds abreast -/

/-- Two worlds with one connection, over which the same calls were made. -/
structure Abreast (w v : World σ) : Prop where
  connection : w.connection = v.connection
  calls : w.journal.calls = v.journal.calls

namespace Abreast

theorem refl (w : World σ) : Abreast w w := ⟨rfl, rfl⟩

theorem symm {w v : World σ} (h : Abreast w v) : Abreast v w :=
  ⟨h.connection.symm, h.calls.symm⟩

theorem trans {w v u : World σ} (h : Abreast w v) (h' : Abreast v u) : Abreast w u :=
  ⟨h.connection.trans h'.connection, h.calls.trans h'.calls⟩

theorem of_alike {w v : World σ} (h : w.Alike v) : Abreast w v := ⟨h.connection, h.calls⟩

theorem call {w v : World σ} (h : Abreast w v) (c : Bus.Call) :
    (Action.call c w).1 = (Action.call c v).1 ∧
      Abreast (Action.call c w).2 (Action.call c v).2 := by
  unfold Action.call
  rw [h.connection]
  split
  · exact ⟨rfl, h⟩
  · refine ⟨rfl, rfl, ?_⟩
    show Journal.calls (_ ++ _) = Journal.calls (_ ++ _)
    rw [Journal.calls_append, Journal.calls_append, h.calls]

theorem enlist {ε : Type} {w v : World σ} (h : Abreast w v) (callback : Option Bus.Subscription)
    (result : Except ε α) :
    Abreast (Inquiry.enlist callback result w) (Inquiry.enlist callback result v) := by
  unfold Inquiry.enlist
  split
  · next s _ => exact ⟨congrArg (Bus.Connection.subscribe · s) h.connection, h.calls⟩
  · exact h

theorem run {ε : Type} {w v : World σ} (h : Abreast w v) (q : Inquiry ε α) :
    (q.run w).1 = (q.run v).1 ∧ Abreast (q.run w).2 (q.run v).2 := by
  cases q with
  | settled result => cases result <;> exact ⟨rfl, h⟩
  | asks c read callback =>
      obtain ⟨hresult, hw⟩ := h.call c
      refine ⟨congrArg read hresult, ?_⟩
      simp only [Inquiry.run, hresult]
      exact hw.enlist callback _

end Abreast

/-- Wording the result differently changes nothing else about an inquiry. -/
theorem run_map {ε : Type} (q : Inquiry ε α) (g : α → β) (w : World σ) :
    (q.map g).run w = ((q.run w).1.map g, (q.run w).2) := by
  cases q with
  | settled result => cases result <;> rfl
  | asks c read callback =>
      simp only [Inquiry.map, Inquiry.bind, Inquiry.run]
      rcases read (Action.call c w).1 with e | a <;> cases callback <;> rfl

/-- An action of the client, and an operation that comes down to the same inquiry. -/
theorem perform_abreast {s : Service} {x : Action σ Fault α} {q : Inquiry Fault α}
    {op : Operation} {wrap : α → Outcome} (hx : x.AmountsTo q) (hop : op.inquiry s = q.map wrap)
    {w v : World σ} (h : Abreast w v) :
    (op.perform s v).1 = (x w).1.map wrap ∧ Abreast (x w).2 (op.perform s v).2 := by
  -- each side is like the one inquiry, and that takes abreast worlds to abreast worlds
  obtain ⟨hxresult, hxw⟩ := hx w w (.refl w)
  obtain ⟨hopresult, hopw⟩ := op.perform_amountsTo s v v (.refl v)
  obtain ⟨hresult, hw⟩ := h.run q
  rw [hop, run_map] at hopresult hopw
  refine ⟨?_, ((Abreast.of_alike hxw).trans hw).trans (Abreast.of_alike hopw).symm⟩
  rw [hopresult, hxresult, hresult]

/-- What an operation tells is the result of the action that comes down to the same inquiry. -/
theorem result_of_performed {s : Service} {x : Action σ Fault α} {q : Inquiry Fault α}
    {op : Operation} {wrap : α → Outcome} (hx : x.AmountsTo q) (hop : op.inquiry s = q.map wrap)
    {w w' : World σ} {outcome : Outcome} (h : op.perform s w = (.ok outcome, w')) :
    ∃ a, (x w).1 = .ok a ∧ outcome = wrap a := by
  have hresult := (perform_abreast hx hop (.refl w)).1
  rw [h] at hresult
  cases hxw : (x w).1 with
  | error fault =>
      rw [hxw] at hresult
      cases hresult
  | ok a =>
      rw [hxw] at hresult
      exact ⟨a, rfl, Except.ok.inj hresult⟩

/-! ## Following a script -/

/-- The action makes the calls of the script, and ends well if and only if the script does. -/
def Follows (s : Service) (x : Action σ Trouble α) (script : Script) : Prop :=
  ∀ w v : World σ, Abreast w v →
    (x w).1.isOk = (script.follow s v).1.isOk ∧ Abreast (x w).2 (script.follow s v).2

namespace Follows

variable {s : Service} {x : Action σ Trouble α} {f : α → Action σ Trouble β} {a b : Script}

/-! ### Without an operation -/

theorem done (r : α) : Follows s (Action.done r : Action σ Trouble α) .stop :=
  fun _ _ h => ⟨rfl, h⟩

theorem giveUp (cause : Cause) : Follows s (Command.giveUp cause : Action σ Trouble α) .giveUp :=
  fun _ _ h => ⟨rfl, h⟩

theorem giveUp_bind (cause : Cause) :
    Follows s ((Command.giveUp cause : Action σ Trouble α) >>= f) .giveUp :=
  fun _ _ h => ⟨rfl, h⟩

theorem note {e : Client.Event} (he : e.call? = none) :
    Follows s (Action.note e : Action σ Trouble Unit) .stop := by
  intro w v h
  refine ⟨rfl, h.connection, ?_⟩
  simp only [Action.note_apply, Journal.calls_append, h.calls]
  show _ ++ [e].filterMap Client.Event.call? = _
  rw [List.filterMap_cons_none he]
  exact List.append_nil _

theorem log (severity : Client.Severity) (text : String) :
    Follows s (Action.log severity text : Action σ Trouble Unit) .stop := note rfl

theorem printLine (text : String) :
    Follows s (Action.printLine text : Action σ Trouble Unit) .stop := note rfl

/-! ### Putting actions together -/

theorem bind (hx : Follows s x a) (hf : ∀ r, Follows s (f r) b) :
    Follows s (x >>= f) (a.andThen b) := by
  intro w v h
  obtain ⟨hok, hw⟩ := hx w v h
  rw [Action.bind_apply, Script.follow_andThen]
  generalize x w = y at hok hw ⊢
  generalize a.follow s v = z at hok hw ⊢
  obtain ⟨r, w'⟩ := y
  obtain ⟨r', v'⟩ := z
  cases r with
  | ok result =>
      cases r' with
      | ok _ => exact hf result w' v' hw
      | error _ => cases hok
  | error trouble =>
      cases r' with
      | ok _ => cases hok
      | error fault => exact ⟨rfl, hw⟩

/-- What only prints at the end leaves the script as it is. -/
theorem andPrint (hx : Follows s x a) (hf : ∀ r, Follows s (f r) .stop) :
    Follows s (x >>= f) a :=
  a.andThen_stop ▸ hx.bind hf

/-- The script for each element, told by what the script has to know of it. -/
theorem each {γ : Type} {key : α → γ} {g : γ → Script} {as : List α}
    (hf : ∀ r ∈ as, Follows s (f r) (g (key r))) :
    Follows s (Action.each f as) (Script.each g (as.map key)) := by
  induction as with
  | nil => exact done []
  | cons r as ih =>
      have hrest := ih fun r' hr' => hf r' (List.mem_cons_of_mem r hr')
      exact (hf r List.mem_cons_self).bind fun _ => hrest.andPrint fun _ => done _

theorem each_stop (hf : ∀ r, Follows s (f r) .stop) (as : List α) :
    Follows s (Action.each f as) .stop := by
  induction as with
  | nil => exact done []
  | cons r as ih => exact (hf r).bind fun _ => ih.bind fun _ => done _

/-- The handle to the session is made without a call. -/
theorem withSession {f : Client.Session → Action σ Trouble β}
    (hf : Follows s (f (.ofTimeout s.timeout)) a) : Follows s (s.session >>= f) a := by
  intro w v h
  obtain ⟨w', hw, hsession⟩ := s.session_apply (ε := Trouble) w
  rw [Action.bind_apply, hsession]
  exact hf w' v ((Abreast.of_alike hw).trans h)

/-! ### With an operation -/

/-- An action of the client is the operation that comes down to the same inquiry. -/
theorem perform {x : Action σ Fault α} {q : Inquiry Fault α} {op : Operation}
    {wrap : α → Outcome} {next : Outcome → Script} {g : Fault → Trouble} (hx : x.AmountsTo q)
    (hop : op.inquiry s = q.map wrap)
    (hf : ∀ r, (∃ w, (x w).1 = .ok r) → Follows s (f r) (next (wrap r))) :
    Follows s (x.mapError g >>= f) (.perform op next) := by
  intro w v h
  obtain ⟨hresult, hw⟩ := perform_abreast hx hop h
  have hf' := fun r hr => hf r ⟨w, hr⟩
  rw [Action.bind_apply, Script.follow_perform, Action.mapError_apply]
  generalize x w = y at hresult hw hf' ⊢
  generalize op.perform s v = z at hresult hw ⊢
  obtain ⟨r, w'⟩ := y
  obtain ⟨r', v'⟩ := z
  cases r with
  | ok result =>
      cases (show r' = .ok (wrap result) from hresult)
      exact hf' result rfl w' v' hw
  | error fault =>
      cases (show r' = .error fault from hresult)
      exact ⟨rfl, hw⟩

theorem perform_last {x : Action σ Fault α} {q : Inquiry Fault α} {op : Operation}
    {wrap : α → Outcome} {g : Fault → Trouble} (hx : x.AmountsTo q)
    (hop : op.inquiry s = q.map wrap) : Follows s (x.mapError g) (.ops [op]) :=
  Action.bind_done (x.mapError g) ▸ perform hx hop fun r _ => done r

end Follows
end SessionControl.Command
