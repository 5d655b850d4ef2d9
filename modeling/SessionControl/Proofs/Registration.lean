import SessionControl.Client.Operation
import SessionControl.Proofs.Operations

set_option autoImplicit false

/-! # What operations do to the connection

Each operation makes at most one call, and its reply may bring signals. The callback of a
subscription is registered if and only if the bus agreed to it; nothing else changes what is
registered. -/

namespace SessionControl.Client

variable {σ : Type}

/-! ## Callbacks -/

/-- The callback for the signal of the object at a path. -/
def Notice.listener (n : Notice) (path tag : String) : Bus.Subscription :=
  { rule := { path, interface := n.interface, member := n.member }, shape := n.shape, tag }

/-- The callback that an operation is to register. -/
def Operation.callback? : Operation → Option Bus.Subscription
  | onSession (.watch notice tag) => some (notice.listener sessionPathText tag)
  | onAudioSink target (.watch notice tag) => some (notice.listener target.pathText tag)
  | _ => none

/-- The callback that a step has registered: that of an operation which went well. -/
def Step.registration? : Step → StepResult → Option Bus.Subscription
  | .perform op, .performed (.ok _) => op.callback?
  | _, _ => none

/-- The callbacks that a history registers, in order. -/
def Step.registrations (s : Service) (w : World σ) : List Step → List Bus.Subscription
  | [] => []
  | step :: rest =>
    (step.registration? (step.run s w).1).toList ++ registrations s (step.run s w).2 rest

/-! ## Arrivals -/

/-- The signals that arrive around an answer. Behind a lost connection nothing does. -/
def arrived (r : Bus.Reply) : List Bus.Signal :=
  match r.answer with
  | .dropped => r.before
  | _ => r.before ++ r.after

/-- The signals that an inquiry brings. -/
def Inquiry.arrivals {ε α : Type} (q : Inquiry ε α) (c : Bus.Connection σ) : List Bus.Signal :=
  match q.call? with
  | none => []
  | some call => if c.phase = .closed then [] else arrived (c.peer.reply c.state call).1

/-- The signals that a step brings. -/
def Step.arrivals (s : Service) (w : World σ) : Step → List Bus.Signal
  | .emit signals => if w.connection.phase = .closed then [] else signals
  | .process => []
  | .perform op => (op.inquiry s).arrivals w.connection

/-- The signals that a history brings, in order. -/
def Step.allArrivals (s : Service) (w : World σ) : List Step → List Bus.Signal
  | [] => []
  | step :: rest => step.arrivals s w ++ allArrivals s (step.run s w).2 rest

/-! ## Inquiries that register -/

/-- The inquiry registers nothing, or else this callback, as soon as the bus agrees to it. -/
inductive Inquiry.Registers : Inquiry Fault Outcome → Option Bus.Subscription → Prop
  | nothing {q : Inquiry Fault Outcome} (h : q.callback? = none) : Registers q none
  /-- The handle could not be made. -/
  | unmade (fault : Fault) (s : Bus.Subscription) : Registers (.settled (.error fault)) (some s)
  | once (s : Bus.Subscription) (fault : Bus.Failure → Fault) :
      Registers
        (.asks s.rule.subscribeCall (fun r => (r.mapError fault).bind fun _ => .ok .nothing)
          (some s))
        (some s)

theorem Handle.watchInquiry_registers {h : Handle} {path : String} (hpath : h.path.text = path)
    (n : Notice) (tag : String) :
    ((h.watchInquiry n tag).map fun _ => Outcome.nothing).Registers
      (some (n.listener path tag)) := by
  cases hpath
  have hread : (fun r => ((Except.mapError (Fault.notSubscribed n.member) r).bind
      fun _ : Bus.Body => .ok ()).bind fun _ => .ok Outcome.nothing) =
        fun r => (r.mapError (Fault.notSubscribed n.member)).bind fun _ => .ok .nothing := by
    funext r
    cases r <;> rfl
  show Inquiry.Registers (.asks _ _ _) _
  rw [hread]
  exact .once (n.listener h.path.text tag) (.notSubscribed n.member)

theorem ObjectOperation.inquiry_registers (h : Handle) (view : HandleView)
    (op : ObjectOperation) : (op.inquiry h view).Registers none := by
  cases op <;> exact .nothing rfl

/-- An operation registers the callback that it names, or nothing. -/
theorem Operation.inquiry_registers (s : Service) (op : Operation) :
    (op.inquiry s).Registers op.callback? := by
  cases op with
  | onSession op =>
      cases op with
      | object op => exact op.inquiry_registers _ _
      | watch n tag => exact Handle.watchInquiry_registers rfl n tag
      | _ => exact .nothing rfl
  | onBacklight target op =>
      simp only [inquiry, callback?]
      cases target.resolve s.timeout with
      | error fault => exact .nothing rfl
      | ok b =>
          cases op with
          | object op => exact op.inquiry_registers _ _
          | _ => exact .nothing rfl
  | onAudioSink target op =>
      simp only [inquiry, AudioSink.ofPath]
      cases hmade : Handle.ofText target.pathText "AudioSink" s.timeout with
      | error fault =>
          cases op with
          | watch n tag => exact .unmade fault _
          | _ => exact .nothing rfl
      | ok h =>
          cases op with
          | object op => exact op.inquiry_registers _ _
          | watch n tag => exact Handle.watchInquiry_registers (Handle.path_of_ofText hmade) n tag
          | _ => exact .nothing rfl
  | onObject path suffix op =>
      simp only [inquiry, callback?]
      cases Handle.ofText path suffix s.timeout with
      | error fault => exact .nothing rfl
      | ok h => exact op.inquiry_registers _ _
  | onService op => cases op <;> exact .nothing rfl

/-! ## What an inquiry does to the connection -/

theorem exchange_connection (c : Bus.Connection σ) (call : Bus.Call) :
    (c.exchange call).2 =
      { c with
        state := (c.peer.reply c.state call).2
        phase := Bus.Connection.phaseAfter c.phase (c.peer.reply c.state call).1
        inbox := c.inbox ++ arrived (c.peer.reply c.state call).1 } :=
  rfl

theorem call_subscriptions (call : Bus.Call) (w : World σ) :
    (Action.call call w).2.connection.subscriptions = w.connection.subscriptions := by
  by_cases hclosed : w.connection.phase = .closed
  · rw [Action.call_of_closed call hclosed]
  · rw [Action.call_of_open call hclosed]
    show (w.connection.exchange call).2.subscriptions = _
    rw [exchange_connection]

theorem enlist_inbox {ε α : Type} (callback : Option Bus.Subscription) (result : Except ε α)
    (w : World σ) :
    (Inquiry.enlist callback result w).connection.inbox = w.connection.inbox := by
  unfold Inquiry.enlist
  split <;> rfl

/-- What an inquiry brings waits behind what waited before. -/
theorem Inquiry.run_inbox {ε α : Type} (q : Inquiry ε α) (w : World σ) :
    (q.run w).2.connection.inbox = w.connection.inbox ++ q.arrivals w.connection := by
  cases q with
  | settled result =>
      show _ = _ ++ []
      rw [List.append_nil]
      cases result <;> rfl
  | asks call read callback =>
      simp only [run, enlist_inbox, arrivals, call?]
      split
      · next hclosed => rw [Action.call_of_closed call hclosed, List.append_nil]
      · next hopen =>
          rw [Action.call_of_open call hopen]
          show (w.connection.exchange call).2.inbox = _
          rw [exchange_connection]

/-- Only a result that is no error registers, and only the callback that was named. -/
theorem Inquiry.Registers.run_subscriptions {q : Inquiry Fault Outcome}
    {callback : Option Bus.Subscription} (h : q.Registers callback) (w : World σ) :
    (q.run w).2.connection.subscriptions = w.connection.subscriptions ++
      (match (q.run w).1 with
        | .ok _ => callback
        | .error _ => none).toList := by
  cases h with
  | nothing hnone =>
      have hnil : ∀ r : Except Fault Outcome, (match r with
          | .ok _ => none
          | .error _ => none : Option Bus.Subscription).toList = [] := by
        intro r
        cases r <;> rfl
      rw [hnil, List.append_nil]
      cases q with
      | settled result => cases result <;> rfl
      | asks call read callback =>
          cases hnone
          exact call_subscriptions call w
  | unmade fault s => exact (List.append_nil _).symm
  | once s fault =>
      simp only [run]
      rcases hcall : Action.call s.rule.subscribeCall w with ⟨r, w'⟩
      have hw' := call_subscriptions s.rule.subscribeCall w
      rw [hcall] at hw'
      cases r with
      | ok body => exact congrArg (· ++ [s]) hw'
      | error failure => exact hw'.trans (List.append_nil _).symm

/-- Whoever has registered a callback has been told by the bus that it agrees. -/
theorem Inquiry.Registers.agreed {q : Inquiry Fault Outcome} {s : Bus.Subscription}
    (h : q.Registers (some s)) {w : World σ} {outcome : Outcome}
    (hok : (q.run w).1 = .ok outcome) :
    w.connection.phase ≠ .closed ∧
      ∃ body, (w.connection.exchange s.rule.subscribeCall).1 = .ok body := by
  cases h with
  | unmade fault => cases hok
  | once s fault =>
      by_cases hclosed : w.connection.phase = .closed
      · simp only [run, Action.call_of_closed _ hclosed] at hok
        cases hok
      · refine ⟨hclosed, ?_⟩
        simp only [run, Action.call_of_open _ hclosed] at hok
        cases hanswer : (w.connection.exchange s.rule.subscribeCall).1 with
        | ok body => exact ⟨body, rfl⟩
        | error failure =>
            rw [hanswer] at hok
            cases hok

/-! ## What a step does to the connection -/

/-- An operation leaves the connection as its inquiry does, with the same result. -/
theorem Operation.perform_run (s : Service) (op : Operation) (w : World σ) :
    (op.perform s w).1 = ((op.inquiry s).run w).1 ∧
      (op.perform s w).2.connection = ((op.inquiry s).run w).2.connection := by
  obtain ⟨hresult, hw⟩ := op.perform_amountsTo s w w (.refl w)
  exact ⟨hresult, hw.connection⟩

theorem Step.run_subscriptions (s : Service) (w : World σ) (step : Step) :
    (step.run s w).2.connection.subscriptions =
      w.connection.subscriptions ++ (step.registration? (step.run s w).1).toList := by
  cases step with
  | emit signals =>
      refine Eq.trans ?_ (List.append_nil _).symm
      show (w.connection.receive signals).subscriptions = _
      unfold Bus.Connection.receive
      split <;> rfl
  | process => exact (List.append_nil _).symm
  | perform op =>
      obtain ⟨hresult, hconnection⟩ := op.perform_run s w
      show (op.perform s w).2.connection.subscriptions = _ ++
        (registration? (.perform op) (.performed (op.perform s w).1)).toList
      rw [hconnection, hresult, (op.inquiry_registers s).run_subscriptions w]
      cases ((op.inquiry s).run w).1 <;> rfl

theorem Step.run_inbox (s : Service) (w : World σ) (step : Step) :
    (step.run s w).2.connection.inbox =
      (match step with
        | .process => []
        | _ => w.connection.inbox) ++ step.arrivals s w := by
  cases step with
  | emit signals =>
      show (w.connection.receive signals).inbox = w.connection.inbox ++ arrivals s w (.emit signals)
      unfold Bus.Connection.receive arrivals
      split
      · exact (List.append_nil _).symm
      · rfl
  | process => rfl
  | perform op =>
      show (op.perform s w).2.connection.inbox = _
      rw [(op.perform_run s w).2]
      exact (op.inquiry s).run_inbox w

theorem Step.agreed {s : Service} {w : World σ} {step : Step} {c : Bus.Subscription}
    (h : step.registration? (step.run s w).1 = some c) :
    w.connection.phase ≠ .closed ∧
      ∃ body, (w.connection.exchange c.rule.subscribeCall).1 = .ok body := by
  cases step with
  | emit signals => cases h
  | process => cases h
  | perform op =>
      have hresult := (op.perform_run s w).1
      have hregisters := op.inquiry_registers s
      change registration? (.perform op) (.performed (op.perform s w).1) = some c at h
      rw [hresult] at h
      cases hok : ((op.inquiry s).run w).1 with
      | error fault =>
          rw [hok] at h
          cases h
      | ok outcome =>
          rw [hok] at h
          rw [show op.callback? = some c from h] at hregisters
          exact hregisters.agreed hok

/-! ## What a history registers -/

theorem Step.runAll_cons (s : Service) (w : World σ) (step : Step) (rest : List Step) :
    runAll s w (step :: rest) =
      ((step.run s w).1 :: (runAll s (step.run s w).2 rest).1,
        (runAll s (step.run s w).2 rest).2) := rfl

/-- Nothing but the subscriptions that went well changes what is registered. -/
theorem Step.runAll_subscriptions (s : Service) (w : World σ) (steps : List Step) :
    (runAll s w steps).2.connection.subscriptions =
      w.connection.subscriptions ++ registrations s w steps := by
  induction steps generalizing w with
  | nil => exact (List.append_nil _).symm
  | cons step rest ih =>
      rw [runAll_cons, ih, run_subscriptions, List.append_assoc]
      rfl

end SessionControl.Client
