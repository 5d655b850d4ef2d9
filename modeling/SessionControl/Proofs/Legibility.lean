import SessionControl.Proofs.Delivery

set_option autoImplicit false

/-! # Signals that nobody can read

A signal is *legible* if it is one of the service's and holds the argument that it is declared with.
Purging takes all other signals out of a history, those that the peer sends around its answers
included. The callbacks that run, step by step, are the same with and without them
(`runAll_purge`): such a signal runs nothing and leaves no trace in what is registered. -/

namespace SessionControl.Client

variable {σ : Type}

/-! ## Purging -/

/-- Whether a signal is one of the service's, with its argument. -/
def isLegible (s : Bus.Signal) : Bool :=
  Notice.all.any fun n =>
    s.interface = n.interface && s.member = n.member && (n.shape.read? s.body).isSome

/-- The legible ones of several signals. -/
def purge (signals : List Bus.Signal) : List Bus.Signal := signals.filter isLegible

def purgeReply (r : Bus.Reply) : Bus.Reply :=
  { r with before := purge r.before, after := purge r.after }

/-- The peer that answers the same, but sends only legible signals. -/
def purgePeer (p : Bus.Peer σ) : Bus.Peer σ :=
  { reply := fun state call => (purgeReply (p.reply state call).1, (p.reply state call).2) }

def purgeConnection (c : Bus.Connection σ) : Bus.Connection σ :=
  { c with peer := purgePeer c.peer, inbox := purge c.inbox }

def Step.purge : Step → Step
  | .emit signals => .emit (Client.purge signals)
  | step => step

theorem purge_append (a b : List Bus.Signal) : purge (a ++ b) = purge a ++ purge b :=
  List.filter_append ..

/-! ## What is read is legible -/

theorem isLegible_of_response? {n : Notice} {path tag : String} {s : Bus.Signal}
    {d : Bus.Delivery} (h : response? s (n.listener path tag) = some d) : isLegible s = true := by
  unfold response? at h
  split at h
  · next haccepts =>
      have hread : (n.shape.read? s.body).isSome = true := by
        obtain ⟨payload, hpayload, -⟩ := Option.map_eq_some_iff.mp h
        exact Option.isSome_of_mem hpayload
      unfold Bus.MatchRule.accepts at haccepts
      rw [Bool.and_eq_true, Bool.and_eq_true] at haccepts
      refine List.any_eq_true.mpr ⟨n, n.mem_all, ?_⟩
      rw [Bool.and_eq_true, Bool.and_eq_true]
      exact ⟨⟨haccepts.1.2, haccepts.2⟩, hread⟩
  · cases h

theorem dispatch_of_illegible {callbacks : List Bus.Subscription} (h : Known callbacks)
    {s : Bus.Signal} (hs : isLegible s = false) : Bus.dispatch callbacks s = none := by
  have hnone : callbacks.filterMap (response? s) = [] := by
    rw [List.filterMap_eq_nil_iff]
    intro c hc
    obtain ⟨n, path, tag, rfl⟩ := h c hc
    cases hresponse : response? s (n.listener path tag) with
    | none => rfl
    | some d =>
        rw [isLegible_of_response? hresponse] at hs
        cases hs
  rw [dispatch_eq h, hnone]
  rfl

theorem filterMap_dispatch_purge {callbacks : List Bus.Subscription} (h : Known callbacks)
    (signals : List Bus.Signal) :
    (purge signals).filterMap (Bus.dispatch callbacks) =
      signals.filterMap (Bus.dispatch callbacks) := by
  induction signals with
  | nil => rfl
  | cons s signals ih =>
      unfold purge at ih ⊢
      cases hs : isLegible s with
      | true =>
          rw [List.filter_cons_of_pos hs, List.filterMap_cons, List.filterMap_cons, ih]
      | false =>
          rw [List.filter_cons_of_neg (Bool.not_eq_true _ ▸ hs),
            List.filterMap_cons_none (dispatch_of_illegible h hs), ih]

/-! ## Purging and calls -/

theorem arrived_purge (r : Bus.Reply) : arrived (purgeReply r) = purge (arrived r) := by
  unfold arrived purgeReply
  cases r.answer with
  | dropped => rfl
  | returned body | refused failure | silence => exact (purge_append _ _).symm

theorem exchange_purge (c : Bus.Connection σ) (call : Bus.Call) :
    ((purgeConnection c).exchange call).2 = purgeConnection (c.exchange call).2 := by
  rw [exchange_connection, exchange_connection]
  simp only [purgeConnection, purgePeer, arrived_purge, purge_append]
  rfl

/-- Purging can change how the loss of the connection is told, but never turns an answer into a
    failure, or a failure into an answer. -/
theorem exchange_purge_toOption (c : Bus.Connection σ) (call : Bus.Call) :
    ((purgeConnection c).exchange call).1.toOption = (c.exchange call).1.toOption := by
  simp only [Bus.Connection.exchange, purgeConnection, purgePeer, purgeReply]
  cases (c.peer.reply c.state call).1.answer <;> rfl

theorem call_purge (call : Bus.Call) {w v : World σ}
    (h : v.connection = purgeConnection w.connection) :
    (Action.call call v).2.connection = purgeConnection (Action.call call w).2.connection ∧
      (Action.call call v).1.toOption = (Action.call call w).1.toOption := by
  have hphase : v.connection.phase = w.connection.phase := by rw [h]; rfl
  by_cases hclosed : w.connection.phase = .closed
  · rw [Action.call_of_closed call hclosed, Action.call_of_closed call (hphase.trans hclosed)]
    exact ⟨h, rfl⟩
  · rw [Action.call_of_open call hclosed, Action.call_of_open call (hphase ▸ hclosed), h]
    exact ⟨exchange_purge _ _, exchange_purge_toOption _ _⟩

theorem Inquiry.Registers.run_purge {q : Inquiry Fault Outcome}
    {callback : Option Bus.Subscription} (hq : q.Registers callback) {w v : World σ}
    (h : v.connection = purgeConnection w.connection) :
    (q.run v).2.connection = purgeConnection (q.run w).2.connection := by
  cases hq with
  | nothing hnone =>
      cases q with
      | settled result => cases result <;> exact h
      | asks call read callback =>
          cases hnone
          exact (call_purge call h).1
  | unmade fault s => exact h
  | once s fault =>
      obtain ⟨hconnection, hresult⟩ := call_purge s.rule.subscribeCall h
      simp only [run]
      generalize Action.call s.rule.subscribeCall v = x at hconnection hresult ⊢
      generalize Action.call s.rule.subscribeCall w = y at hconnection hresult ⊢
      obtain ⟨r, v'⟩ := x
      obtain ⟨r', w'⟩ := y
      -- the callback is registered on both sides or on neither
      cases r with
      | ok body =>
          cases r' with
          | ok body' => exact congrArg (Bus.Connection.subscribe · s) hconnection
          | error failure => cases hresult
      | error failure =>
          cases r' with
          | ok body => cases hresult
          | error failure' => exact hconnection

/-! ## Purging and histories -/

theorem receive_purge (c : Bus.Connection σ) (signals : List Bus.Signal) :
    (purgeConnection c).receive (purge signals) = purgeConnection (c.receive signals) := by
  unfold Bus.Connection.receive
  split
  · next hclosed => rw [if_pos (show c.phase = .closed from hclosed)]
  · next hopen =>
      rw [if_neg (show ¬c.phase = .closed from hopen)]
      simp only [purgeConnection, purge_append]

theorem Step.run_purge (s : Service) (step : Step) {w v : World σ}
    (h : v.connection = purgeConnection w.connection) :
    (step.purge.run s v).2.connection = purgeConnection (step.run s w).2.connection := by
  cases step with
  | emit signals =>
      show v.connection.receive (Client.purge signals) = _
      rw [h]
      exact receive_purge w.connection signals
  | process =>
      show v.connection.process.2 = _
      rw [h]
      rfl
  | perform op =>
      show (op.perform s v).2.connection = purgeConnection (op.perform s w).2.connection
      rw [(op.perform_run s v).2, (op.perform_run s w).2]
      exact (op.inquiry_registers s).run_purge h

theorem Step.deliveries_purge (s : Service) (step : Step) {w v : World σ}
    (hknown : Known w.connection.subscriptions)
    (h : v.connection = purgeConnection w.connection) :
    (step.purge.run s v).1.deliveries = (step.run s w).1.deliveries := by
  cases step with
  | emit signals => rfl
  | perform op => rfl
  | process =>
      show v.connection.inbox.filterMap (Bus.dispatch v.connection.subscriptions) = _
      rw [h]
      exact filterMap_dispatch_purge hknown w.connection.inbox

/-- Step by step, a history runs the same callbacks as it does without the signals that nobody can
    read. -/
theorem Step.runAll_purge (s : Service) (steps : List Step) {w v : World σ}
    (hknown : Known w.connection.subscriptions)
    (h : v.connection = purgeConnection w.connection) :
    (runAll s v (steps.map Step.purge)).1.map StepResult.deliveries =
      (runAll s w steps).1.map StepResult.deliveries := by
  induction steps generalizing w v with
  | nil => rfl
  | cons step rest ih =>
      have hknown' : Known (step.run s w).2.connection.subscriptions := by
        rw [run_subscriptions]
        exact hknown.register step _
      have hrest := ih hknown' (step.run_purge s h)
      have hstep := step.deliveries_purge s hknown h
      rw [List.map_cons, runAll_cons, runAll_cons, List.map_cons, List.map_cons, hstep, hrest]

/-! ## What a delivery is -/

/-- A callback gets the first argument of the signal as it is, if one is declared. -/
theorem wire?_of_read? {shape : Bus.Shape} {body : Bus.Body} {payload : Bus.Payload}
    (h : shape.read? body = some payload) :
    payload.wire? = if shape = .bare then none else body.head? := by
  cases shape with
  | bare =>
      cases h
      rfl
  | number =>
      cases body with
      | nil => cases h
      | cons w rest =>
          cases w with
          | uint32 n =>
              cases h
              rfl
          | _ => cases h
  | flag =>
      cases body with
      | nil => cases h
      | cons w rest =>
          cases w with
          | boolean b =>
              cases h
              rfl
          | _ => cases h
  | path =>
      cases body with
      | nil => cases h
      | cons w rest =>
          cases w with
          | objectPath p =>
              cases h
              rfl
          | _ => cases h
  | level =>
      cases body with
      | nil => cases h
      | cons w rest =>
          cases w with
          | double x =>
              cases h
              rfl
          | _ => cases h

theorem mem_of_due_head? {h : Hearing} {d : Bus.Delivery} (hd : h.due.head? = some d) :
    ∃ c ∈ h.callbacks,
      c.rule = ⟨h.signal.path, h.signal.interface, h.signal.member⟩ ∧ d.tag = c.tag ∧
      d.payload.wire? = if c.shape = .bare then none else h.signal.body.head? := by
  obtain ⟨c, hc, hresponse⟩ := List.mem_filterMap.mp (List.mem_of_mem_head? hd)
  refine ⟨c, hc, ?_⟩
  unfold response? at hresponse
  split at hresponse
  · next haccepts =>
      obtain ⟨payload, hpayload, rfl⟩ := Option.map_eq_some_iff.mp hresponse
      refine ⟨?_, rfl, wire?_of_read? hpayload⟩
      unfold Bus.MatchRule.accepts at haccepts
      rw [Bool.and_eq_true, Bool.and_eq_true] at haccepts
      obtain ⟨⟨hpath, hinterface⟩, hmember⟩ := haccepts
      rw [of_decide_eq_true hpath, of_decide_eq_true hinterface, of_decide_eq_true hmember]
  · cases hresponse

/-- What can be relied on in every history on a fresh connection. Callbacks run in the order in
    which signals are processed, at most one for each signal, and signals are processed once each,
    in the order of their arrival. A callback that runs was registered before, for this path,
    interface and member, and gets the argument of the signal. Only subscriptions to which the bus
    agreed are registered, and processing changes nothing about them. Signals that nobody can read
    make no difference to any step. -/
theorem delivery_faithful (s : Service) (peer : Bus.Peer σ) (state : σ) (steps : List Step) :
    let w : World σ := { connection := .fresh peer state }
    let purged : World σ := { connection := .fresh (purgePeer peer) state }
    let heard := hearings s w [] steps
    deliveries s w steps = heard.filterMap (fun h => h.due.head?) ∧
      heard.map Hearing.signal ++ (Step.runAll s w steps).2.connection.inbox =
        Step.allArrivals s w steps ∧
      (∀ h ∈ heard, ∃ before after, steps = before ++ .process :: after ∧
        h.signal ∈ (Step.runAll s w before).2.connection.inbox ∧
        h.callbacks = Step.registrations s w before ∧
        ∀ d, h.due.head? = some d → ∃ c ∈ h.callbacks,
          c.rule = ⟨h.signal.path, h.signal.interface, h.signal.member⟩ ∧ d.tag = c.tag ∧
          d.payload.wire? = if c.shape = .bare then none else h.signal.body.head?) ∧
      (∀ (v : World σ) (step : Step) (c : Bus.Subscription),
        step.registration? (step.run s v).1 = some c → v.connection.phase ≠ .closed ∧
          ∃ body, (v.connection.exchange c.rule.subscribeCall).1 = .ok body) ∧
      (Step.runAll s w steps).2.connection.subscriptions = Step.registrations s w steps ∧
      (Step.runAll s purged (steps.map Step.purge)).1.map StepResult.deliveries =
        (Step.runAll s w steps).1.map StepResult.deliveries := by
  refine ⟨deliveries_eq s Known.nil steps, hearings_signals s _ [] steps, ?_, ?_,
    Step.runAll_subscriptions s _ steps, Step.runAll_purge s steps Known.nil rfl⟩
  · intro h hh
    obtain ⟨before, after, hsteps, hsignal, hcallbacks⟩ := mem_hearings hh
    exact ⟨before, after, hsteps, hsignal, hcallbacks, fun d hd => mem_of_due_head? hd⟩
  · intro v step c hregistered
    exact Step.agreed hregistered

end SessionControl.Client
