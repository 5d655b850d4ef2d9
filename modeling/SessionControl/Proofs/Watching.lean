import SessionControl.Command.Run
import SessionControl.Proofs.Inhibition
import SessionControl.Proofs.Registration

set_option autoImplicit false

/-! # Watching the session

Watching subscribes to twelve signals, one after another, and then prints a line for each signal
that arrives, in the order of their arrival, until the connection is lost. `Watching` lists the
courses that this can take, each with everything that is done on it and with its result: nothing is
printed unless all subscriptions have been agreed to, and then neither a signal that came early is
lost nor one that nobody asked for is told.

One pass tells what waits (`tellPending_eq`), and as long as the connection lives it leaves
everything ready for the next one (`Listening.pass`). So signals that come in any number of batches
are told as if they had come at once (`Listening.batches`), whatever comes behind them. -/

namespace SessionControl.Command

open Client (Action Fault Inquiry Journal Notice Service Session World)

variable {σ α : Type}

/-! ## Signals and their lines -/

/-- The signals of the session with what they carry, in the order of the subscriptions. -/
def sessionSignals : List (String × Bus.Shape) :=
  [("Lock", .bare), ("Unlock", .bare), ("Idle", .bare), ("Active", .bare), ("Inactive", .number),
   ("PrepareForSleep", .flag), ("PrepareForShutdown", .flag), ("AddBacklight", .path),
   ("RemoveBacklight", .path), ("AddAudioSink", .path), ("RemoveAudioSink", .path),
   ("ChangeDefaultAudioSink", .path)]

/-- The call that subscribes to a signal of the session. -/
def watchCall (member : String) : Bus.Call :=
  { destination := "org.freedesktop.DBus"
    path := "/org/freedesktop/DBus"
    interface := "org.freedesktop.DBus"
    member := "AddMatch"
    args := [.string ("type='signal',path='/org/sessiond/session1'," ++
      "interface='org.sessiond.session1.Session',member='" ++ member ++ "'")] }

/-- The text behind the name of a signal: a space and the argument, for those that carry one. A body
    that does not start with the argument cannot be read. -/
def argumentText? : Bus.Shape → Bus.Body → Option String
  | .bare, _ => some ""
  | .number, .uint32 n :: _ => some (" " ++ Decimal.natText n.toNat)
  | .flag, .boolean b :: _ => some (" " ++ if b then "true" else "false")
  | .path, .objectPath p :: _ => some (" " ++ p)
  | .level, .double x :: _ => some (" " ++ x.text)
  | _, _ => none

/-- The line that a signal is told in, if it is one of the session's and can be read. -/
def lineOf? (s : Bus.Signal) : Option String :=
  if s.path = "/org/sessiond/session1" ∧ s.interface = "org.sessiond.session1.Session" then
    (sessionSignals.find? fun (member, _) => member = s.member).bind fun (member, shape) =>
      (argumentText? shape s.body).map fun text => member ++ text ++ "\n"
  else none

/-! ## Courses -/

/-- The connection behind calls that are made one after another. -/
def afterCalls (c : Bus.Connection σ) (calls : List Bus.Call) : Bus.Connection σ :=
  calls.foldl (fun c call => (c.exchange call).2) c

/-- Each of the calls is agreed to. -/
def Agreed : Bus.Connection σ → List Bus.Call → Prop
  | _, [] => True
  | c, call :: rest => (∃ body, (c.exchange call).1 = .ok body) ∧ Agreed (c.exchange call).2 rest

/-- The signals that arrive around the replies, in order. -/
def brought : Bus.Connection σ → List Bus.Call → List Bus.Signal
  | _, [] => []
  | c, call :: rest =>
    Client.arrived (c.peer.reply c.state call).1 ++ brought (c.exchange call).2 rest

/-- The calls of all subscriptions. -/
def watchCalls : List Bus.Call := sessionSignals.map fun (member, _) => watchCall member

/-- The signals that have arrived on a connection before and during all subscriptions. -/
def early (c : Bus.Connection σ) : List Bus.Signal := c.inbox ++ brought c watchCalls

/-- The lines that are printed for signals. -/
def linesOf (signals : List Bus.Signal) : Journal := (signals.filterMap lineOf?).map .printed

/-- What is said of a connection that is lost. -/
def connectionLost : Trouble :=
  { contexts := ["Lost connection to D-Bus"], cause := .failure .lostConnection }

/-- What can become of watching over a connection on which this arrives afterwards: everything that
    is done, and the result. -/
inductive Watching (arrivals : List Bus.Arrival) (c : Bus.Connection σ) :
    Journal → Except Trouble Exit → Prop
  /-- A subscription fails. It is the last call, and nothing is printed. -/
  | refused (agreed : List String) (member : String) (rest : List String) (failure : Bus.Failure)
      (order : sessionSignals.map Prod.fst = agreed ++ member :: rest)
      (agreement : Agreed c (agreed.map watchCall))
      (failed : ((afterCalls c (agreed.map watchCall)).exchange (watchCall member)).1 =
        .error failure) :
      Watching arrivals c ((agreed ++ [member]).map fun member => .called (watchCall member))
        (.error { cause := .fault (.notSubscribed member failure) })
  /-- The connection is lost behind the subscriptions. All is told that has arrived by then. -/
  | cutShort (agreement : Agreed c watchCalls)
      (closing : (afterCalls c watchCalls).phase = .closing) :
      Watching arrivals c (watchCalls.map .called ++ linesOf (early c)) (.error connectionLost)
  /-- The connection is lost behind any number of batches. All is told that has arrived by then,
      each batch before the next one came. -/
  | lost (batches : List (List Bus.Signal)) (later : List Bus.Arrival)
      (order : arrivals = batches.map .signals ++ .closing :: later)
      (agreement : Agreed c watchCalls)
      (active : (afterCalls c watchCalls).phase = .active) :
      Watching arrivals c (watchCalls.map .called ++ linesOf (early c ++ batches.flatten))
        (.error connectionLost)
  /-- The connection lives on. All is told that has arrived, and there is no end yet. -/
  | waiting (batches : List (List Bus.Signal)) (order : arrivals = batches.map .signals)
      (agreement : Agreed c watchCalls)
      (active : (afterCalls c watchCalls).phase = .active) :
      Watching arrivals c (watchCalls.map .called ++ linesOf (early c ++ batches.flatten))
        (.ok .waiting)

/-! ## What is printed -/

theorem readable_argument (shape : Bus.Shape) (body : Bus.Body) :
    (shape.read? body).map payloadText = argumentText? shape body := by
  cases shape with
  | bare => rfl
  | number | flag | path | level =>
      cases body with
      | nil => rfl
      | cons w rest => cases w <;> rfl

/-- The callbacks by which watching hears. -/
def watchers : List Bus.Subscription :=
  Notice.ofSession.map fun n => n.subscription Session.path n.member

theorem sessionSignals_eq :
    sessionSignals = Notice.ofSession.map fun n => (n.member, n.shape) := rfl

theorem interface_of_mem {n : Notice} (h : n ∈ Notice.ofSession) :
    n.interface = "org.sessiond.session1.Session" := by
  have hall : ∀ n ∈ Notice.ofSession, n.interface = "org.sessiond.session1.Session" := by decide
  exact hall n h

/-- Among callbacks for signals of the session, only the member tells which one hears. -/
theorem find?_watchers {ns : List Notice}
    (h : ∀ n ∈ ns, n.interface = "org.sessiond.session1.Session") (s : Bus.Signal) :
    (ns.map fun n => n.subscription Session.path n.member).find? (fun sub => sub.rule.accepts s) =
      if s.path = "/org/sessiond/session1" ∧ s.interface = "org.sessiond.session1.Session" then
        (ns.find? fun n => n.member = s.member).map fun n => n.subscription Session.path n.member
      else none := by
  induction ns with
  | nil => split <;> rfl
  | cons n ns ih =>
      have haccepts : (n.subscription Session.path n.member).rule.accepts s =
          (decide (s.path = "/org/sessiond/session1" ∧
            s.interface = "org.sessiond.session1.Session") && decide (n.member = s.member)) := by
        have hinterface := h n List.mem_cons_self
        rw [Bool.decide_and, ← hinterface,
          decide_eq_decide.mpr (eq_comm (a := n.member) (b := s.member))]
        rfl
      rw [List.map_cons, List.find?_cons, haccepts, ih fun n' hn' => h n' (.tail n hn')]
      by_cases hsession :
        s.path = "/org/sessiond/session1" ∧ s.interface = "org.sessiond.session1.Session"
      · simp only [if_pos hsession, decide_eq_true hsession, Bool.true_and, List.find?_cons]
        cases decide (n.member = s.member) <;> rfl
      · simp only [if_neg hsession, decide_eq_false hsession, Bool.false_and]

/-- The line of what a signal makes happen is that of the signal. -/
theorem line_of_dispatch (s : Bus.Signal) :
    (Bus.dispatch watchers s).map (fun d => deliveryLine d ++ "\n") = lineOf? s := by
  unfold Bus.dispatch lineOf? watchers
  rw [find?_watchers (fun _ => interface_of_mem), sessionSignals_eq, List.find?_map]
  by_cases hsession :
    s.path = "/org/sessiond/session1" ∧ s.interface = "org.sessiond.session1.Session"
  · rw [if_pos hsession, if_pos hsession]
    show _ = (Option.map _ (Notice.ofSession.find? fun n => n.member = s.member)).bind _
    cases Notice.ofSession.find? fun n => n.member = s.member with
    | none => rfl
    | some n =>
        show ((n.shape.read? s.body).map _).map _ = (argumentText? n.shape s.body).map _
        rw [← readable_argument, Option.map_map, Option.map_map]
        rfl
  · rw [if_neg hsession, if_neg hsession]
    rfl

/-- Printing lines adds them to what was done. -/
@[simp] theorem each_printLine (line : α → String) (as : List α) (w : World σ) :
    (Action.each (fun a => Action.printLine (line a)) as : Action σ Trouble (List Unit)) w =
      (.ok (as.map fun _ => ()),
        { w with journal := w.journal ++ as.map fun a => .printed (line a ++ "\n") }) := by
  induction as generalizing w with
  | nil =>
      rw [List.map_nil, List.map_nil, List.append_nil]
      rfl
  | cons a as ih =>
      simp only [Action.each, Action.bind_apply, Action.printLine_apply, Action.done_apply, ih,
        List.map_cons, List.append_assoc, List.singleton_append]

@[simp] theorem linesOf_append (before after : List Bus.Signal) :
    linesOf (before ++ after) = linesOf before ++ linesOf after := by
  simp [linesOf]

/-! ## Passes -/

/-- A pass tells what waits, and notices the loss of the connection only then. -/
theorem tellPending_eq {w : World σ} (hopen : w.connection.phase ≠ .closed)
    (hheard : w.connection.subscriptions = watchers) :
    tellPending w =
      (if w.connection.phase = .closing then .error connectionLost else .ok (),
        { connection := w.connection.process.2
          journal := w.journal ++ linesOf w.connection.inbox }) := by
  have hlines : w.connection.process.1.map
      (fun d => Client.Event.printed (deliveryLine d ++ "\n")) = linesOf w.connection.inbox := by
    rw [linesOf, ← funext line_of_dispatch, ← hheard, ← List.map_filterMap, List.map_map]
    rfl
  unfold tellPending
  simp only [Action.bind_apply, Action.process_apply, each_printLine, hlines]
  unfold ensureConnected Bus.Connection.process
  cases hphase : w.connection.phase with
  | active => rfl
  | closing => rfl
  | closed => exact absurd hphase hopen

theorem listen_eq (arrivals : List Bus.Arrival) :
    (listen arrivals : Action σ Trouble Exit) = tellPending >>= fun _ =>
      match arrivals with
      | [] => Action.done .waiting
      | arrival :: rest => Action.await arrival >>= fun _ => listen rest := by
  cases arrivals <;> rfl

/-- Where the connection is about to be lost, one pass is made, and nothing that would come
    afterwards is waited for. -/
theorem listen_of_closing {w : World σ} (hclosing : w.connection.phase = .closing)
    (hheard : w.connection.subscriptions = watchers) (arrivals : List Bus.Arrival) :
    (listen arrivals w).1 = .error connectionLost ∧
      (listen arrivals w).2.journal = w.journal ++ linesOf w.connection.inbox := by
  have hopen : w.connection.phase ≠ .closed := by
    rw [hclosing]
    decide
  rw [listen_eq, Action.bind_apply, tellPending_eq hopen hheard, if_pos hclosing]
  exact ⟨rfl, rfl⟩

/-- All callbacks hear, and the connection lives. -/
structure Listening (w : World σ) : Prop where
  heard : w.connection.subscriptions = watchers
  active : w.connection.phase = .active

namespace Listening

variable {w : World σ}

theorem isOpen (h : Listening w) : w.connection.phase ≠ .closed := by
  rw [h.active]
  decide

/-- A pass tells what waits, and the next one can follow. -/
theorem pass (h : Listening w) : ∃ w' : World σ, tellPending w = (.ok (), w') ∧ Listening w' ∧
    w'.connection.inbox = [] ∧ w'.journal = w.journal ++ linesOf w.connection.inbox := by
  have hliving : w.connection.phase ≠ .closing := by
    rw [h.active]
    decide
  have hpass := tellPending_eq h.isOpen h.heard
  rw [if_neg hliving] at hpass
  refine ⟨_, hpass, ⟨h.heard, ?_⟩, rfl, rfl⟩
  show (if w.connection.phase = .closing then _ else w.connection.phase) = _
  rw [if_neg hliving, h.active]

/-- One batch: what has waited is told, and the batch waits for the next pass. -/
theorem batch (h : Listening w) (signals : List Bus.Signal) (rest : List Bus.Arrival) :
    ∃ w' : World σ, Listening w' ∧ listen (.signals signals :: rest) w = listen rest w' ∧
      w'.journal ++ linesOf w'.connection.inbox =
        w.journal ++ linesOf (w.connection.inbox ++ signals) := by
  obtain ⟨v, hpass, hlistening, htold, hjournal⟩ := h.pass
  have harrive : v.connection.arrive (.signals signals) =
      { v.connection with inbox := signals } := by
    show v.connection.receive signals = _
    unfold Bus.Connection.receive
    rw [if_neg hlistening.isOpen, htold]
    rfl
  refine ⟨{ v with connection := v.connection.arrive (.signals signals) }, ?_, ?_, ?_⟩
  · rw [harrive]
    exact ⟨hlistening.heard, hlistening.active⟩
  · rw [listen_eq]
    simp only [Action.bind_apply, hpass, Action.await_apply]
  · rw [harrive, hjournal, linesOf_append, List.append_assoc]

/-- Any number of batches are told as if they had come at once. -/
theorem batches (h : Listening w) (batches : List (List Bus.Signal)) (rest : List Bus.Arrival) :
    ∃ w' : World σ, Listening w' ∧ listen (batches.map .signals ++ rest) w = listen rest w' ∧
      w'.journal ++ linesOf w'.connection.inbox =
        w.journal ++ linesOf (w.connection.inbox ++ batches.flatten) := by
  induction batches generalizing w with
  | nil => exact ⟨w, h, rfl, by rw [List.flatten_nil, List.append_nil]⟩
  | cons signals batches ih =>
      obtain ⟨v, hv, hfirst, hjournal⟩ := h.batch signals (batches.map .signals ++ rest)
      obtain ⟨w', hw', hothers, hjournal'⟩ := ih hv
      refine ⟨w', hw', hfirst.trans hothers, ?_⟩
      rw [hjournal', linesOf_append, ← List.append_assoc, hjournal, List.append_assoc,
        ← linesOf_append, List.append_assoc, List.flatten_cons]

/-- As long as the connection lives, there is no end. -/
theorem listen_waiting (h : Listening w) (batches : List (List Bus.Signal)) :
    (listen (batches.map .signals) w).1 = .ok .waiting ∧
      (listen (batches.map .signals) w).2.journal =
        w.journal ++ linesOf (w.connection.inbox ++ batches.flatten) := by
  obtain ⟨v, hv, hbatches, hjournal⟩ := h.batches batches []
  obtain ⟨v', hpass, -, -, hjournal'⟩ := hv.pass
  rw [List.append_nil] at hbatches
  rw [hbatches, ← hjournal, ← hjournal', listen_eq, Action.bind_apply, hpass]
  exact ⟨rfl, rfl⟩

/-- The loss of the connection is the end, and is noticed when all has been told. -/
theorem listen_lost (h : Listening w) (batches : List (List Bus.Signal))
    (later : List Bus.Arrival) :
    (listen (batches.map .signals ++ .closing :: later) w).1 = .error connectionLost ∧
      (listen (batches.map .signals ++ .closing :: later) w).2.journal =
        w.journal ++ linesOf (w.connection.inbox ++ batches.flatten) := by
  obtain ⟨v, hv, hbatches, hjournal⟩ := h.batches batches (.closing :: later)
  obtain ⟨v', hpass, hlistening, htold, hjournal'⟩ := hv.pass
  have harrive : v'.connection.arrive .closing = { v'.connection with phase := .closing } :=
    if_neg hlistening.isOpen
  have hlast : listen (.closing :: later) v =
      listen later { v' with connection := { v'.connection with phase := .closing } } := by
    rw [listen_eq]
    simp only [Action.bind_apply, hpass, Action.await_apply, harrive]
  obtain ⟨hresult, hnothing⟩ := listen_of_closing
    (w := { v' with connection := { v'.connection with phase := .closing } }) rfl hlistening.heard
    later
  rw [hbatches, hlast, ← hjournal, ← hjournal']
  refine ⟨hresult, hnothing.trans ?_⟩
  show v'.journal ++ linesOf v'.connection.inbox = v'.journal
  rw [htold]
  exact List.append_nil _

end Listening

/-- Either the connection is lost at some point, or only signals arrive. -/
theorem arrivals_cases (arrivals : List Bus.Arrival) :
    (∃ (batches : List (List Bus.Signal)) (later : List Bus.Arrival),
        arrivals = batches.map .signals ++ .closing :: later) ∨
      ∃ batches : List (List Bus.Signal), arrivals = batches.map .signals := by
  induction arrivals with
  | nil => exact .inr ⟨[], rfl⟩
  | cons arrival rest ih =>
      cases arrival with
      | closing => exact .inl ⟨[], rest, rfl⟩
      | signals batch =>
          obtain ⟨batches, later, rfl⟩ | ⟨batches, rfl⟩ := ih
          · exact .inl ⟨batch :: batches, later, rfl⟩
          · exact .inr ⟨batch :: batches, rfl⟩

/-! ## Subscribing -/

theorem subscribeCall_session {n : Notice} (h : n ∈ Notice.ofSession) :
    (n.rule Session.path).subscribeCall = watchCall n.member := by
  have htext : "type='signal',path='" ++ "/org/sessiond/session1" ++ "',interface='" ++
      "org.sessiond.session1.Session" ++ "',member='" =
        "type='signal',path='/org/sessiond/session1'," ++
          "interface='org.sessiond.session1.Session',member='" := by decide
  unfold watchCall
  rw [← htext, ← interface_of_mem h]
  rfl

/-- The subscription to one signal is one call. It is registered if the bus agrees, and else it
    fails. -/
theorem watch_one (timeout : Nat) {n : Notice} (hn : n ∈ Notice.ofSession) {w : World σ}
    (hopen : w.connection.phase ≠ .closed) {result : Except Trouble Unit} {after : World σ}
    (hwatch : plainly ((Session.ofTimeout timeout).handle.watch n n.member) w = (result, after)) :
    after.journal.deeds = w.journal.deeds ++ [.called (watchCall n.member)] ∧
      match (w.connection.exchange (watchCall n.member)).1 with
      | .ok _ => result = .ok () ∧ after.connection =
          (w.connection.exchange (watchCall n.member)).2.subscribe
            (n.subscription Session.path n.member)
      | .error failure =>
        result = .error { cause := .fault (.notSubscribed n.member failure) } := by
  have hamounts := (Client.Handle.watch_amountsTo (σ := σ) (Session.ofTimeout timeout).handle n
    n.member).mapError (fun f => ({ cause := .fault f } : Trouble))
  obtain ⟨hresult, hconnection, hdeeds⟩ := hamounts w w (.refl w)
  change (plainly _ w).1 = _ at hresult
  change (plainly _ w).2.connection = _ at hconnection
  change (plainly _ w).2.journal.deeds = _ at hdeeds
  rw [hwatch] at hresult hconnection hdeeds
  have hcall : (n.rule (Session.ofTimeout timeout).handle.path).subscribeCall =
      watchCall n.member := subscribeCall_session hn
  simp only [Client.Handle.watchInquiry, Inquiry.mapError, Inquiry.run, hcall,
    Action.call_of_open _ hopen] at hresult hconnection hdeeds
  have hnoted : Journal.deeds (w.journal ++ [.called (watchCall n.member)]) =
      w.journal.deeds ++ [.called (watchCall n.member)] := Journal.deeds_append _ _
  revert hresult hconnection hdeeds
  cases (w.connection.exchange (watchCall n.member)).1 with
  | ok body =>
      intro hresult hconnection hdeeds
      exact ⟨hdeeds.trans hnoted, hresult, hconnection⟩
  | error failure =>
      intro hresult _ hdeeds
      exact ⟨hdeeds.trans hnoted, hresult⟩

/-! ### One after another -/

/-- What is registered makes no difference to calls. -/
theorem agreed_subscriptions (c : Bus.Connection σ) (subscriptions : List Bus.Subscription)
    (calls : List Bus.Call) : Agreed { c with subscriptions } calls ↔ Agreed c calls := by
  induction calls generalizing c with
  | nil => exact Iff.rfl
  | cons call rest ih => exact and_congr_right fun _ => ih (c.exchange call).2

theorem afterCalls_subscriptions (c : Bus.Connection σ) (subscriptions : List Bus.Subscription)
    (calls : List Bus.Call) :
    afterCalls { c with subscriptions } calls = { afterCalls c calls with subscriptions } := by
  induction calls generalizing c with
  | nil => rfl
  | cons call rest ih => exact ih (c.exchange call).2

theorem afterCalls_inbox (c : Bus.Connection σ) (calls : List Bus.Call) :
    (afterCalls c calls).inbox = c.inbox ++ brought c calls := by
  induction calls generalizing c with
  | nil => exact (List.append_nil _).symm
  | cons call rest ih =>
      refine (ih (c.exchange call).2).trans ?_
      rw [Client.exchange_connection, List.append_assoc]
      rfl

/-- The calls of subscriptions. -/
def callsOf (ns : List Notice) : List Bus.Call := ns.map fun n => watchCall n.member

theorem callsOf_eq (ns : List Notice) : callsOf ns = (ns.map Notice.member).map watchCall := by
  rw [List.map_map]
  rfl

/-- Subscribes to signals of the session, one after another. -/
def subscribeAll (timeout : Nat) (ns : List Notice) : Action σ Trouble (List Unit) :=
  Action.each (fun n => plainly ((Session.ofTimeout timeout).handle.watch n n.member)) ns

/-- Subscribing goes on up to the first subscription that fails. -/
theorem subscribeAll_cases (timeout : Nat) {ns : List Notice} (hns : ∀ n ∈ ns, n ∈ Notice.ofSession)
    {w : World σ} (hopen : w.connection.phase ≠ .closed) {result : Except Trouble (List Unit)}
    {after : World σ} (h : subscribeAll timeout ns w = (result, after)) :
    (∃ agreed n rest failure, ns = agreed ++ n :: rest ∧
      Agreed w.connection (callsOf agreed) ∧
      ((afterCalls w.connection (callsOf agreed)).exchange (watchCall n.member)).1 =
        .error failure ∧
      result = .error { cause := .fault (.notSubscribed n.member failure) } ∧
      after.journal.deeds = w.journal.deeds ++ (callsOf (agreed ++ [n])).map .called) ∨
    (Agreed w.connection (callsOf ns) ∧ (∃ us, result = .ok us) ∧
      after.connection = { afterCalls w.connection (callsOf ns) with
        subscriptions := w.connection.subscriptions ++
          ns.map fun n => n.subscription Session.path n.member } ∧
      after.connection.phase ≠ .closed ∧
      after.journal.deeds = w.journal.deeds ++ (callsOf ns).map .called) := by
  induction ns generalizing w result after with
  | nil =>
      cases h
      refine .inr ⟨trivial, ⟨[], rfl⟩, ?_, hopen, (List.append_nil _).symm⟩
      show _ = { w.connection with subscriptions := w.connection.subscriptions ++ [] }
      rw [List.append_nil]
  | cons n ns ih =>
      rcases hone : plainly ((Session.ofTimeout timeout).handle.watch n n.member) w with ⟨r, w'⟩
      obtain ⟨hdeeds, hanswer⟩ := watch_one timeout (hns n List.mem_cons_self) hopen hone
      change (plainly _ >>= fun u =>
        subscribeAll timeout ns >>= fun us => Action.done (u :: us)) w = _ at h
      rw [Action.bind_apply, hone] at h
      cases hexchange : (w.connection.exchange (watchCall n.member)).1 with
      | error failure =>
          rw [hexchange] at hanswer
          cases hanswer
          cases h
          exact .inl ⟨[], n, ns, failure, rfl, trivial, hexchange, rfl, hdeeds⟩
      | ok body =>
          rw [hexchange] at hanswer
          obtain ⟨rfl, hconnection⟩ := hanswer
          have hopen' : w'.connection.phase ≠ .closed := by
            rw [hconnection]
            exact open_of_answered hopen hexchange
          rcases hrest : subscribeAll timeout ns w' with ⟨r', w''⟩
          simp only [Action.bind_apply, hrest] at h
          -- the callback that is registered by now makes no difference to the calls to come
          have hcases := ih (fun n' hn' => hns n' (.tail n hn')) hopen' hrest
          simp only [hconnection, Bus.Connection.subscribe, agreed_subscriptions,
            afterCalls_subscriptions, hdeeds, List.append_assoc] at hcases
          rcases hcases with ⟨agreed, m, rest, failure, rfl, hagreed, hfailed, rfl, hdeeds'⟩ |
            ⟨hagreed, ⟨us, rfl⟩, hconnection', hopen'', hdeeds'⟩
          · cases h
            exact .inl ⟨n :: agreed, m, rest, failure, rfl, ⟨⟨body, hexchange⟩, hagreed⟩, hfailed,
              rfl, hdeeds'⟩
          · cases h
            exact .inr ⟨⟨⟨body, hexchange⟩, hagreed⟩, ⟨() :: us, rfl⟩, hconnection', hopen'',
              hdeeds'⟩

/-! ## Watching -/

/-- Watching subscribes and then listens, from a world like the one in which it starts. -/
theorem monitor_apply (arrivals : List Bus.Arrival) (service : Service) (w : World σ) :
    ∃ v : World σ, v.Alike w ∧ monitor arrivals service w =
      (subscribeAll service.timeout Notice.ofSession >>= fun _ => listen arrivals) v := by
  obtain ⟨v, halike, hsession⟩ := service.session_apply (ε := Trouble) w
  refine ⟨v, halike, ?_⟩
  unfold monitor
  rw [Action.bind_apply, hsession]
  rfl

theorem Watching.of_refused (arrivals : List Bus.Arrival) {c : Bus.Connection σ}
    {agreed rest : List Notice} {n : Notice} {failure : Bus.Failure}
    (horder : Notice.ofSession = agreed ++ n :: rest) (hagreed : Agreed c (callsOf agreed))
    (hfailed : ((afterCalls c (callsOf agreed)).exchange (watchCall n.member)).1 =
      .error failure) :
    Watching arrivals c ((callsOf (agreed ++ [n])).map .called)
      (.error { cause := .fault (.notSubscribed n.member failure) }) := by
  have hcalled : (callsOf (agreed ++ [n])).map Client.Event.called =
      (agreed.map Notice.member ++ [n.member]).map fun member => .called (watchCall member) := by
    rw [callsOf_eq, List.map_map, List.map_append]
    rfl
  have hnames : sessionSignals.map Prod.fst =
      agreed.map Notice.member ++ n.member :: rest.map Notice.member := by
    rw [sessionSignals_eq, horder, List.map_map, List.map_append]
    rfl
  rw [callsOf_eq] at hagreed hfailed
  rw [hcalled]
  exact .refused _ n.member _ failure hnames hagreed hfailed

/-- Behind all subscriptions, the course depends on when the connection is lost. -/
theorem Watching.of_agreed (arrivals : List Bus.Arrival) {c : Bus.Connection σ}
    (hagreed : Agreed c watchCalls) {w : World σ} (hopen : w.connection.phase ≠ .closed)
    (hheard : w.connection.subscriptions = watchers)
    (hphase : w.connection.phase = (afterCalls c watchCalls).phase)
    (hinbox : w.connection.inbox = early c) :
    ∃ told, (listen arrivals w).2.journal = w.journal ++ linesOf told ∧
      Watching arrivals c (watchCalls.map .called ++ linesOf told) (listen arrivals w).1 := by
  cases hnow : w.connection.phase with
  | closed => exact absurd hnow hopen
  | closing =>
      obtain ⟨hresult, hjournal⟩ := listen_of_closing hnow hheard arrivals
      refine ⟨_, hjournal, ?_⟩
      rw [hresult, hinbox]
      exact .cutShort hagreed (hphase ▸ hnow)
  | active =>
      have hlistening : Listening w := ⟨hheard, hnow⟩
      obtain ⟨batches, later, horder⟩ | ⟨batches, horder⟩ := arrivals_cases arrivals
      · obtain ⟨hresult, hjournal⟩ := hlistening.listen_lost batches later
        refine ⟨_, horder ▸ hjournal, ?_⟩
        rw [horder, hresult, hinbox]
        exact .lost batches later rfl hagreed (hphase ▸ hnow)
      · obtain ⟨hresult, hjournal⟩ := hlistening.listen_waiting batches
        refine ⟨_, horder ▸ hjournal, ?_⟩
        rw [horder, hresult, hinbox]
        exact .waiting batches rfl hagreed (hphase ▸ hnow)

/-- Over a fresh connection, whatever signals come before, during and after the subscriptions, in
    however many batches, and whatever the bus replies, watching takes one of its courses. -/
theorem perform_monitor (env : Environment) (settings : Settings) (service : Service)
    {w : World σ} (hopen : w.connection.phase ≠ .closed)
    (hfresh : w.connection.subscriptions = []) :
    ∃ done, (perform env settings service .monitor w).2.journal.deeds =
        w.journal.deeds ++ done ∧
      Watching env.arrivals w.connection done (perform env settings service .monitor w).1 := by
  obtain ⟨v, halike, hperform⟩ := monitor_apply env.arrivals service w
  have hdeeds : v.journal.deeds = w.journal.deeds := halike.deeds
  have hconnection : v.connection = w.connection := halike.connection
  rcases hall : subscribeAll service.timeout Notice.ofSession v with ⟨result, w'⟩
  rw [Action.bind_apply, hall] at hperform
  change perform env settings service .monitor w = _ at hperform
  rw [hperform]
  rcases subscribeAll_cases service.timeout (fun _ h => h) (hconnection ▸ hopen) hall with
    ⟨agreed, n, rest, failure, horder, hagreed, hfailed, rfl, hdeeds'⟩ |
    ⟨hagreed, ⟨us, rfl⟩, hconnection', hopen', hdeeds'⟩
  · -- nothing has been processed, so nothing can have been printed
    rw [hconnection] at hagreed hfailed
    exact ⟨_, hdeeds ▸ hdeeds', .of_refused _ horder hagreed hfailed⟩
  · -- all callbacks are registered before the first signal is processed
    rw [hconnection] at hagreed hconnection'
    have hheard : w'.connection.subscriptions = watchers := by
      rw [hconnection', hfresh]
      rfl
    have hphase : w'.connection.phase = (afterCalls w.connection watchCalls).phase := by
      rw [hconnection']
      rfl
    have hinbox : w'.connection.inbox = early w.connection := by
      rw [hconnection', early, ← afterCalls_inbox]
      rfl
    obtain ⟨told, hjournal, hwatching⟩ :=
      Watching.of_agreed env.arrivals hagreed hopen' hheard hphase hinbox
    refine ⟨_, ?_, hwatching⟩
    show (listen env.arrivals w').2.journal.deeds = _
    rw [hjournal, Journal.deeds_append, linesOf, Journal.deeds_printed, hdeeds', hdeeds,
      List.append_assoc]
    rfl

/-- A signal comes around the first subscription and more behind the last one, in two batches and
    with one of another object between them. Then the connection is lost. -/
theorem perform_monitor_lost :
    let signal (path member : String) (body : Bus.Body) : Bus.Signal :=
      { path, interface := "org.sessiond.session1.Session", member, body }
    let batches :=
      [[signal "/org/sessiond/session1" "PrepareForSleep" [.boolean true],
        signal "/other" "Unlock" []],
       [signal "/org/sessiond/session1" "Lock" []]]
    let env : Environment :=
      { readText := fun _ => .error .notText
        hasPath := fun _ => false
        usualSettings := none
        runProgram := fun _ => .ended "" "" (.exited 0)
        rejection := none
        arrivals := batches.map .signals ++ [.closing] }
    let w : World (List Bus.Reply) :=
      { connection := .fresh (.scripted .noReply)
          ({ before := [signal "/org/sessiond/session1" "Idle" []], answer := .returned [] } ::
            List.replicate 11 { answer := .returned [] }) }
    w.connection.phase ≠ .closed ∧ w.connection.subscriptions = [] ∧
      (early w.connection ++ batches.flatten).filterMap lineOf? =
        ["Idle\n", "PrepareForSleep true\n", "Lock\n"] ∧
      ∃ done, (perform env {} {} .monitor w).2.journal.deeds = w.journal.deeds ++ done ∧
        Watching env.arrivals w.connection done (perform env {} {} .monitor w).1 := by
  intro signal batches env w
  have hopen : w.connection.phase ≠ .closed := by decide
  have hlines : (early w.connection ++ batches.flatten).filterMap lineOf? =
      ["Idle\n", "PrepareForSleep true\n", "Lock\n"] := by decide
  refine ⟨hopen, rfl, hlines, ?_⟩
  exact perform_monitor env {} {} hopen rfl

end SessionControl.Command
