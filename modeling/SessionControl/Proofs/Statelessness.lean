import SessionControl.Proofs.Fidelity

set_option autoImplicit false

/-! # Nothing is kept between operations

What an operation asks and what it gives back depend on the replies to it, and on nothing that came
before: handles hold nothing that they have read, and neither replies that were left over nor
signals that wait get into a result. There is one exception, which is the transport's: a call that
is cut off without another word is told as unanswered if no signal waits, and as cut off if one
does. Once a connection is closed it stays closed, and whatever turns to the bus fails. -/

namespace SessionControl.Client

variable {σ ε α : Type}

/-! ## Histories -/

/-- A step of a history in which the replies are laid out anew for each operation. Each operation
    may go through handles of a service of its own. -/
inductive Turn
  | emit (signals : List Bus.Signal)
  | process
  | perform (s : Service) (op : Operation) (replies : List Bus.Reply)

/-- The world with these replies to come, and no others. -/
def World.layOut (w : World (List Bus.Reply)) (replies : List Bus.Reply) :
    World (List Bus.Reply) :=
  { w with connection := { w.connection with state := replies } }

namespace Turn

/-- The world after a step. -/
def run (w : World (List Bus.Reply)) : Turn → World (List Bus.Reply)
  | emit signals => ((Step.emit signals).run {} w).2
  | process => (Step.process.run {} w).2
  | perform s op replies => (op.perform s (w.layOut replies)).2

/-- The world after a history. -/
def runAll (w : World (List Bus.Reply)) (turns : List Turn) : World (List Bus.Reply) :=
  turns.foldl run w

/-- A fresh connection, over which nothing has happened. The failure is that of calls for which no
    reply is laid out. -/
def start (exhausted : Bus.Failure) : World (List Bus.Reply) :=
  { connection := .fresh (.scripted exhausted) [] }

end Turn

/-! ## What stays as it is -/

theorem Inquiry.run_peer (i : Inquiry ε α) (w : World σ) :
    (i.run w).2.connection.peer = w.connection.peer := by
  cases i with
  | settled result => cases result <;> rfl
  | asks call read callback =>
      obtain ⟨subscriptions, henlist⟩ := enlist_eq callback (read (Action.call call w).1)
        (Action.call call w).2
      simp only [run, henlist]
      by_cases hclosed : w.connection.phase = .closed
      · rw [Action.call_of_closed call hclosed]
      · rw [Action.call_of_open call hclosed]
        rfl

/-- Over a closed connection an inquiry does nothing that others could see. -/
theorem Inquiry.run_of_closed (i : Inquiry ε α) {w : World σ}
    (hclosed : w.connection.phase = .closed) :
    ∃ subscriptions, (i.run w).2 =
      { w with connection := { w.connection with subscriptions } } := by
  cases i with
  | settled result => exact ⟨w.connection.subscriptions, by cases result <;> rfl⟩
  | asks call read callback =>
      simp only [run, Action.call_of_closed call hclosed]
      exact enlist_eq callback _ w

theorem Turn.run_peer (w : World (List Bus.Reply)) (turn : Turn) :
    (turn.run w).connection.peer = w.connection.peer := by
  cases turn with
  | emit signals =>
      show (w.connection.receive signals).peer = _
      unfold Bus.Connection.receive
      split <;> rfl
  | process => rfl
  | perform s op replies =>
      show (op.perform s (w.layOut replies)).2.connection.peer = _
      rw [(op.perform_run s _).2]
      exact (op.inquiry s).run_peer _

theorem Turn.runAll_peer (w : World (List Bus.Reply)) (turns : List Turn) :
    (runAll w turns).connection.peer = w.connection.peer := by
  induction turns generalizing w with
  | nil => rfl
  | cons turn rest ih => exact (ih (turn.run w)).trans (turn.run_peer w)

/-- No step opens a connection again. -/
theorem Turn.run_closed {w : World (List Bus.Reply)} (hclosed : w.connection.phase = .closed)
    (turn : Turn) : (turn.run w).connection.phase = .closed := by
  cases turn with
  | emit signals =>
      show (w.connection.receive signals).phase = _
      rw [Bus.Connection.receive, if_pos hclosed]
      exact hclosed
  | process =>
      show (if w.connection.phase = .closing then _ else w.connection.phase) = _
      rw [hclosed]
      rfl
  | perform s op replies =>
      obtain ⟨subscriptions, hrun⟩ :=
        (op.inquiry s).run_of_closed (w := w.layOut replies) hclosed
      show (op.perform s (w.layOut replies)).2.connection.phase = _
      rw [(op.perform_run s _).2, hrun]
      exact hclosed

theorem Turn.runAll_closed {w : World (List Bus.Reply)} (hclosed : w.connection.phase = .closed)
    (turns : List Turn) : (runAll w turns).connection.phase = .closed := by
  induction turns generalizing w with
  | nil => exact hclosed
  | cons turn rest ih => exact ih (turn.run_closed hclosed)

/-! ## The same operation in two worlds -/

/-- What waits matters to a call only if it is cut off ahead of all signals. -/
theorem Question.made_congr (q : Question) (waiting waiting' : List Bus.Signal)
    {reply : Bus.Reply} (h : ¬(reply.answer = .dropped ∧ reply.before = [])) :
    q.made (waiting ++ reply.before) reply.answer =
      q.made (waiting' ++ reply.before) reply.answer := by
  cases hanswer : reply.answer with
  | dropped =>
      have hne : ∀ l : List Bus.Signal, l ++ reply.before ≠ [] := fun l hnil =>
        h ⟨hanswer, (List.append_eq_nil_iff.mp hnil).2⟩
      simp only [made, if_neg (hne _)]
  | returned body | refused failure | silence => rfl

/-- Two worlds in which the same replies are to come make no difference to an operation, unless its
    call is cut off ahead of all signals. -/
theorem Operation.perform_compare (s : Service) (op : Operation) {w w' : World σ}
    (hpeer : w.connection.peer = w'.connection.peer)
    (hstate : w.connection.state = w'.connection.state)
    (hopen : w.connection.phase ≠ .closed) (hopen' : w'.connection.phase ≠ .closed) :
    (∃ calls, (op.perform s w).2.journal.calls = w.journal.calls ++ calls ∧
      (op.perform s w').2.journal.calls = w'.journal.calls ++ calls) ∧
    ((op.perform s w).1 = (op.perform s w').1 ∨
      ∃ q call, op.question? = some q ∧
        (w.connection.peer.reply w.connection.state call).1.answer = .dropped ∧
        (w.connection.peer.reply w.connection.state call).1.before = [] ∧
        (op.perform s w).1 = .error (q.approach.complaint
          (if w.connection.inbox = [] then .noReply else .cutOff)) ∧
        (op.perform s w').1 = .error (q.approach.complaint
          (if w'.connection.inbox = [] then .noReply else .cutOff))) := by
  obtain ⟨hresult, halike⟩ := op.perform_amountsTo s w w (.refl w)
  obtain ⟨hresult', halike'⟩ := op.perform_amountsTo s w' w' (.refl w')
  rw [hresult, hresult', halike.calls, halike'.calls]
  rcases op.inquiry_cases s with ⟨result, hsettled⟩ | ⟨q, hq, hposes⟩
  · rw [hsettled]
    refine ⟨⟨[], ?_⟩, .inl ?_⟩
    · cases result <;> exact ⟨(List.append_nil _).symm, (List.append_nil _).symm⟩
    · cases result <;> rfl
  · rcases hreply : w.connection.peer.reply w.connection.state
      (q.approach.call op.path op.interface) with ⟨reply, state⟩
    have hreply' := hreply
    rw [hpeer, hstate] at hreply'
    obtain ⟨hmade, hjournal, -⟩ := hposes.run hopen hreply
    obtain ⟨hmade', hjournal', -⟩ := hposes.run hopen' hreply'
    rw [hmade, hmade', hjournal, hjournal', Journal.calls_append, Journal.calls_append]
    refine ⟨⟨_, rfl, rfl⟩, ?_⟩
    -- only a call that is cut off ahead of all signals looks at what waits
    by_cases hcut : reply.answer = .dropped ∧ reply.before = []
    · obtain ⟨hdropped, hbefore⟩ := hcut
      refine .inr ⟨q, q.approach.call op.path op.interface, hq, ?_, ?_, ?_, ?_⟩
      · rw [hreply, hdropped]
      · rw [hreply, hbefore]
      all_goals
        rw [hdropped, hbefore, List.append_nil]
        rfl
    · exact .inl (q.made_congr _ _ hcut)

/-- Over a closed connection an operation that talks to the bus fails, and nothing else happens. -/
theorem Operation.perform_of_closed (s : Service) {op : Operation} {q : Question} {w : World σ}
    (hq : op.question? = some q) (hpath : Bus.ObjectPath.isValid op.path.toList = true)
    (hclosed : w.connection.phase = .closed) :
    (op.perform s w).1 = .error (q.approach.complaint .disconnected) ∧
      (op.perform s w).2.journal.calls = w.journal.calls ∧
      (op.perform s w).2.connection = w.connection := by
  have hposes := op.inquiry_poses s hq hpath
  obtain ⟨hresult, halike⟩ := op.perform_amountsTo s w w (.refl w)
  rw [hresult, halike.calls, halike.connection]
  revert hposes
  cases op.inquiry s with
  | settled result => nofun
  | asks call read callback =>
      -- the inquiry reads this failure as it reads any that the peer sends
      rintro ⟨_, _, hrefused, _⟩
      have hread : read (.error .disconnected) = .error (q.approach.complaint .disconnected) :=
        (hrefused .disconnected).trans (Question.refused_eq (.inr (by decide)))
      simp only [Inquiry.run, Action.call_of_closed _ hclosed, hread]
      cases callback <;> exact ⟨trivial, rfl, rfl⟩

/-! ## Any two histories -/

theorem scripted_dropped {exhausted : Bus.Failure} {replies : List Bus.Reply}
    {call : Bus.Call}
    (h : ((Bus.Peer.scripted exhausted).reply replies call).1.answer = .dropped) :
    ∃ reply rest, replies = reply :: rest ∧
      ((Bus.Peer.scripted exhausted).reply replies call).1 = reply := by
  cases replies with
  | nil => cases h
  | cons reply rest => exact ⟨reply, rest, rfl, rfl⟩

/-- Whatever has happened before, over connections that are not closed an operation with the same
    replies to come makes the same calls and has the same result. Only where its call is cut off
    without another word, two results can differ: either tells that no reply came, or that the
    connection was cut off, by whether signals wait. And once the connection is closed, then
    whatever happens, every operation that talks to the bus fails as disconnected, makes no call and
    takes no reply. -/
theorem perform_stateless (exhausted : Bus.Failure) (past past' : List Turn) (s : Service)
    (op : Operation) (replies : List Bus.Reply) :
    let w := Turn.runAll (Turn.start exhausted) past
    let w' := Turn.runAll (Turn.start exhausted) past'
    let x := op.perform s (w.layOut replies)
    let x' := op.perform s (w'.layOut replies)
    (w.connection.phase ≠ .closed → w'.connection.phase ≠ .closed →
      (∃ calls, x.2.journal.calls = w.journal.calls ++ calls ∧
        x'.2.journal.calls = w'.journal.calls ++ calls) ∧
      (x.1 = x'.1 ∨
        ∃ q reply rest, op.question? = some q ∧ replies = reply :: rest ∧
          reply.answer = .dropped ∧ reply.before = [] ∧
          x.1 = .error (q.approach.complaint
            (if w.connection.inbox = [] then .noReply else .cutOff)) ∧
          x'.1 = .error (q.approach.complaint
            (if w'.connection.inbox = [] then .noReply else .cutOff)))) ∧
    (w.connection.phase = .closed → ∀ later q, op.question? = some q →
      Bus.ObjectPath.isValid op.path.toList = true →
      let v := Turn.runAll w later
      let y := op.perform s (v.layOut replies)
      y.1 = .error (q.approach.complaint
        ⟨"org.freedesktop.DBus.Error.Disconnected", "Connection is closed"⟩) ∧
      y.2.journal.calls = v.journal.calls ∧ y.2.connection.state = replies ∧
      y.2.connection.phase = .closed) := by
  intro w w' x x'
  refine ⟨fun hopen hopen' => ?_, fun hclosed later q hq hpath => ?_⟩
  · have hpeer : (w.layOut replies).connection.peer = (w'.layOut replies).connection.peer :=
      (Turn.runAll_peer _ past).trans (Turn.runAll_peer _ past').symm
    obtain ⟨hcalls, hresults⟩ := op.perform_compare s hpeer rfl hopen hopen'
    refine ⟨hcalls, hresults.imp_right ?_⟩
    rintro ⟨q, call, hq, hdropped, hbefore, hx, hx'⟩
    have hscript : (w.layOut replies).connection.peer = .scripted exhausted :=
      Turn.runAll_peer _ past
    have hlaidOut : (w.layOut replies).connection.state = replies := rfl
    rw [hscript, hlaidOut] at hdropped hbefore
    obtain ⟨reply, rest, hreplies, hreply⟩ := scripted_dropped hdropped
    rw [hreply] at hdropped hbefore
    exact ⟨q, reply, rest, hq, hreplies, hdropped, hbefore, hx, hx'⟩
  · have hstill : (Turn.runAll w later).connection.phase = .closed :=
      Turn.runAll_closed hclosed later
    obtain ⟨hresult, hcalls, hconnection⟩ :=
      op.perform_of_closed s (w := (Turn.runAll w later).layOut replies) hq hpath hstill
    refine ⟨hresult, hcalls, ?_, ?_⟩
    · rw [hconnection]
      rfl
    · rw [hconnection]
      exact hstill

/-- A callback for the locking of the session is registered. -/
def Turn.listening : Turn :=
  .perform {} (.onSession (.watch .lock "a")) [{ answer := .returned [] }]

/-- The session tells that it is to be locked. -/
def Turn.locking : Turn :=
  .emit [{ path := "/org/sessiond/session1", interface := "org.sessiond.session1.Session"
           member := "Lock", body := [] }]

/-- Locking shows the same ahead of a signal and behind it, and fails once the connection is
    lost. -/
theorem perform_stateless_locking :
    let lost : Turn := .perform {} (.onSession .unlock) [{ answer := .dropped }]
    let w := Turn.runAll (Turn.start .noReply) [.listening]
    let w' := Turn.runAll (Turn.start .noReply) [.listening, .locking]
    let v := Turn.runAll (Turn.start .noReply) [.listening, lost]
    let lock (w : World (List Bus.Reply)) :=
      (Operation.onSession .lock).perform {} (w.layOut [{ answer := .returned [] }])
    w.connection.phase ≠ .closed ∧ w'.connection.phase ≠ .closed ∧ v.connection.phase = .closed ∧
      (lock w).1 = (lock w').1 ∧
      (lock (Turn.runAll v [.process])).1 = .error (.callFailed
        ⟨"org.freedesktop.DBus.Error.Disconnected", "Connection is closed"⟩) := by
  intro lost w w' v lock
  have hopen : w.connection.phase ≠ .closed := by decide
  have hopen' : w'.connection.phase ≠ .closed := by decide
  have hclosed : v.connection.phase = .closed := by decide
  obtain ⟨-, hsame⟩ := (perform_stateless .noReply [.listening] [.listening, .locking] {}
    (.onSession .lock) [{ answer := .returned [] }]).1 hopen hopen'
  obtain ⟨hfails, -⟩ := (perform_stateless .noReply [.listening, lost] [] {} (.onSession .lock)
    [{ answer := .returned [] }]).2 hclosed [.process] (.method "Lock" [] .nothing) rfl (by decide)
  refine ⟨hopen, hopen', hclosed, hsame.resolve_right ?_, hfails⟩
  rintro ⟨q, reply, rest, -, hreplies, hdropped, -⟩
  cases hreplies
  cases hdropped

/-- Over a connection with nothing wrong, a call that is cut off is told as unanswered, or as cut
    off if a signal waits. -/
theorem cut_off_is_told_by_what_waits :
    let w := Turn.runAll (Turn.start .noReply) [.listening]
    let w' := Turn.runAll (Turn.start .noReply) [.listening, .locking]
    let lock (w : World (List Bus.Reply)) :=
      (Operation.onSession .lock).perform {} (w.layOut [{ answer := .dropped }])
    w.connection.phase = .active ∧ w'.connection.phase = .active ∧
      (lock w).1 = .error (.callFailed .noReply) ∧ (lock w').1 = .error (.callFailed .cutOff) ∧
      (lock w).1 ≠ (lock w').1 := by
  intro w w' lock
  have hunanswered : (lock w).1 = .error (.callFailed .noReply) := rfl
  have hcutOff : (lock w').1 = .error (.callFailed .cutOff) := rfl
  refine ⟨by decide, by decide, hunanswered, hcutOff, ?_⟩
  rw [hunanswered, hcutOff]
  nofun

end SessionControl.Client
