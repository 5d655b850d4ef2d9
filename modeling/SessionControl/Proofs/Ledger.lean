import SessionControl.Proofs.Fidelity
import SessionControl.Proofs.Maps

set_option autoImplicit false

/-! # The ledger of inhibitors

A client can keep a ledger of the inhibitors in effect, from nothing but what it has asked for and
what came back: who added each of them, and why. If the service keeps a table of its inhibitors
(`KeepsInhibitors`), the ledger agrees with the table after every history of operations on
inhibitors, and every further operation shows the client what the table says. -/

namespace SessionControl.Client

variable {σ : Type}

/-! ## Services that keep a table -/

/-- A call of a method of the session. -/
def methodOfSession (member : String) (args : Bus.Body) : Bus.Call :=
  (Approach.method member args).call "/org/sessiond/session1" "org.sessiond.session1.Session"

/-- An inhibitor as the service lists it, behind its identifier. -/
def Inhibitor.listed (e : String × Inhibitor) : Bus.Wire × Bus.Wire :=
  (.string e.1, .struct [.uint64 e.2.createdAt, .string e.2.who, .string e.2.why])

/-- In a state, the peer meets a call with an answer, with whatever signals around it, and then has
    the table `after`. -/
structure AnswersWith (peer : Bus.Peer σ) (table : σ → InhibitorTable) (state : σ)
    (call : Bus.Call) (answer : Bus.Answer) (after : InhibitorTable) : Prop where
  answer : (peer.reply state call).1.answer = answer
  stays : (peer.reply state call).1.thenCloses = false
  after : table (peer.reply state call).2 = after

/-- The service keeps a table of inhibitors and answers from it. -/
structure KeepsInhibitors (peer : Bus.Peer σ) (table : σ → InhibitorTable) : Prop where
  /-- An inhibitor is entered under an identifier that is not in use. -/
  inhibit (state : σ) (who why : String) : ∃ id createdAt, (table state).get? id = none ∧
    AnswersWith peer table state (methodOfSession "Inhibit" [.string who, .string why])
      (.returned [.string id]) ((table state).insert id ⟨createdAt, who, why⟩)
  uninhibit_live (state : σ) (id : String) (live : ((table state).get? id).isSome) :
    ∃ body, AnswersWith peer table state (methodOfSession "Uninhibit" [.string id])
      (.returned body) ((table state).erase id)
  uninhibit_gone (state : σ) (id : String) (gone : (table state).get? id = none) :
    ∃ failure, AnswersWith peer table state (methodOfSession "Uninhibit" [.string id])
      (.refused failure) (table state)
  stop (state : σ) : ∃ n : UInt32,
    ((table state).size < UInt32.size → n.toNat = (table state).size) ∧
    AnswersWith peer table state (methodOfSession "StopInhibitors" [])
      (.returned [.uint32 n]) .empty
  /-- The entries may be listed in any order. -/
  list (state : σ) : ∃ entries : List (String × Inhibitor),
    entries.Perm (table state).entries ∧
    AnswersWith peer table state (methodOfSession "ListInhibitors" [])
      (.returned [.dict .string (.struct [.uint64, .string, .string])
        (entries.map Inhibitor.listed)]) (table state)

/-! ## Operations on inhibitors -/

inductive TableOperation
  | inhibit (who why : String)
  | uninhibit (id : String)
  | stop | list

namespace TableOperation

def operation : TableOperation → SessionOperation
  | inhibit who why => .inhibit who why
  | uninhibit id => .uninhibit id
  | stop => .stopInhibitors
  | list => .listInhibitors

/-- Performs the operation through a handle of its own. -/
def perform (timeout : Nat) (op : TableOperation) : Action σ Fault Outcome :=
  (Operation.onSession op.operation).perform { timeout }

/-- What was done, with its results. -/
abbrev History := List (TableOperation × Except Fault Outcome)

/-- Performs operations in order, each through a handle with a time limit of its own. -/
def runAll (w : World σ) : List (Nat × TableOperation) → History × World σ
  | [] => ([], w)
  | (timeout, op) :: rest =>
    ((op, (op.perform timeout w).1) :: (runAll (op.perform timeout w).2 rest).1,
      (runAll (op.perform timeout w).2 rest).2)

/-- What an operation shows of the table before it, and what it does to the table. -/
def Shows (now : InhibitorTable) : TableOperation → Except Fault Outcome → InhibitorTable → Prop
  | inhibit who why, result, after =>
    ∃ id createdAt, result = .ok (.text id) ∧ now.get? id = none ∧
      after = now.insert id ⟨createdAt, who, why⟩
  | uninhibit id, result, after =>
    ((now.get? id).isSome ∧ (∃ outcome, result = .ok outcome) ∧ after = now.erase id) ∨
      (now.get? id = none ∧ (∃ fault, result = .error fault) ∧ after = now)
  | stop, result, after =>
    (∃ n, result = .ok (.count n) ∧ (now.size < UInt32.size → n.toNat = now.size)) ∧ after = .empty
  | list, result, after => result = .ok (.inhibitors now) ∧ after = now

end TableOperation

/-! ## The ledger -/

/-- Who added each inhibitor in effect, and why. -/
abbrev Ledger := NameMap (String × String)

/-- What the client enters into its ledger after an operation with a result. -/
def Ledger.enter (l : Ledger) : TableOperation × Except Fault Outcome → Ledger
  | (.inhibit who why, .ok (.text id)) => l.insert id (who, why)
  | (.uninhibit id, .ok _) => l.erase id
  | (.stop, .ok _) => .empty
  | _ => l

/-- Of a table, what a ledger can know. -/
def InhibitorTable.ledger (t : InhibitorTable) : Ledger := t.map fun i => (i.who, i.why)

/-! ## One operation -/

/-- A listed inhibitor is read back as it was, field by field. -/
theorem leadingEntries_listed (entries : List (String × Inhibitor)) :
    Bus.Argument.leadingEntries Bus.Argument.string.read? Inhibitor.argument.read?
      (entries.map Inhibitor.listed) = entries := by
  induction entries with
  | nil => rfl
  | cons e rest ih => exact congrArg (e :: ·) ih

/-- What a session's operation makes of an answer of the service, and what becomes of the
    connection. -/
theorem SessionOperation.perform_answered (op : SessionOperation) {q : Question}
    {member : String} {args : Bus.Body} (hq : op.question? = some q)
    (happroach : q.approach = .method member args) {w : World σ} {table : σ → InhibitorTable}
    {answer : Bus.Answer} {after : InhibitorTable} (hopen : w.connection.phase ≠ .closed)
    (hanswers : AnswersWith w.connection.peer table w.connection.state
      (methodOfSession member args) answer after) (hanswer : answer ≠ .dropped) (timeout : Nat) :
    (∃ waiting, ((Operation.onSession op).perform { timeout } w).1 = q.made waiting answer) ∧
      ((Operation.onSession op).perform { timeout } w).2.connection.peer = w.connection.peer ∧
      ((Operation.onSession op).perform { timeout } w).2.connection.phase ≠ .closed ∧
      table ((Operation.onSession op).perform { timeout } w).2.connection.state = after := by
  have hcall : q.approach.call "/org/sessiond/session1" "org.sessiond.session1.Session" =
      methodOfSession member args := by
    rw [happroach, methodOfSession]
  have hpath : Bus.ObjectPath.isValid "/org/sessiond/session1".toList = true := by decide
  have hposes := Operation.inquiry_poses { timeout } (.onSession op) hq hpath
  rcases hreply : w.connection.peer.reply w.connection.state (methodOfSession member args)
    with ⟨reply, state⟩
  obtain ⟨hgiven, hstays, hafter⟩ := hanswers
  rw [hreply] at hgiven hstays hafter
  obtain ⟨hmade, -, subscriptions, hconnection⟩ := hposes.run hopen (hcall ▸ hreply)
  obtain ⟨hresult, hsame⟩ := (Operation.onSession op).perform_run { timeout } w
  rw [hmade] at hresult
  rw [hconnection] at hsame
  rw [hsame]
  refine ⟨⟨_, hgiven ▸ hresult⟩, rfl, ?_, hafter⟩
  show Bus.Connection.phaseAfter w.connection.phase reply ≠ .closed
  unfold Bus.Connection.phaseAfter
  rw [hgiven, hstays]
  cases answer with
  | dropped => exact absurd rfl hanswer
  | returned body | refused failure | silence => exact hopen

/-- Every operation shows the table as it is, and leaves the connection open. -/
theorem TableOperation.perform_shows {peer : Bus.Peer σ} {table : σ → InhibitorTable}
    (hkeeps : KeepsInhibitors peer table) {w : World σ} (hpeer : w.connection.peer = peer)
    (hopen : w.connection.phase ≠ .closed) (timeout : Nat) (op : TableOperation) :
    op.Shows (table w.connection.state) (op.perform timeout w).1
        (table (op.perform timeout w).2.connection.state) ∧
      (op.perform timeout w).2.connection.peer = peer ∧
      (op.perform timeout w).2.connection.phase ≠ .closed := by
  cases hpeer
  cases op with
  | inhibit who why =>
      obtain ⟨id, createdAt, hnew, hanswers⟩ := hkeeps.inhibit w.connection.state who why
      obtain ⟨⟨waiting, hresult⟩, hpeer, hphase, hafter⟩ :=
        SessionOperation.perform_answered (.inhibit who why) rfl rfl hopen hanswers
          nofun timeout
      exact ⟨⟨id, createdAt, hresult, hnew, hafter⟩, hpeer, hphase⟩
  | uninhibit id =>
      cases hlive : (table w.connection.state).get? id with
      | some i =>
          obtain ⟨body, hanswers⟩ := hkeeps.uninhibit_live w.connection.state id (hlive ▸ rfl)
          obtain ⟨⟨waiting, hresult⟩, hpeer, hphase, hafter⟩ :=
            SessionOperation.perform_answered (.uninhibit id) rfl rfl hopen hanswers
              nofun timeout
          exact ⟨.inl ⟨hlive ▸ rfl, ⟨_, hresult⟩, hafter⟩, hpeer, hphase⟩
      | none =>
          obtain ⟨failure, hanswers⟩ := hkeeps.uninhibit_gone w.connection.state id hlive
          obtain ⟨⟨waiting, hresult⟩, hpeer, hphase, hafter⟩ :=
            SessionOperation.perform_answered (.uninhibit id) rfl rfl hopen hanswers
              nofun timeout
          exact ⟨.inr ⟨hlive, ⟨_, hresult⟩, hafter⟩, hpeer, hphase⟩
  | stop =>
      obtain ⟨n, hcount, hanswers⟩ := hkeeps.stop w.connection.state
      obtain ⟨⟨waiting, hresult⟩, hpeer, hphase, hafter⟩ :=
        SessionOperation.perform_answered .stopInhibitors rfl rfl hopen hanswers
          nofun timeout
      refine ⟨⟨⟨n.toUInt64, hresult, fun hsize => ?_⟩, hafter⟩, hpeer, hphase⟩
      rw [UInt32.toNat_toUInt64, hcount hsize]
  | list =>
      obtain ⟨entries, hperm, hanswers⟩ := hkeeps.list w.connection.state
      obtain ⟨⟨waiting, hresult⟩, hpeer, hphase, hafter⟩ :=
        SessionOperation.perform_answered .listInhibitors rfl rfl hopen hanswers
          nofun timeout
      refine ⟨⟨hresult.trans ?_, hafter⟩, hpeer, hphase⟩
      show Except.ok (Outcome.inhibitors (.ofEntries (Bus.Argument.leadingEntries
        Bus.Argument.string.read? Inhibitor.argument.read? (entries.map Inhibitor.listed)))) = _
      rw [leadingEntries_listed, NameMap.ofEntries_of_perm hperm]

/-! ## Histories -/

/-- What is entered into the ledger is what has happened to the table. -/
theorem TableOperation.Shows.ledger {now after : InhibitorTable} {op : TableOperation}
    {result : Except Fault Outcome} (h : op.Shows now result after) :
    after.ledger = now.ledger.enter (op, result) := by
  cases op with
  | inhibit who why =>
      obtain ⟨id, createdAt, rfl, -, rfl⟩ := h
      exact NameMap.map_insert _ _ _ _
  | uninhibit id =>
      rcases h with ⟨-, ⟨outcome, rfl⟩, rfl⟩ | ⟨-, ⟨fault, rfl⟩, rfl⟩
      · exact NameMap.map_erase _ _ _
      · rfl
  | stop =>
      obtain ⟨⟨n, rfl, -⟩, rfl⟩ := h
      rfl
  | list =>
      obtain ⟨rfl, rfl⟩ := h
      rfl

/-- The ledger agrees with the table after every history. -/
theorem TableOperation.runAll_ledger {peer : Bus.Peer σ} {table : σ → InhibitorTable}
    (hkeeps : KeepsInhibitors peer table) {w : World σ} (hpeer : w.connection.peer = peer)
    (hopen : w.connection.phase ≠ .closed) (ops : List (Nat × TableOperation)) :
    (table (runAll w ops).2.connection.state).ledger =
        (runAll w ops).1.foldl Ledger.enter (table w.connection.state).ledger ∧
      (runAll w ops).2.connection.peer = peer ∧
      (runAll w ops).2.connection.phase ≠ .closed := by
  -- each operation starts where the one before it has left the table and the connection
  induction ops generalizing w with
  | nil => exact ⟨rfl, hpeer, hopen⟩
  | cons first rest ih =>
      obtain ⟨timeout, op⟩ := first
      obtain ⟨hshows, hpeer', hopen'⟩ := op.perform_shows hkeeps hpeer hopen timeout
      obtain ⟨hledger, hlast⟩ := ih hpeer' hopen'
      refine ⟨?_, hlast⟩
      rw [hshows.ledger] at hledger
      exact hledger

/-- After every history of operations on inhibitors, whichever handles they went through, the ledger
    agrees with the table of the service, and a further operation shows the table as the ledger has
    it: a new inhibitor gets a new identifier, one can be removed if and only if it is in effect,
    stopping all tells how many there were, and listing tells exactly those in effect, with who
    added them and why, and with their times from the table. -/
theorem ledger_faithful {peer : Bus.Peer σ} {table : σ → InhibitorTable}
    (hkeeps : KeepsInhibitors peer table) {w : World σ} (hpeer : w.connection.peer = peer)
    (hopen : w.connection.phase ≠ .closed) (before : List (Nat × TableOperation)) (timeout : Nat)
    (next : TableOperation) :
    let past := TableOperation.runAll w before
    let ledger := past.1.foldl Ledger.enter (table w.connection.state).ledger
    let now := table past.2.connection.state
    let done := next.perform timeout past.2
    let after := table done.2.connection.state
    now.ledger = ledger ∧
      match next with
      | .inhibit who why => ∃ id createdAt, done.1 = .ok (.text id) ∧ ledger.get? id = none ∧
          after = now.insert id ⟨createdAt, who, why⟩
      | .uninhibit id => (∃ outcome, done.1 = .ok outcome) ↔ (ledger.get? id).isSome
      | .stop => ∃ n, done.1 = .ok (.count n) ∧ (ledger.size < UInt32.size → n.toNat = ledger.size)
      | .list => done.1 = .ok (.inhibitors now) := by
  intro past ledger now done after
  obtain ⟨hledger, hpeer', hopen'⟩ := TableOperation.runAll_ledger hkeeps hpeer hopen before
  obtain ⟨hshows, -, -⟩ := next.perform_shows hkeeps hpeer' hopen' timeout
  change now.ledger = ledger at hledger
  refine ⟨hledger, ?_⟩
  have hget : ∀ id, ledger.get? id = (now.get? id).map fun i => (i.who, i.why) := by
    intro id
    rw [← hledger]
    exact NameMap.get?_map _ _ _
  cases next with
  | inhibit who why =>
      obtain ⟨id, createdAt, hresult, hnew, hafter⟩ := hshows
      refine ⟨id, createdAt, hresult, ?_, hafter⟩
      rw [hget]
      exact Option.map_eq_none_iff.mpr hnew
  | uninhibit id =>
      show (∃ outcome, done.1 = .ok outcome) ↔ (ledger.get? id).isSome
      rw [hget, Option.isSome_map]
      rcases hshows with ⟨hlive, hok, -⟩ | ⟨hgone, ⟨fault, herror⟩, -⟩
      · exact ⟨fun _ => hlive, fun _ => hok⟩
      · change done.1 = .error fault at herror
        change now.get? id = none at hgone
        rw [herror, hgone]
        simp
  | stop =>
      obtain ⟨⟨n, hresult, hcount⟩, -⟩ := hshows
      refine ⟨n, hresult, fun hsize => ?_⟩
      have hsizes : ledger.size = now.size := by
        rw [← hledger]
        exact NameMap.size_map _ _
      rw [hsizes] at hsize ⊢
      exact hcount hsize
  | list => exact hshows.1

/-! ### A service that does nothing else -/

namespace TableKeeper

/-- An identifier that is longer than all in use. -/
def newId (t : InhibitorTable) : String :=
  String.ofList (List.replicate (1 + (t.entries.map fun e => e.1.length).max?.getD 0) 'i')

theorem get?_newId (t : InhibitorTable) : t.get? (newId t) = none := by
  rw [NameMap.get?_eq_none_iff]
  intro e hmem heq
  have hle : e.1.length ≤ (t.entries.map fun e => e.1.length).max?.getD 0 :=
    List.le_max?_getD_of_mem (List.mem_map_of_mem hmem)
  rw [heq, newId, String.length_ofList, List.length_replicate] at hle
  omega

def unknown : Bus.Failure := ⟨"org.freedesktop.DBus.Error.Failed", "No such inhibitor"⟩

/-- A service whose state is the table. -/
def peer : Bus.Peer InhibitorTable where
  reply t call :=
    match call.member, call.args with
    | "Inhibit", [.string who, .string why] =>
      ({ answer := .returned [.string (newId t)] }, t.insert (newId t) ⟨0, who, why⟩)
    | "Uninhibit", [.string id] =>
      if (t.get? id).isSome then ({ answer := .returned [] }, t.erase id)
      else ({ answer := .refused unknown }, t)
    | "StopInhibitors", _ => ({ answer := .returned [.uint32 (.ofNat t.size)] }, .empty)
    | _, _ =>
      ({ answer := .returned [.dict .string (.struct [.uint64, .string, .string])
          (t.entries.map Inhibitor.listed)] }, t)

theorem keeps : KeepsInhibitors peer id where
  inhibit t who why := ⟨newId t, 0, get?_newId t, rfl, rfl, rfl⟩
  uninhibit_live t i live := by
    have hreply : peer.reply t (methodOfSession "Uninhibit" [.string i]) =
        ({ answer := .returned [] }, t.erase i) := if_pos live
    exact ⟨[], congrArg (·.1.answer) hreply, congrArg (·.1.thenCloses) hreply,
      congrArg (·.2) hreply⟩
  uninhibit_gone t i gone := by
    have hlive : ¬(t.get? i).isSome := by
      rw [show t.get? i = none from gone]
      decide
    have hreply : peer.reply t (methodOfSession "Uninhibit" [.string i]) =
        ({ answer := .refused unknown }, t) := if_neg hlive
    exact ⟨unknown, congrArg (·.1.answer) hreply, congrArg (·.1.thenCloses) hreply,
      congrArg (·.2) hreply⟩
  stop t := ⟨.ofNat t.size, fun hsize => UInt32.toNat_ofNat_of_lt' hsize, rfl, rfl, rfl⟩
  list t := ⟨t.entries, .refl _, rfl, rfl, rfl⟩

end TableKeeper

/-- An inhibitor is added, one that is not there cannot be removed, and what is listed then is the
    one that was added. -/
theorem ledger_faithful_added :
    let w : World InhibitorTable := { connection := .fresh TableKeeper.peer .empty }
    let before : List (Nat × TableOperation) :=
      [(25000, .inhibit "player" "a film"), (1000, .uninhibit "7")]
    let past := TableOperation.runAll w before
    let ledger := past.1.foldl Ledger.enter w.connection.state.ledger
    KeepsInhibitors TableKeeper.peer id ∧ w.connection.phase ≠ .closed ∧
      ledger.entries = [("i", "player", "a film")] ∧
      past.2.connection.state.ledger = ledger ∧
      (TableOperation.list.perform 500 past.2).1 = .ok (.inhibitors past.2.connection.state) := by
  intro w before past ledger
  have hopen : w.connection.phase ≠ .closed := by decide
  obtain ⟨hledger, hlisted⟩ := ledger_faithful TableKeeper.keeps rfl hopen before 500 .list
  exact ⟨TableKeeper.keeps, hopen, rfl, hledger, hlisted⟩

end SessionControl.Client
