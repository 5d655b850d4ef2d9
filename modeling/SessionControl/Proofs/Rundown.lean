import SessionControl.Proofs.Properties
import SessionControl.Proofs.Unnamed
import SessionControl.Proofs.Watching

set_option autoImplicit false

/-! # The listing of inhibitors

The service tells its inhibitors as a dictionary, in any order and possibly with entries that later
ones make obsolete. On their way to the screen they go through tables without an order of their own
and are then sorted by age alone. `Rundown` says what is shown in the end; it leaves no choice where
no two inhibitors are of the same age, and so there the listing is the same on every way
(`listInhibitors_lists`). -/

namespace SessionControl.Client

variable {σ : Type}

open Bus (Wire WireType)

/-! ## What the service tells -/

/-- An inhibitor on the wire. More fields may follow those that are known. -/
def Inhibitor.wire (i : Inhibitor) (further : List Wire) : Wire :=
  .struct (.uint64 i.createdAt :: .string i.who :: .string i.why :: further)

/-- The entries of a dictionary list these inhibitors, one by one. -/
inductive ListsInhibitors : List (Wire × Wire) → List (String × Inhibitor) → Prop
  | nil : ListsInhibitors [] []
  | cons (id : String) (i : Inhibitor) (further : List Wire) {entries : List (Wire × Wire)}
      {told : List (String × Inhibitor)} (rest : ListsInhibitors entries told) :
      ListsInhibitors ((.string id, i.wire further) :: entries) ((id, i) :: told)

/-- The type of a dictionary of inhibitors with such further fields. -/
def inhibitorsType (further : List WireType) : WireType :=
  .dict .string (.struct (.uint64 :: .string :: .string :: further))

theorem exists_wire_of_type {v : Wire} {further : List WireType}
    (h : v.type = .struct (.uint64 :: .string :: .string :: further)) :
    ∃ (i : Inhibitor) (fields : List Wire), v = i.wire fields := by
  cases v with
  | struct fields =>
      rcases fields with _ | ⟨a, _ | ⟨b, _ | ⟨c, fields⟩⟩⟩
      case cons.cons.cons =>
        simp only [Wire.type, Wire.types, WireType.struct.injEq, List.cons.injEq] at h
        obtain ⟨ha, hb, hc, -⟩ := h
        cases a <;> cases ha
        cases b <;> cases hb
        cases c <;> cases hc
        exact ⟨⟨_, _, _⟩, fields, rfl⟩
      all_goals simp [Wire.type, Wire.types] at h
  | _ => cases h

/-- A dictionary of the type lists inhibitors. -/
theorem exists_listsInhibitors {entries : List (Wire × Wire)} {further : List WireType}
    (hdeclared : ∀ e ∈ entries,
      e.1.type = .string ∧ e.2.type = .struct (.uint64 :: .string :: .string :: further)) :
    ∃ told, ListsInhibitors entries told := by
  induction entries with
  | nil => exact ⟨[], .nil⟩
  | cons e rest ih =>
      obtain ⟨told, htold⟩ := ih fun e he => hdeclared e (List.mem_cons_of_mem _ he)
      obtain ⟨k, v⟩ := e
      obtain ⟨hkey, hvalue⟩ := hdeclared (k, v) List.mem_cons_self
      cases k <;> cases hkey
      obtain ⟨i, fields, rfl⟩ := exists_wire_of_type hvalue
      exact ⟨_, .cons _ i fields htold⟩

/-! ## What is read of it -/

theorem leadingEntries_of_listsInhibitors {entries : List (Wire × Wire)}
    {told : List (String × Inhibitor)} (h : ListsInhibitors entries told) :
    Bus.Argument.leadingEntries Bus.Argument.string.read? Inhibitor.argument.read? entries =
      told := by
  induction h with
  | nil => rfl
  | cons id i further _ ih => exact congrArg ((id, i) :: ·) ih

theorem wire_of_read {v : Wire} {i : Inhibitor} (h : Inhibitor.argument.read? v = some i) :
    ∃ further, v = i.wire further := by
  simp only [Inhibitor.argument] at h
  split at h
  · cases h
    exact ⟨_, rfl⟩
  · cases h

/-- Nothing is read of a dictionary with other types. -/
theorem leadingEntries_of_otherType {key value : WireType} {entries : List (Wire × Wire)}
    (hdeclared : Declared (.dict key value entries))
    (hother : ∀ further, WireType.dict key value ≠ inhibitorsType further) :
    Bus.Argument.leadingEntries Bus.Argument.string.read? Inhibitor.argument.read? entries =
      [] := by
  refine leadingEntries_eq_nil hdeclared fun k v _ _ hk hv => ?_
  rintro ⟨rfl, rfl⟩
  obtain ⟨further, rfl⟩ := wire_of_read hv
  cases k <;> cases hk
  exact hother (Wire.types further) rfl

/-! ## The table -/

/-- The inhibitors of the session, where the table that is read is gone through to make the one that
    is returned. -/
def Session.listInhibitorsBy (i : NameMap.Iteration Inhibitor) (s : Session) :
    Action σ Fault InhibitorTable := do
  let entries ← s.handle.request "ListInhibitors" [] Inhibitor.tableArgument
  return NameMap.ofEntries (i.order (NameMap.ofEntries entries))

/-- It does not show in the table how the one before it was gone through. -/
theorem Session.listInhibitorsBy_eq (i : NameMap.Iteration Inhibitor) (s : Session) :
    (s.listInhibitorsBy i : Action σ Fault InhibitorTable) = s.listInhibitors := by
  unfold listInhibitorsBy listInhibitors
  simp only [NameMap.ofEntries_of_perm (i.perm _)]

end SessionControl.Client

namespace SessionControl.Command

open Client (Action Inhibitor InhibitorTable Journal ListsInhibitors Service Session World
  inhibitorsType)

variable {σ α β : Type}

/-! ## One call and then lines -/

/-- After one call these lines are printed, and all is well. -/
def Prints (x : Except Trouble Exit × World σ) (w : World σ) (call : Bus.Call)
    (lines : List String) : Prop :=
  x.1 = .ok 0 ∧ x.2.journal.deeds =
    w.journal.deeds ++ .called call :: lines.map fun line => .printed (line ++ "\n")

/-- The call is made and nothing else, and this is told. -/
def Fails (x : Except Trouble Exit × World σ) (w : World σ) (call : Bus.Call) (t : Trouble) :
    Prop :=
  x.1 = .error t ∧ x.2.journal.deeds = w.journal.deeds ++ [.called call]

/-- One call is made, and then lines of what was read are printed, or what was wrong is told. -/
structure Tells (x : Except Trouble Exit × World σ) (w : World σ) (call : Bus.Call)
    (read : Except Trouble α) (lines : α → List String) : Prop where
  prints {a : α} : read = .ok a → Prints x w call (lines a)
  fails {t : Trouble} : read = .error t → Fails x w call t

/-- Whatever comes of it, there is one call. -/
theorem Tells.calls {x : Except Trouble Exit × World σ} {w : World σ} {call : Bus.Call}
    {read : Except Trouble α} {lines : α → List String} (h : Tells x w call read lines) :
    x.2.journal.calls = w.journal.calls ++ [call] := by
  rw [← Journal.calls_deeds, ← Journal.calls_deeds w.journal]
  cases hread : read with
  | ok a => simp [(h.prints hread).2]
  | error t => simp [(h.fails hread).2]

/-- What a command does that prints lines of what it has read with one call. -/
theorem tells_of_amountsTo {x : Action σ Trouble α} {call : Bus.Call}
    {read : Except Bus.Failure Bus.Body → Except Trouble α} (hx : x.AmountsTo (.asks call read))
    (line : β → String) (items : α → List β) {w : World σ}
    (hopen : w.connection.phase ≠ .closed) :
    Tells (quietly (x >>= fun a =>
        Action.each (fun b => Action.printLine (line b)) (items a) >>= fun _ => pure ()) w)
      w call (read (w.connection.exchange call).1) fun a => (items a).map line := by
  obtain ⟨hread, -, hdeeds⟩ := exchange_of_amountsTo hx hopen
  simp only [quietly, Action.bind_apply]
  generalize x w = y at hread hdeeds ⊢
  obtain ⟨r, w'⟩ := y
  rw [← show r = _ from hread]
  constructor
  case prints =>
    rintro a rfl
    simp only [each_printLine]
    refine ⟨rfl, ?_⟩
    show Journal.deeds (w'.journal ++ _) = _
    rw [Journal.deeds_append, Journal.deeds_printed, show w'.journal.deeds = _ from hdeeds]
    simp
  case fails =>
    rintro t rfl
    exact ⟨rfl, hdeeds⟩

/-! ## What is shown -/

/-- The lines of a listing tell what has been told: each identifier once, with its last entry, and
    the oldest first. -/
structure Rundown (told es : List (String × Inhibitor)) : Prop where
  once : (es.map (·.1)).Nodup
  latest (id : String) (i : Inhibitor) : (id, i) ∈ es ↔ NameMap.lastOf told id = some i
  oldest_first : es.Pairwise fun a b => a.2.createdAt ≤ b.2.createdAt

/-- No two inhibitors are of the same age. -/
def AllApart (told : List (String × Inhibitor)) : Prop :=
  ∀ id id' i i', NameMap.lastOf told id = some i → NameMap.lastOf told id' = some i' →
    i.createdAt = i'.createdAt → id = id'

theorem byAge_perm (es : List (String × Inhibitor)) : (byAge es).Perm es :=
  List.mergeSort_perm es _

theorem byAge_sorted (es : List (String × Inhibitor)) :
    (byAge es).Pairwise fun a b => a.2.createdAt ≤ b.2.createdAt := by
  refine (List.pairwise_mergeSort ?_ ?_ es).imp fun h => of_decide_eq_true h
  · intro a b c hab hbc
    exact decide_eq_true (UInt64.le_trans (of_decide_eq_true hab) (of_decide_eq_true hbc))
  · intro a b
    simpa using UInt64.le_total a.2.createdAt b.2.createdAt

/-- In whatever order the table is gone through, sorting it gives a rundown. -/
theorem rundown_byAge (i : NameMap.Iteration Inhibitor) (told : List (String × Inhibitor)) :
    Rundown told (byAge (i.order (.ofEntries told))) := by
  have hperm := (byAge_perm (i.order (.ofEntries told))).trans (i.perm (.ofEntries told))
  refine ⟨?_, fun id x => ?_, byAge_sorted _⟩
  · exact ((hperm.map _).nodup_iff).mpr (NameMap.nodup_keys _)
  · rw [hperm.mem_iff, NameMap.mem_ofEntries_iff]

theorem Rundown.nodup {told es : List (String × Inhibitor)} (h : Rundown told es) : es.Nodup :=
  List.Pairwise.of_map (·.1) (fun _ _ hne heq => hne (congrArg _ heq)) h.once

/-- Where all ages differ there is only one rundown. -/
theorem Rundown.eq {told told' es es' : List (String × Inhibitor)} (h : Rundown told es)
    (h' : Rundown told' es') (hsame : ∀ id, NameMap.lastOf told id = NameMap.lastOf told' id)
    (hapart : AllApart told) : es = es' := by
  have hmem : ∀ e, e ∈ es ↔ e ∈ es' := by
    rintro ⟨id, i⟩
    rw [h.latest, h'.latest, hsame]
  have hperm : es.Perm es' :=
    (List.perm_ext_iff_of_nodup h.nodup h'.nodup).mpr hmem
  -- both are sorted, so they differ only where two entries may stand either way round
  refine hperm.eq_of_pairwise ?_ h.oldest_first h'.oldest_first
  rintro ⟨id, i⟩ ⟨id', i'⟩ he he' hle hge
  have hi := (h.latest id i).mp he
  have hi' := (h.latest id' i').mp ((hmem _).mpr he')
  cases hapart id id' i i' hi hi' (UInt64.le_antisymm hle hge)
  cases hi.symm.trans hi'
  rfl

/-! ## Listing -/

/-- Lists the inhibitors, where the tables on the way are gone through in these orders. -/
def listInhibitorsBy (i j : NameMap.Iteration Inhibitor) (service : Service) :
    Action σ Trouble Unit := do
  let session ← service.session
  let table ← within "Could not list inhibitors" (session.listInhibitorsBy i)
  let _ ← Action.each Action.printLine (listingLines (j.order table))

/-- The call that asks for the inhibitors. -/
def listCall : Bus.Call := sessionCall "ListInhibitors" []

/-- A line is printed for each entry. -/
def Lists (x : Except Trouble Exit × World σ) (w : World σ) (es : List (String × Inhibitor)) :
    Prop :=
  Prints x w listCall (es.map fun e => Inhibitor.line e.1 e.2)

/-- Whoever is told these inhibitors lists these lines, in whatever orders the tables on the way are
    gone through. -/
def AlwaysLists (told es : List (String × Inhibitor)) : Prop :=
  ∀ {τ : Type} (service : Service) (i j : NameMap.Iteration Inhibitor) (w : World τ)
    (key value : Bus.WireType) (entries : List (Bus.Wire × Bus.Wire)) (rest : Bus.Body),
    w.connection.phase ≠ .closed →
      (w.connection.exchange listCall).1 = .ok (.dict key value entries :: rest) →
        ListsInhibitors entries told → Lists (quietly (listInhibitorsBy i j service) w) w es

/-- Reads the table of inhibitors from an answer. -/
def readTable (r : Except Bus.Failure Bus.Body) : Except Trouble InhibitorTable :=
  ((Client.Handle.firstOf Inhibitor.tableArgument r).map NameMap.ofEntries).mapError
    fun f => { contexts := ["Could not list inhibitors"], cause := .fault f }

theorem within_listInhibitorsBy (i : NameMap.Iteration Inhibitor) (service : Service) :
    (service.session >>= fun session => within "Could not list inhibitors"
      (session.listInhibitorsBy i) : Action σ Trouble InhibitorTable).AmountsTo
        (.asks listCall readTable) := by
  have hread := service.session_amountsTo.after fun session =>
    ((session.listInhibitors_amountsTo (σ := σ)).mapError
      fun f => ({ contexts := ["Could not list inhibitors"], cause := .fault f } : Trouble))
  rw [Client.Handle.requestInquiry, methodCall_session, ← listCall] at hread
  simp only [Session.listInhibitorsBy_eq]
  exact hread

/-- The listing, by what is read of the answer. -/
theorem listInhibitorsBy_tells (service : Service) (i j : NameMap.Iteration Inhibitor)
    {w : World σ} (hopen : w.connection.phase ≠ .closed) :
    Tells (quietly (listInhibitorsBy i j service) w) w listCall
      (readTable (w.connection.exchange listCall).1) fun table => listingLines (j.order table) := by
  have htells := tells_of_amountsTo (within_listInhibitorsBy (σ := σ) i service)
    (fun line : String => line) (fun table => listingLines (j.order table)) hopen
  rw [Action.bind_assoc] at htells
  simp only [List.map_id'] at htells
  exact htells

/-! ### Whatever the answer is -/

theorem readTable_dict {key value : Bus.WireType} {entries : List (Bus.Wire × Bus.Wire)}
    {told : List (String × Inhibitor)} (h : ListsInhibitors entries told) (rest : Bus.Body) :
    readTable (.ok (.dict key value entries :: rest)) = .ok (.ofEntries told) := by
  rw [readTable, Inhibitor.tableArgument, Client.firstOf_dict,
    Client.leadingEntries_of_listsInhibitors h]
  rfl

theorem readTable_otherArray {first : Bus.Wire} (hdeclared : Client.Declared first)
    (hkind : first.kind = .array) (hother : ∀ further, first.type ≠ inhibitorsType further)
    (rest : Bus.Body) : readTable (.ok (first :: rest)) = .ok .empty := by
  cases first with
  | array element items => rfl
  | dict key value entries =>
      rw [readTable, Inhibitor.tableArgument, Client.firstOf_dict,
        Client.leadingEntries_of_otherType hdeclared hother]
      rfl
  | _ => cases hkind

theorem readTable_noArray {body : Bus.Body}
    (h : ∀ first rest, body = first :: rest → first.kind ≠ .array) :
    ∃ found, readTable (.ok body) =
      .error (callTrouble "Could not list inhibitors" (.mismatch 0 .array found)) := by
  obtain ⟨found, hfound⟩ :=
    Client.firstOf_dict_of_noArray .string Inhibitor.argument h
  refine ⟨found, ?_⟩
  rw [readTable, Inhibitor.tableArgument, hfound]
  rfl

/-- Only where two inhibitors are of one age can the orders be seen on the screen. -/
theorem alwaysLists_of_rundown {told told' es : List (String × Inhibitor)} (h : Rundown told es)
    (hapart : AllApart told) (hshuffled : Shuffled told told') : AlwaysLists told' es := by
  intro τ service i j w key value entries rest hopen hanswer hlists
  have hprints := (listInhibitorsBy_tells service i j hopen).prints (by
    rw [hanswer, readTable_dict hlists])
  have hsame : ∀ id, NameMap.lastOf told id = NameMap.lastOf told' id := by
    intro id
    rw [NameMap.lastOf, NameMap.lastOf, hshuffled.filter_eq id]
  rw [h.eq (rundown_byAge j told') hsame hapart]
  exact hprints

/-- Listing the inhibitors shows each of them once, as it was told last, and the oldest first. Where
    no two are of the same age, the lines do not depend on the order in which they were told or in
    which a table was gone through. An array of anything else lists nothing, and any other answer
    cannot be listed. -/
theorem listInhibitors_lists (env : Environment) (settings : Settings) (service : Service)
    (i j : NameMap.Iteration Inhibitor) {w : World σ} (hopen : w.connection.phase ≠ .closed) :
    let x := quietly (listInhibitorsBy i j service) w
    let answer := (w.connection.exchange listCall).1
    (perform env settings service .listInhibitors w =
      quietly (listInhibitorsBy .byName .byName service) w) ∧
    (∀ first rest further, answer = .ok (first :: rest) → Client.Declared first →
      first.type = inhibitorsType further → ∃ key value entries told es,
        first = .dict key value entries ∧ ListsInhibitors entries told ∧ Rundown told es ∧
          Lists x w es ∧
          (AllApart told → ∀ told', Shuffled told told' → AlwaysLists told' es)) ∧
    (∀ first rest, answer = .ok (first :: rest) → Client.Declared first → first.kind = .array →
      (∀ further, first.type ≠ inhibitorsType further) → Lists x w []) ∧
    (∀ body, answer = .ok body → (∀ first rest, body = first :: rest → first.kind ≠ .array) →
      ∃ found, Fails x w listCall
        (callTrouble "Could not list inhibitors" (.mismatch 0 .array found))) ∧
    (∀ failure, answer = .error failure →
      Fails x w listCall (callTrouble "Could not list inhibitors" failure)) := by
  intro x answer
  have htells := listInhibitorsBy_tells service i j hopen
  have hread : ∀ {r}, answer = r → readTable (w.connection.exchange listCall).1 = readTable r :=
    congrArg readTable
  refine ⟨?_, ?_, ?_, ?_, ?_⟩
  · simp only [perform, listInhibitorsBy, Session.listInhibitorsBy_eq]
    rfl
  · intro first rest further hanswer hdeclared htype
    cases first <;> cases htype
    next entries =>
    obtain ⟨told, htold⟩ := Client.exists_listsInhibitors hdeclared
    have hrundown := rundown_byAge j told
    exact ⟨_, _, entries, told, _, rfl, htold, hrundown,
      htells.prints ((hread hanswer).trans (readTable_dict htold rest)),
      fun hapart told' => alwaysLists_of_rundown hrundown hapart⟩
  · intro first rest hanswer hdeclared hkind hother
    have hprints := htells.prints
      ((hread hanswer).trans (readTable_otherArray hdeclared hkind hother rest))
    have hnone : listingLines (j.order .empty) = [] := by
      rw [List.perm_nil.mp (j.perm .empty), listingLines, byAge, List.mergeSort_nil, List.map_nil]
    rwa [hnone] at hprints
  · intro body hanswer hkind
    obtain ⟨found, herror⟩ := readTable_noArray hkind
    exact ⟨found, htells.fails ((hread hanswer).trans herror)⟩
  · intro failure hanswer
    exact htells.fails (hread hanswer)

/-- An entry that a later one makes obsolete does not show, neither by its texts nor by its age. -/
theorem listInhibitors_lists_repeated :
    let film : Inhibitor := ⟨20, "player", "a film"⟩
    let backup : Inhibitor := ⟨10, "cron", "backup"⟩
    let song : Inhibitor := ⟨5, "player", "a \"song\""⟩
    let first : Bus.Wire := .dict .string (.struct [.uint64, .string, .string, .boolean])
      [(.string "7", film.wire [.boolean true]), (.string "8", backup.wire [.boolean true]),
       (.string "7", song.wire [.boolean false])]
    let w : World (List Bus.Reply) :=
      { connection := .fresh (.scripted .noReply) [{ answer := .returned [first] }] }
    w.connection.phase ≠ .closed ∧ ∀ i j,
      (quietly (listInhibitorsBy i j {}) w).1 = .ok 0 ∧
      (quietly (listInhibitorsBy i j {}) w).2.journal.deeds = [.called listCall,
        .printed "7 5 who=\"player\" why=\"a \\\"song\\\"\"\n",
        .printed "8 10 who=\"cron\" why=\"backup\"\n"] := by
  intro film backup song first w
  have hopen : w.connection.phase ≠ .closed := by decide
  refine ⟨hopen, fun i j => ?_⟩
  obtain ⟨-, htells, -⟩ := listInhibitors_lists .bare {} {} i j hopen
  have hdeclared : Client.Declared first := by
    simp [Client.Declared, first, Inhibitor.wire, Bus.Wire.type, Bus.Wire.types]
  obtain ⟨key, value, entries, told, es, hfirst, htold, hrundown, ⟨hresult, hdeeds⟩, -⟩ :=
    htells first [] [.boolean] rfl hdeclared rfl
  injection hfirst with _ _ hentries
  subst hentries
  have htold : told = [("7", film), ("8", backup), ("7", song)] := by
    rw [← Client.leadingEntries_of_listsInhibitors htold]
    rfl
  have hlast : ∀ id, NameMap.lastOf told id =
      if "7" = id then some song else if "8" = id then some backup else none := by
    intro id
    simp only [htold, NameMap.lastOf_cons]
    split
    · rfl
    · split <;> rfl
  have hshown : Rundown told [("7", song), ("8", backup)] := by
    refine ⟨by decide, fun id x => ?_, by decide⟩
    rw [hlast]
    grind
  have hapart : AllApart told := by
    intro id id' x x' hx hx' hsame
    rw [hlast] at hx hx'
    grind
  cases hrundown.eq hshown (fun _ => rfl) hapart
  have holder : Inhibitor.line "7" song ++ "\n" =
      "7 5 who=\"player\" why=\"a \\\"song\\\"\"\n" := by decide +kernel
  have hyounger : Inhibitor.line "8" backup ++ "\n" =
      "8 10 who=\"cron\" why=\"backup\"\n" := by decide +kernel
  rw [← holder, ← hyounger]
  exact ⟨hresult, hdeeds⟩

end SessionControl.Command
