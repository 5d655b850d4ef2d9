import SessionControl.Proofs.Commands
import SessionControl.Proofs.Inhibition
import SessionControl.Proofs.Registration
import SessionControl.Proofs.Settings

set_option autoImplicit false

/-! # What commands change

Some calls change something, and others only read. A command line asks for a certain sequence of
changes (`asked`) of a certain object (`target`). `Meets` says of a script that it makes a beginning
of these changes and no others, and all of them, each with an answer that can be read, if it ends
well. It is proved operation by operation: an operation either only reads or makes the next change.
-/

namespace SessionControl.Command

open Client (Action AudioSink AudioSinkOperation AudioSinkTarget Backlight BacklightOperation
  BacklightTarget Fault Handle Inquiry Journal Notice Operation Outcome Service SessionOperation
  World)
open CommandLine (AudioChange Request)

variable {σ : Type}

/-! ## Changes -/

/-- The methods that change something. -/
def mutators : List String :=
  ["Lock", "Unlock", "Inhibit", "Uninhibit", "StopInhibitors", "SetBrightness", "IncBrightness",
   "SetVolume", "IncVolume", "SetMute", "ToggleMute"]

def isMutating (call : Bus.Call) : Bool := mutators.contains call.member

/-- Those of several calls that change something, in their order. -/
def mutating (calls : List Bus.Call) : List Bus.Call := calls.filter isMutating

/-- The kind of result that a change gives, if it gives one. -/
def resultKind? (member : String) : Option Bus.Kind :=
  if member = "Inhibit" then some .string
  else if member = "StopInhibitors" ∨ member = "IncBrightness" then some .uint32
  else if member = "IncVolume" then some .double
  else if member = "ToggleMute" then some .boolean
  else none

/-- An answer that can be read: a success that starts with a result of the kind that is due. -/
def Readable (call : Bus.Call) (answer : Except Bus.Failure Bus.Body) : Prop :=
  ∃ body, answer = .ok body ∧
    ∀ kind, resultKind? call.member = some kind → body.head?.map Bus.Wire.kind = some kind

/-- Where the calls are made one after another, each change gets an answer that can be read. -/
def Granted : Bus.Connection σ → List Bus.Call → Prop
  | _, [] => True
  | c, call :: rest =>
    (isMutating call → Readable call (c.exchange call).1) ∧ Granted (c.exchange call).2 rest

/-! ## What a command line asks for -/

/-- A call of a method of a device. -/
def deviceCall (path interface member : String) (args : Bus.Body) : Bus.Call :=
  { destination := "org.sessiond.session1", path, interface, member, args }

/-- The change of the brightness of the backlight at a path. -/
def askedBrightness (path : String) : Option UInt32 → Option Int32 → List Bus.Call
  | some v, _ =>
    [deviceCall path "org.sessiond.session1.Backlight" "SetBrightness" [.uint32 v]]
  | none, some v =>
    [deviceCall path "org.sessiond.session1.Backlight" "IncBrightness" [.int32 v]]
  | none, none => []

/-- The change of the volume of the audio sink at a path. -/
def askedVolume (path : String) : Option Binary64 → Option Binary64 → List Bus.Call
  | some v, _ => [deviceCall path "org.sessiond.session1.AudioSink" "SetVolume" [.double v]]
  | none, some v => [deviceCall path "org.sessiond.session1.AudioSink" "IncVolume" [.double v]]
  | none, none => []

/-- The change of the mute state of the audio sink at a path. -/
def askedMute (path : String) : Option Bool → Bool → List Bus.Call
  | some m, _ => [deviceCall path "org.sessiond.session1.AudioSink" "SetMute" [.boolean m]]
  | none, true => [deviceCall path "org.sessiond.session1.AudioSink" "ToggleMute" []]
  | none, false => []

/-- The changes that a command asks for, of the device at a path if it is one that it changes. -/
def asked (settings : Settings) (path : String) : CommandLine.Command → List Bus.Call
  | .lock => [sessionCall "Lock" []]
  | .unlock => [sessionCall "Unlock" []]
  | .inhibit who why words =>
    [addCall (who.getD settings.who) (why.getD (" ".intercalate words))]
  | .uninhibit id => [removeCall id]
  | .stopInhibitors => [sessionCall "StopInhibitors" []]
  | .backlight _ set inc => askedBrightness path set inc
  | .audioSink _ change =>
    askedVolume path change.set change.inc ++ askedMute path change.mute change.toggleMute
  | .status | .properties _ _ | .listInhibitors | .monitor | .version => []

/-- The path of the object that a command is about: what the command line names, or else what the
    settings name, or else the first backlight or the default audio sink that the service tells. -/
def target (s : Service) (w : World σ) (settings : Settings) :
    CommandLine.Command → Option String
  | .backlight name _ _ =>
    match name <|> settings.backlight with
    | some name => some ("/org/sessiond/session1/backlight/" ++ name)
    | none =>
      match (s.backlights w).1 with
      | .ok (b :: _) => some b.handle.path.text
      | _ => none
  | .audioSink id _ =>
    match id <|> settings.audioSink with
    | some id => some ("/org/sessiond/session1/audiosink/" ++ id)
    | none =>
      match (s.defaultAudioSink w).1 with
      | .ok (some a) => some a.handle.path.text
      | _ => none
  | _ => some "/org/sessiond/session1"

/-! ## Inquiries that change, and those that do not -/

/-- The inquiry changes nothing. -/
def Reads (q : Inquiry Fault Outcome) : Prop :=
  ∀ call, q.call? = some call → isMutating call = false

/-- The inquiry makes the change, and goes well only with an answer that can be read. Or it fails
    without a call. -/
inductive Changes {α : Type} (call : Bus.Call) : Inquiry Fault α → Prop
  | unmade (fault : Fault) : Changes call (.settled (.error fault))
  | asks (read : Except Bus.Failure Bus.Body → Except Fault α)
      (hmutating : isMutating call = true) (hread : ∀ r a, read r = .ok a → Readable call r) :
      Changes call (.asks call read)

/-- The calls that an inquiry makes. -/
def made (q : Inquiry Fault Outcome) (c : Bus.Connection σ) : List Bus.Call :=
  match q.call? with
  | none => []
  | some call => if c.phase = .closed then [] else [call]

theorem perform_calls (s : Service) (op : Operation) (w : World σ) :
    (op.perform s w).2.journal.calls =
      w.journal.calls ++ made (op.inquiry s) w.connection := by
  rw [(op.perform_amountsTo s w w (.refl w)).2.calls]
  cases op.inquiry s with
  | settled result =>
      refine Eq.trans ?_ (List.append_nil _).symm
      cases result <;> rfl
  | asks call read callback =>
      have henlist : ∀ (r : Except Fault Outcome) (v : World σ),
          (Inquiry.enlist callback r v).journal = v.journal := by
        intro r v
        unfold Inquiry.enlist
        split <;> rfl
      simp only [Inquiry.run, henlist, made, Inquiry.call?]
      split
      · next hclosed => rw [Action.call_of_closed call hclosed, List.append_nil]
      · next hopen =>
          rw [Action.call_of_open call hopen]
          exact Journal.calls_append _ _

/-! ### Answers -/

theorem granted_subscribe (c : Bus.Connection σ) (sub : Bus.Subscription)
    (calls : List Bus.Call) : Granted (c.subscribe sub) calls ↔ Granted c calls := by
  induction calls generalizing c with
  | nil => exact Iff.rfl
  | cons call rest ih =>
      show (_ ∧ Granted ((c.exchange call).2.subscribe sub) rest) ↔ _
      rw [ih]
      exact Iff.rfl

theorem granted_enlist {callback : Option Bus.Subscription} {result : Except Fault Outcome}
    {w : World σ} {calls : List Bus.Call}
    (h : Granted (Inquiry.enlist callback result w).connection calls) :
    Granted w.connection calls := by
  unfold Inquiry.enlist at h
  split at h
  · next sub _ => exact (granted_subscribe w.connection _ calls).mp h
  · exact h

/-- What is granted behind an operation, and by the operation itself, is granted altogether. -/
theorem granted_perform (s : Service) (op : Operation) (w : World σ) (rest : List Bus.Call)
    (hop : ∀ call ∈ made (op.inquiry s) w.connection, isMutating call →
      Readable call (w.connection.exchange call).1)
    (h : Granted (op.perform s w).2.connection rest) :
    Granted w.connection (made (op.inquiry s) w.connection ++ rest) := by
  rw [(op.perform_run s w).2] at h
  generalize op.inquiry s = q at hop h ⊢
  cases q with
  | settled result => cases result <;> exact h
  | asks call read callback =>
      simp only [made, Inquiry.call?] at hop ⊢
      split at hop
      · next hclosed =>
          rw [if_pos hclosed]
          simp only [Inquiry.run, Action.call_of_closed call hclosed] at h
          exact granted_enlist h
      · next hopen =>
          rw [if_neg hopen]
          refine ⟨hop call List.mem_cons_self, ?_⟩
          simp only [Inquiry.run, Action.call_of_open call hopen] at h
          exact granted_enlist h

/-! ## Scripts and changes -/

/-- From a world on, the script makes a beginning of these changes and no others. Where it ends
    well, the changes are there and all have been made, each with an answer that can be read. -/
def Meets (s : Service) (a : Script) (w : World σ) (changes : Option (List Bus.Call)) : Prop :=
  ∃ calls, (a.follow s w).2.journal.calls = w.journal.calls ++ calls ∧
    mutating calls <+: changes.getD [] ∧
    ((a.follow s w).1.isOk → changes = some (mutating calls) ∧ Granted w.connection calls)

theorem meets_stop (s : Service) (w : World σ) : Meets s .stop w (some []) :=
  ⟨[], (List.append_nil _).symm, List.nil_prefix, fun _ => ⟨rfl, trivial⟩⟩

theorem meets_giveUp (s : Service) (w : World σ) (changes : Option (List Bus.Call)) :
    Meets s .giveUp w changes :=
  ⟨[], (List.append_nil _).symm, List.nil_prefix, fun h => by cases h⟩

theorem mutating_append (a b : List Bus.Call) : mutating (a ++ b) = mutating a ++ mutating b :=
  List.filter_append ..

theorem not_mutating_of_reads {q : Inquiry Fault Outcome} (hq : Reads q) {c : Bus.Connection σ}
    {call : Bus.Call} (hcall : call ∈ made q c) : ¬isMutating call := by
  rw [Bool.not_eq_true]
  unfold made at hcall
  split at hcall
  · cases hcall
  · next call' hcall' =>
      split at hcall
      · cases hcall
      · rw [List.mem_singleton.mp hcall]
        exact hq call' hcall'

theorem mutating_of_reads {q : Inquiry Fault Outcome} (hq : Reads q) (c : Bus.Connection σ) :
    mutating (made q c) = [] :=
  List.filter_eq_nil_iff.mpr fun _ hcall => not_mutating_of_reads hq hcall

/-- An operation that only reads. -/
theorem meets_reads {s : Service} {op : Operation} {next : Outcome → Script} {w : World σ}
    {changes : Option (List Bus.Call)} (hop : Reads (op.inquiry s))
    (hnext : ∀ outcome w', op.perform s w = (.ok outcome, w') →
      Meets s (next outcome) w' changes) :
    Meets s (.perform op next) w changes := by
  have hcalls := perform_calls s op w
  have hgranted := fun rest => granted_perform s op w rest fun call hcall hmutating =>
    absurd hmutating (not_mutating_of_reads hop hcall)
  unfold Meets
  rw [Script.follow_perform]
  -- from here on only what is known of the operation's result and world counts
  generalize op.perform s w = y at hcalls hgranted hnext ⊢
  obtain ⟨r, w'⟩ := y
  cases r with
  | error fault =>
      refine ⟨made (op.inquiry s) w.connection, hcalls, ?_, fun h => by cases h⟩
      rw [mutating_of_reads hop]
      exact List.nil_prefix
  | ok outcome =>
      obtain ⟨calls, hfollow, hprefix, hok⟩ := hnext outcome w' rfl
      have hmutating : mutating (made (op.inquiry s) w.connection ++ calls) = mutating calls := by
        rw [mutating_append, mutating_of_reads hop, List.nil_append]
      refine ⟨made (op.inquiry s) w.connection ++ calls, ?_, ?_, fun h => ?_⟩
      · rw [← List.append_assoc, ← hcalls]
        exact hfollow
      · rw [hmutating]
        exact hprefix
      · rw [hmutating]
        exact ⟨(hok h).1, hgranted calls (hok h).2⟩

theorem mutating_of_changes {call : Bus.Call} {q : Inquiry Fault Outcome} (hq : Changes call q)
    (c : Bus.Connection σ) : mutating (made q c) <+: [call] := by
  cases hq with
  | unmade fault => exact List.nil_prefix
  | asks read hmutating hread =>
      simp only [made, Inquiry.call?]
      split
      · exact List.nil_prefix
      · rw [mutating, List.filter_cons_of_pos hmutating]
        exact List.prefix_rfl

/-- A change that went well has been made, and got an answer that can be read. -/
theorem readable_of_changes {call : Bus.Call} {q : Inquiry Fault Outcome} (hq : Changes call q)
    {w : World σ} {outcome : Outcome} (hok : (q.run w).1 = .ok outcome) :
    made q w.connection = [call] ∧ isMutating call = true ∧
      Readable call (w.connection.exchange call).1 := by
  cases hq with
  | unmade fault => cases hok
  | asks read hmutating hread =>
      have hreadable := hread _ outcome hok
      by_cases hclosed : w.connection.phase = .closed
      · rw [Action.call_of_closed call hclosed] at hreadable
        obtain ⟨body, hbody, -⟩ := hreadable
        cases hbody
      · rw [Action.call_of_open call hclosed] at hreadable
        exact ⟨if_neg hclosed, hmutating, hreadable⟩

/-- An operation that makes the first of several changes. -/
theorem meets_changes {s : Service} {op : Operation} {next : Outcome → Script} {w : World σ}
    {call : Bus.Call} {changes : List Bus.Call} (hop : Changes call (op.inquiry s))
    (hnext : ∀ outcome w', op.perform s w = (.ok outcome, w') →
      Meets s (next outcome) w' (some changes)) :
    Meets s (.perform op next) w (some (call :: changes)) := by
  have hcalls := perform_calls s op w
  have hresult := (op.perform_run s w).1
  have hgranted := granted_perform s op w
  unfold Meets
  rw [Script.follow_perform]
  generalize op.perform s w = y at hcalls hresult hgranted hnext ⊢
  obtain ⟨r, w'⟩ := y
  cases r with
  | error fault =>
      refine ⟨made (op.inquiry s) w.connection, hcalls, ?_, fun h => by cases h⟩
      exact (mutating_of_changes hop w.connection).trans (List.prefix_append [call] changes)
  | ok outcome =>
      obtain ⟨calls, hfollow, hprefix, hok⟩ := hnext outcome w' rfl
      obtain ⟨hmade, hmutating, hreadable⟩ := readable_of_changes hop hresult.symm
      rw [hmade] at hcalls hgranted
      have hfirst : mutating ([call] ++ calls) = call :: mutating calls :=
        List.filter_cons_of_pos hmutating
      refine ⟨[call] ++ calls, ?_, ?_, fun h => ⟨?_, hgranted calls ?_ (hok h).2⟩⟩
      · rw [← List.append_assoc, ← hcalls]
        exact hfollow
      · rw [hfirst]
        exact (List.prefix_cons_inj call).mpr hprefix
      · rw [hfirst, ← Option.some.inj (hok h).1]
      · intro call' hcall' _
        rw [List.mem_singleton.mp hcall']
        exact hreadable

/-! ## Scripts that only read -/

/-- No operation of the script changes anything, whatever the outcomes are. -/
inductive ReadsOnly (s : Service) : Script → Prop
  | stop : ReadsOnly s .stop
  | giveUp : ReadsOnly s .giveUp
  | perform {op : Operation} {next : Outcome → Script} (hop : Reads (op.inquiry s))
      (hnext : ∀ outcome, ReadsOnly s (next outcome)) : ReadsOnly s (.perform op next)

namespace ReadsOnly

variable {s : Service} {a b : Script}

theorem ops {operations : List Operation} (h : ∀ op ∈ operations, Reads (op.inquiry s)) :
    ReadsOnly s (.ops operations) := by
  induction operations with
  | nil => exact stop
  | cons op rest ih =>
      refine perform (h op List.mem_cons_self) fun _ => ?_
      exact ih fun op' hop' => h op' (List.mem_cons_of_mem op hop')

theorem andThen (ha : ReadsOnly s a) (hb : ReadsOnly s b) : ReadsOnly s (a.andThen b) := by
  induction ha with
  | stop => exact hb
  | giveUp => exact giveUp
  | perform hop _ ih => exact perform hop ih

theorem each {α : Type} {f : α → Script} (h : ∀ r, ReadsOnly s (f r)) (rs : List α) :
    ReadsOnly s (.each f rs) := by
  induction rs with
  | nil => exact stop
  | cons r rs ih => exact (h r).andThen ih

theorem meets (h : ReadsOnly s a) (w : World σ) : Meets s a w (some []) := by
  induction h generalizing w with
  | stop => exact meets_stop s w
  | giveUp => exact meets_giveUp s w (some [])
  | perform hop _ ih => exact meets_reads hop fun outcome w' _ => ih outcome w'

end ReadsOnly

/-! ### Operations that only read -/

theorem reads_settled (r : Except Fault Outcome) : Reads (.settled r) := fun _ h => by cases h

theorem reads_asks {call : Bus.Call} (h : isMutating call = false)
    (read : Except Bus.Failure Bus.Body → Except Fault Outcome)
    (callback : Option Bus.Subscription) : Reads (.asks call read callback) := fun _ hcall => by
  cases hcall
  exact h

theorem reads_given {α : Type} {r : Except Fault α} {q : α → Inquiry Fault Outcome}
    (h : ∀ a, Reads (q a)) : Reads (.given r q) := by
  cases r with
  | ok a => exact h a
  | error fault => exact reads_settled (.error fault)

theorem not_mutating_get (h : Handle) (args : Bus.Body) :
    isMutating (h.propertyCall "Get" args) = false := by
  show mutators.contains "Get" = false
  decide

theorem not_mutating_getAll (h : Handle) (args : Bus.Body) :
    isMutating (h.propertyCall "GetAll" args) = false := by
  show mutators.contains "GetAll" = false
  decide

theorem reads_object (h : Handle) (view : Client.HandleView) (op : Client.ObjectOperation) :
    Reads (op.inquiry h view) := by
  cases op with
  | describe => exact reads_settled _
  | getProperty name => exact reads_asks (not_mutating_get _ _) _ _
  | getProperties => exact reads_asks (not_mutating_getAll _ _) _ _

/-- The operations of the session that change something. -/
def changesSession : SessionOperation → Bool
  | .inhibit _ _ | .uninhibit _ | .stopInhibitors | .lock | .unlock => true
  | _ => false

theorem reads_session {s : Service} {op : SessionOperation} (h : changesSession op = false) :
    Reads ((Operation.onSession op).inquiry s) := by
  cases op with
  | object op => exact reads_object _ _ op
  | listInhibitors =>
      exact reads_asks (by show mutators.contains "ListInhibitors" = false; decide) _ _
  | watch n tag => exact reads_asks (by show mutators.contains "AddMatch" = false; decide) _ _
  | inhibit _ _ | uninhibit _ | stopInhibitors | lock | unlock => cases h
  | _ => exact reads_asks (not_mutating_get _ _) _ _

theorem sessionOps_readsOnly (s : Service) {operations : List SessionOperation}
    (h : ∀ op ∈ operations, changesSession op = false) :
    ReadsOnly s (sessionOps operations) := by
  refine .ops fun op hop => ?_
  obtain ⟨op', hop', rfl⟩ := List.mem_map.mp hop
  exact reads_session (h op' hop')

theorem reads_service (s : Service) (op : Client.ServiceOperation) :
    Reads ((Operation.onService op).inquiry s) := by
  cases op with
  | session | backlight name | audioSink id => exact reads_settled _
  | backlights | audioSinks | defaultAudioSink => exact reads_asks (not_mutating_get _ _) _ _

/-! ### Commands that only read -/

theorem showBacklight_readsOnly (s : Service) (path : String) :
    ReadsOnly s (showBacklightScript path) := by
  refine .perform ?_ fun _ => .perform ?_ fun _ => .stop
  · exact reads_given fun b => reads_asks (not_mutating_get _ _) _ _
  · exact reads_given fun b => reads_asks (not_mutating_get _ _) _ _

theorem showSink_readsOnly (s : Service) (path : String) :
    ReadsOnly s (showSinkScript path) := by
  refine .perform ?_ fun _ => .perform ?_ fun _ => .perform ?_ fun _ => .perform ?_ fun _ => .stop
  all_goals exact reads_given fun a => reads_asks (not_mutating_get _ _) _ _

theorem showSinks_readsOnly (s : Service) (paths : List String) :
    ReadsOnly s (showSinksScript paths) := by
  cases paths with
  | nil => exact .stop
  | cons path paths =>
      exact .perform (reads_session rfl) fun _ => .each (showSink_readsOnly s) (path :: paths)

theorem status_readsOnly (s : Service) : ReadsOnly s statusScript := by
  refine .andThen (sessionOps_readsOnly s (by decide)) ?_
  refine .perform (reads_service s _) fun backlights => ?_
  refine .andThen (.each (showBacklight_readsOnly s) _) ?_
  exact .perform (reads_service s _) fun sinks => showSinks_readsOnly s _

theorem properties_readsOnly (s : Service) (backlight audioSink : Option String) :
    ReadsOnly s (propertiesScript backlight audioSink) := by
  unfold propertiesScript
  split
  · exact .perform (reads_service s _) fun _ =>
      .perform (reads_given fun b => reads_object b.handle b.view .getProperties) fun _ => .stop
  · exact .perform (reads_service s _) fun _ =>
      .perform (reads_given fun a => reads_object a.handle a.view .getProperties) fun _ => .stop
  · exact sessionOps_readsOnly s (by decide)

theorem monitor_readsOnly (s : Service) :
    ReadsOnly s (.each (fun n => sessionOps [.watch n n.member]) Notice.ofSession) :=
  .each (fun _ => .perform (reads_session rfl) fun _ => .stop) _

/-! ## Operations that change -/

theorem changes_map {α β : Type} {call : Bus.Call} {q : Inquiry Fault α} (h : Changes call q)
    (f : α → β) : Changes call (q.map f) := by
  cases h with
  | unmade fault => exact .unmade fault
  | asks read hmutating hread =>
      refine .asks _ hmutating fun r b hb => ?_
      cases hr : read r with
      | error fault =>
          rw [hr] at hb
          cases hb
      | ok a => exact hread r a hr

theorem changes_given {α : Type} {r : Except Fault α} {q : α → Inquiry Fault Outcome}
    {call : Bus.Call} (h : ∀ a, r = .ok a → Changes call (q a)) : Changes call (.given r q) := by
  cases r with
  | ok a => exact h a rfl
  | error fault => exact .unmade fault

theorem changes_command {h : Handle} {member : String} {args : Bus.Body} {call : Bus.Call}
    (hcall : h.methodCall member args = call) (hmutating : mutators.contains member = true)
    (hkind : resultKind? member = none) : Changes call (h.commandInquiry member args) := by
  cases hcall
  refine .asks _ hmutating fun r _ hr => ?_
  cases r with
  | error failure => cases hr
  | ok body =>
      refine ⟨body, rfl, fun kind hk => ?_⟩
      rw [show resultKind? member = some kind from hk] at hkind
      cases hkind

theorem changes_request {α : Type} {h : Handle} {member : String} {args : Bus.Body}
    {call : Bus.Call} {result : Bus.Argument α} (hcall : h.methodCall member args = call)
    (hmutating : mutators.contains member = true)
    (hkind : resultKind? member = some result.kind)
    (hresult : ∀ w a, result.read? w = some a → w.kind = result.kind) :
    Changes call (h.requestInquiry member args result) := by
  cases hcall
  refine .asks _ hmutating fun r a hr => ?_
  obtain ⟨w, body, rfl, hread⟩ := Handle.read_of_firstOf hr
  refine ⟨w :: body, rfl, fun kind hk => ?_⟩
  rw [show resultKind? member = some kind from hk] at hkind
  cases hkind
  exact congrArg some (hresult w a hread)

/-! ### Of the session -/

/-- The kinds of results that are read by their kind alone. -/
theorem kind_of_string {w : Bus.Wire} {t : String} (h : Bus.Argument.string.read? w = some t) :
    w.kind = .string := by
  cases w <;> cases h
  rfl

theorem kind_of_uint32 {w : Bus.Wire} {n : UInt32} (h : Bus.Argument.uint32.read? w = some n) :
    w.kind = .uint32 := by
  cases w <;> cases h
  rfl

theorem kind_of_double {w : Bus.Wire} {x : Binary64} (h : Bus.Argument.double.read? w = some x) :
    w.kind = .double := by
  cases w <;> cases h
  rfl

theorem kind_of_boolean {w : Bus.Wire} {b : Bool} (h : Bus.Argument.boolean.read? w = some b) :
    w.kind = .boolean := by
  cases w <;> cases h
  rfl

theorem sessionOp_meets {s : Service} {op : SessionOperation} {call : Bus.Call}
    (h : Changes call (op.inquiry (.ofTimeout s.timeout))) (w : World σ) :
    Meets s (sessionOps [op]) w (some [call]) :=
  meets_changes h fun _ w' _ => meets_stop s w'

theorem lock_meets (s : Service) (w : World σ) :
    Meets s (sessionOps [.lock]) w (some [sessionCall "Lock" []]) :=
  sessionOp_meets (changes_map
    (changes_command (methodCall_session _ _ _) (by decide) (by decide)) _) w

theorem unlock_meets (s : Service) (w : World σ) :
    Meets s (sessionOps [.unlock]) w (some [sessionCall "Unlock" []]) :=
  sessionOp_meets (changes_map
    (changes_command (methodCall_session _ _ _) (by decide) (by decide)) _) w

theorem inhibit_meets (s : Service) (who why : String) (w : World σ) :
    Meets s (sessionOps [.inhibit who why]) w (some [addCall who why]) :=
  sessionOp_meets (changes_map (changes_map (changes_request (methodCall_session _ _ _)
    (by decide) (by decide) fun _ _ => kind_of_string) _) _) w

theorem uninhibit_meets (s : Service) (id : String) (w : World σ) :
    Meets s (sessionOps [.uninhibit id]) w (some [removeCall id]) :=
  sessionOp_meets (changes_map
    (changes_command (methodCall_session _ _ _) (by decide) (by decide)) _) w

theorem stopInhibitors_meets (s : Service) (w : World σ) :
    Meets s (sessionOps [.stopInhibitors]) w (some [sessionCall "StopInhibitors" []]) :=
  sessionOp_meets (changes_map (changes_request (methodCall_session _ _ _) (by decide)
    (by decide) fun _ _ => kind_of_uint32) _) w

/-! ### Of backlights -/

theorem methodCall_device {text suffix : String} {timeout : Nat} {h : Handle}
    (hmade : Handle.ofText text suffix timeout = .ok h) (member : String) (args : Bus.Body) :
    h.methodCall member args = deviceCall text (Handle.interfaceName suffix) member args := by
  unfold Handle.methodCall deviceCall
  rw [Handle.path_of_ofText hmade, Handle.interface_of_ofText hmade]
  rfl

theorem changes_onBacklight {s : Service} {target : BacklightTarget} {op : BacklightOperation}
    {call : Bus.Call}
    (h : ∀ b : Backlight, (∀ member args, b.handle.methodCall member args =
      deviceCall target.pathText "org.sessiond.session1.Backlight" member args) →
        Changes call (op.inquiry b)) :
    Changes call ((Operation.onBacklight target op).inquiry s) := by
  have hinterface : Handle.interfaceName "Backlight" = "org.sessiond.session1.Backlight" := by
    decide
  refine changes_given fun b hb => h b fun member args => ?_
  rw [methodCall_device (BacklightTarget.handle_of_resolve hb), hinterface]

theorem brightness_meets (s : Service) (target : BacklightTarget) (set : Option UInt32)
    (inc : Option Int32) (w : World σ) :
    Meets s (.ops [.onBacklight target (brightnessOp set inc)]) w
      (some (askedBrightness target.pathText set inc)) := by
  rcases set with _ | v
  · rcases inc with _ | v
    · refine meets_reads ?_ fun _ w' _ => meets_stop s w'
      exact reads_given fun b => reads_asks (not_mutating_get _ _) _ _
    · refine meets_changes (changes_onBacklight fun b hcall => ?_) fun _ w' _ => meets_stop s w'
      exact changes_map (changes_request (hcall _ _) (by decide) (by decide)
        fun _ _ => kind_of_uint32) _
  · refine meets_changes (changes_onBacklight fun b hcall => ?_) fun _ w' _ => meets_stop s w'
    exact changes_map (changes_command (hcall _ _) (by decide) (by decide)) _

theorem backlight_meets (s : Service) (settings : Settings) (name : Option String)
    (set : Option UInt32) (inc : Option Int32) (w : World σ) :
    Meets s (script settings (.backlight name set inc)) w
      ((target s w settings (.backlight name set inc)).map
        (asked settings · (.backlight name set inc))) := by
  unfold script target
  simp only
  cases name <|> settings.backlight with
  | some name =>
      refine meets_reads (reads_service s _) fun _ w' _ => ?_
      exact brightness_meets s (.named name) set inc w'
  | none =>
      refine meets_reads (reads_service s _) fun outcome w' hperform => ?_
      obtain ⟨backlights, hbacklights, rfl⟩ :=
        result_of_performed s.backlights_amountsTo rfl hperform
      rw [hbacklights]
      cases backlights with
      | nil => exact meets_giveUp s w' none
      | cons b bs => exact brightness_meets s (.atPath b.handle.path.text) set inc w'

/-! ### Of audio sinks -/

theorem changes_onAudioSink {s : Service} {target : AudioSinkTarget} {op : AudioSinkOperation}
    {call : Bus.Call}
    (h : ∀ a : AudioSink, (∀ member args, a.handle.methodCall member args =
      deviceCall target.pathText "org.sessiond.session1.AudioSink" member args) →
        Changes call (op.inquiry a)) :
    Changes call ((Operation.onAudioSink target op).inquiry s) := by
  have hinterface : Handle.interfaceName "AudioSink" = "org.sessiond.session1.AudioSink" := by
    decide
  refine changes_given fun a ha => h a fun member args => ?_
  rw [methodCall_device (AudioSink.handle_of_ofPath ha), hinterface]

theorem mute_meets (s : Service) (target : AudioSinkTarget) (mute : Option Bool)
    (toggle : Bool) (w : World σ) :
    Meets s (.ops [.onAudioSink target (muteOp mute toggle)]) w
      (some (askedMute target.pathText mute toggle)) := by
  rcases mute with _ | m
  · cases toggle with
    | true =>
        refine meets_changes (changes_onAudioSink fun a hcall => ?_) fun _ w' _ => meets_stop s w'
        exact changes_map (changes_request (hcall _ _) (by decide) (by decide)
          fun _ _ => kind_of_boolean) _
    | false =>
        refine meets_reads ?_ fun _ w' _ => meets_stop s w'
        exact reads_given fun a => reads_asks (not_mutating_get _ _) _ _
  · refine meets_changes (changes_onAudioSink fun a hcall => ?_) fun _ w' _ => meets_stop s w'
    exact changes_map (changes_command (hcall _ _) (by decide) (by decide)) _

theorem change_meets (s : Service) (target : AudioSinkTarget) (change : AudioChange)
    (w : World σ) :
    Meets s (changeScript target change) w
      (some (askedVolume target.pathText change.set change.inc ++
        askedMute target.pathText change.mute change.toggleMute)) := by
  have hmute := fun w' : World σ => mute_meets s target change.mute change.toggleMute w'
  unfold changeScript
  split
  · exact meets_giveUp s w _
  · cases change.set with
    | some v =>
        refine meets_changes (changes_onAudioSink fun a hcall => ?_) fun _ w' _ => hmute w'
        exact changes_map (changes_command (hcall _ _) (by decide) (by decide)) _
    | none =>
        cases change.inc with
        | some v =>
            refine meets_changes (changes_onAudioSink fun a hcall => ?_) fun _ w' _ => hmute w'
            exact changes_map (changes_request (hcall _ _) (by decide) (by decide)
              fun _ _ => kind_of_double) _
        | none =>
            refine meets_reads ?_ fun _ w' _ => hmute w'
            exact reads_given fun a => reads_asks (not_mutating_get _ _) _ _

theorem audioSink_meets (s : Service) (settings : Settings) (id : Option String)
    (change : AudioChange) (w : World σ) :
    Meets s (script settings (.audioSink id change)) w
      ((target s w settings (.audioSink id change)).map
        (asked settings · (.audioSink id change))) := by
  unfold script target
  simp only
  cases id <|> settings.audioSink with
  | some id =>
      refine meets_reads (reads_service s _) fun _ w' _ => ?_
      exact change_meets s (.identified (.name id)) change w'
  | none =>
      refine meets_reads (reads_service s _) fun outcome w' hperform => ?_
      obtain ⟨sink, hsink, rfl⟩ := result_of_performed s.defaultAudioSink_amountsTo rfl hperform
      rw [hsink]
      cases sink with
      | none => exact meets_giveUp s w' none
      | some a => exact change_meets s (.atPath a.handle.path.text) change w'

/-! ## Every command -/

/-- Every script makes the changes that its command asks for. -/
theorem script_meets (s : Service) (settings : Settings) (command : CommandLine.Command)
    (w : World σ) :
    Meets s (script settings command) w
      ((target s w settings command).map (asked settings · command)) := by
  cases command with
  | status => exact (status_readsOnly s).meets w
  | properties backlight audioSink => exact (properties_readsOnly s backlight audioSink).meets w
  | lock => exact lock_meets s w
  | unlock => exact unlock_meets s w
  | inhibit who why words => exact inhibit_meets s _ _ w
  | uninhibit id => exact uninhibit_meets s id w
  | stopInhibitors => exact stopInhibitors_meets s w
  | listInhibitors => exact (sessionOps_readsOnly s (by decide)).meets w
  | backlight name set inc => exact backlight_meets s settings name set inc w
  | audioSink id change => exact audioSink_meets s settings id change w
  | monitor => exact (monitor_readsOnly s).meets w
  | version => exact (sessionOps_readsOnly s (by decide)).meets w

/-! ## Whole runs -/

/-- Loading the settings makes no call. -/
theorem load_abreast (env : Environment) (config : Option String) (w : World σ) :
    Abreast (Settings.load env config w).2 w :=
  .of_alike ((Settings.load_amountsTo env config).apply_of_settled w).2

theorem isOk_of_exitCode {result : Except Trouble Exit}
    (h : (Finish.ofResult result).exitCode = 0) : result.isOk = true := by
  cases result with
  | ok code => rfl
  | error trouble => cases h

/-- A run without a program makes the calls of its script, up to the first operation that fails.
    Among them is a beginning of the changes that the command line asks for, of the object that it
    is about, and no other change; with exit code 0 all of them were made, each with an answer that
    could be read. Without settings, or without the bus, there is no call at all. -/
theorem run_mutations (env : Environment) (r : Request)
    (hcommand : ∀ who why program arguments,
      r.command ≠ .inhibit who why (program :: arguments))
    (peer : Bus.Peer σ) (state : σ) :
    let w : World σ := { connection := .fresh peer state }
    let x := run env r w
    (∀ trouble, (Settings.load env r.config w).1 = .error trouble →
      x.2.journal.calls = [] ∧ (Finish.ofResult x.1).exitCode = 1) ∧
    (∀ failure, env.rejection = some failure →
      x.2.journal.calls = [] ∧ (Finish.ofResult x.1).exitCode = 1) ∧
    (∀ settings, (Settings.load env r.config w).1 = .ok settings → env.rejection = none →
      let s : Service := { timeout := settings.timeout.toNat }
      let followed := (script settings r.command).follow s w
      let object := target s w settings r.command
      x.2.journal.calls = followed.2.journal.calls ∧
      mutating x.2.journal.calls <+: (object.map (asked settings · r.command)).getD [] ∧
      ((Finish.ofResult x.1).exitCode = 0 → followed.1.isOk ∧
        (∃ path, object = some path ∧
          mutating x.2.journal.calls = asked settings path r.command) ∧
        Granted w.connection x.2.journal.calls)) := by
  intro w
  have hload := load_abreast env r.config w
  unfold run
  rw [Action.bind_apply]
  generalize Settings.load env r.config w = y at hload ⊢
  obtain ⟨loaded, w'⟩ := y
  cases loaded with
  | error trouble =>
      refine ⟨fun _ _ => ⟨hload.calls, rfl⟩, fun _ _ => ⟨hload.calls, rfl⟩, fun settings h => ?_⟩
      cases h
  | ok settings =>
      refine ⟨fun _ h => (by cases h), ?_⟩
      unfold connect
      cases hrejection : env.rejection with
      | some failure =>
          refine ⟨fun _ _ => ⟨hload.calls, rfl⟩, fun settings _ h => ?_⟩
          cases h
      | none =>
          refine ⟨fun _ h => (by cases h), fun settings' hsettings _ => ?_⟩
          cases hsettings
          intro s followed object
          -- loading made no call, so the command starts abreast of a world where nothing was loaded
          obtain ⟨hcalls, hok⟩ := perform_performs env settings s r.command hcommand w' w hload
          obtain ⟨calls, hfollow, hprefix, hmeets⟩ := script_meets s settings r.command w
          have hmade : (perform env settings s r.command w').2.journal.calls = calls :=
            hcalls.trans (hfollow.trans (List.nil_append calls))
          refine ⟨hcalls, ?_, fun hexit => ?_⟩
          · exact hmade ▸ hprefix
          · have hfollowed := hok (isOk_of_exitCode hexit)
            obtain ⟨hasked, hgranted⟩ := hmeets hfollowed
            obtain ⟨path, hobject, hpath⟩ := Option.map_eq_some_iff.mp hasked
            exact ⟨hfollowed, ⟨path, hobject, hmade ▸ hpath.symm⟩, hmade ▸ hgranted⟩

/-- The first backlight that the service tells is made brighter. -/
theorem run_mutations_first_backlight :
    let env : Environment :=
      { readText := fun _ => .error .notText
        hasPath := fun _ => false
        usualSettings := none
        runProgram := fun _ => .notStarted .notFound
        rejection := none }
    let r : Request := { config := none, command := .backlight none none (some 5) }
    let w : World (List Bus.Reply) :=
      { connection := .fresh (.scripted .noReply)
          [{ answer := .returned [.variant (.array .objectPath
               [.objectPath "/org/sessiond/session1/backlight/acpi0"])] },
           { answer := .returned [.uint32 9] }] }
    let x := run env r w
    (∀ who why program arguments, r.command ≠ .inhibit who why (program :: arguments)) ∧
      (Settings.load env r.config w).1 = .ok {} ∧ env.rejection = none ∧
      (Finish.ofResult x.1).exitCode = 0 ∧
      (∃ path, target {} w {} r.command = some path ∧
        mutating x.2.journal.calls = asked {} path r.command) ∧
      Granted w.connection x.2.journal.calls := by
  have hcommand : ∀ who why program arguments,
      (.backlight none none (some 5) : CommandLine.Command) ≠
        .inhibit who why (program :: arguments) := by
    intro who why program arguments h
    cases h
  refine ⟨hcommand, rfl, rfl, by rfl, ?_⟩
  exact (((run_mutations _ _ hcommand _ _).2.2 {} rfl rfl).2.2 (by rfl)).2

end SessionControl.Command
