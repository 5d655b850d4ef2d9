import SessionControl.Proofs.Conversing
import SessionControl.Proofs.Fidelity

set_option autoImplicit false

/-! # Narrations

Some actions alternate between asking the service and printing what they have learnt. What they do
is told by *entries*, each a reading with its outcome or a printed line. An action *narrates* a set
of entries if, whatever the service replies, it goes through one member of the set, either to its
end or up to a reading that fails, with all that is told before it and nothing else. -/

namespace SessionControl.Command

open Client (Action Event Fault Handle Inquiry Journal Outcome Promised Question Session Service
  World)
open Client.PropertyValue (Narrowing)

variable {σ α β : Type}

/-! ## Entries -/

/-- A question to an object, the context in which it is put, and an outcome. -/
structure Reading where
  path : String
  interface : String
  question : Question
  context : String
  outcome : Outcome

namespace Reading

def call (r : Reading) : Bus.Call := r.question.approach.call r.path r.interface

/-- What is made of the reply that the question gets over a connection. -/
def answer (r : Reading) (c : Bus.Connection σ) : Except Fault Outcome :=
  let reply := (c.peer.reply c.state r.call).1
  r.question.made (c.inbox ++ reply.before) reply.answer

/-- What a fault of the reading is told as. -/
def trouble (r : Reading) (fault : Fault) : Trouble :=
  { contexts := [r.context], cause := .fault fault }

end Reading

/-- What is told. -/
inductive Entry
  | read (r : Reading)
  | line (text : String)

namespace Entry

/-- What is done: a call, or a print of the line. -/
def event : Entry → Event
  | read r => .called r.call
  | line text => .printed (text ++ "\n")

def reading? : Entry → Option Reading
  | read r => some r
  | line _ => none

end Entry

/-- The readings among what is told. -/
def readings (es : List Entry) : List Reading := es.filterMap Entry.reading?

/-- The calls that are made for what is told. -/
def callsFor (es : List Entry) : List Bus.Call := (readings es).map Reading.call

/-- All readings get their outcomes when they are made one after another. -/
def Brings : Bus.Connection σ → List Reading → Prop
  | _, [] => True
  | c, r :: rest => r.answer c = .ok r.outcome ∧ Brings (c.exchange r.call).2 rest

theorem readings_append (es es' : List Entry) :
    readings (es ++ es') = readings es ++ readings es' :=
  List.filterMap_append

theorem callsFor_append (es es' : List Entry) :
    callsFor (es ++ es') = callsFor es ++ callsFor es' := by
  rw [callsFor, readings_append, List.map_append]
  rfl

theorem brings_append (c : Bus.Connection σ) (rs rs' : List Reading) :
    Brings c (rs ++ rs') ↔ Brings c rs ∧ Brings (afterCalls c (rs.map Reading.call)) rs' := by
  induction rs generalizing c with
  | nil => exact (and_iff_right trivial).symm
  | cons r rs ih =>
      show _ ∧ Brings (c.exchange r.call).2 (rs ++ rs') ↔ (_ ∧ _) ∧ _
      rw [ih, and_assoc]
      rfl

/-- Only a dropped call closes the connection at once. -/
theorem phaseAfter_ne_closed {phase : Bus.Phase} {reply : Bus.Reply} (hopen : phase ≠ .closed)
    (h : reply.answer ≠ .dropped) : Bus.Connection.phaseAfter phase reply ≠ .closed := by
  unfold Bus.Connection.phaseAfter
  split
  · next hdropped => exact absurd hdropped h
  · split
    · decide
    · exact hopen

/-- Whoever is told an outcome has not lost the connection on the way. -/
theorem Reading.open_of_answer {r : Reading} {c : Bus.Connection σ} {outcome : Outcome}
    (hopen : c.phase ≠ .closed) (h : r.answer c = .ok outcome) :
    (c.exchange r.call).2.phase ≠ .closed := by
  refine phaseAfter_ne_closed hopen fun hdropped => ?_
  rw [answer, hdropped] at h
  cases h

theorem open_of_brings {c : Bus.Connection σ} {rs : List Reading} (hopen : c.phase ≠ .closed)
    (h : Brings c rs) : (afterCalls c (rs.map Reading.call)).phase ≠ .closed := by
  induction rs generalizing c with
  | nil => exact hopen
  | cons r rs ih => exact ih (r.open_of_answer hopen h.1) h.2

/-! ## Telling -/

/-- Between two worlds just this was told. -/
structure Told (w w' : World σ) (es : List Entry) : Prop where
  brought : Brings w.connection (readings es)
  connection : w'.connection = afterCalls w.connection (callsFor es)
  deeds : w'.journal.deeds = w.journal.deeds ++ es.map Entry.event

/-- From a world on, the action tells this and then makes a reading that fails. -/
structure Broken (x : Action σ Trouble α) (w : World σ) (told : List Entry) (failing : Reading)
    (fault : Fault) : Prop where
  brought : Brings w.connection (readings told)
  failed : failing.answer (afterCalls w.connection (callsFor told)) = .error fault
  result : (x w).1 = .error (failing.trouble fault)
  deeds : (x w).2.journal.deeds =
    w.journal.deeds ++ told.map Entry.event ++ [.called failing.call]

/-- Whatever the service replies, the action goes through one of these narrations, to its end with
    this result or up to a reading that fails. -/
structure Narrates (x : Action σ Trouble α) (N : α → List Entry → Prop) : Prop where
  inhabited : ∃ a es, N a es
  course : ∀ w : World σ, w.connection.phase ≠ .closed →
    (∃ a es, N a es ∧ (x w).1 = .ok a ∧ Told w (x w).2 es) ∨
      ∃ a told failing rest fault, N a (told ++ .read failing :: rest) ∧
        Broken x w told failing fault

theorem Told.of_alike {w w' : World σ} (h : World.Alike w' w) : Told w w' [] where
  brought := trivial
  connection := h.connection
  deeds := h.deeds.trans (List.append_nil _).symm

theorem Told.trans {w w' w'' : World σ} {es es' : List Entry} (h : Told w w' es)
    (h' : Told w' w'' es') : Told w w'' (es ++ es') where
  brought := by
    rw [readings_append, brings_append]
    exact ⟨h.brought, h.connection ▸ h'.brought⟩
  connection := by rw [h'.connection, h.connection, ← afterCalls_append, callsFor_append]
  deeds := by rw [h'.deeds, h.deeds, List.append_assoc, List.map_append]

/-- What is told before an action that breaks off comes before what that action tells. -/
theorem Broken.after {x : Action σ Trouble α} {f : α → Action σ Trouble β} {w w' : World σ} {a : α}
    {es told : List Entry} {failing : Reading} {fault : Fault} (hx : x w = (.ok a, w'))
    (h : Told w w' es) (hf : Broken (f a) w' told failing fault) :
    Broken (x >>= f) w (es ++ told) failing fault := by
  have hxf : (x >>= f) w = f a w' := by rw [Action.bind_apply, hx]
  exact
    { brought := by
        rw [readings_append, brings_append]
        exact ⟨h.brought, h.connection ▸ hf.brought⟩
      failed := by
        rw [callsFor_append, afterCalls_append]
        exact h.connection ▸ hf.failed
      result := hxf ▸ hf.result
      deeds := by
        rw [hxf, hf.deeds, h.deeds, List.map_append, List.append_assoc w.journal.deeds] }

/-- An inquiry that puts a question and does nothing else reads each reply as the question does. -/
theorem asks_of_poses {q : Inquiry Fault α} {wrap : α → Outcome} {question : Question}
    {path interface : String} (hcallback : q.callback? = none)
    (hposes : (q.map wrap).Poses question path interface) :
    ∃ read, q = .asks (question.approach.call path interface) read ∧
      ∀ r, (read r).bind (fun a => .ok (wrap a)) = match r with
        | .ok body => question.answered body
        | .error failure => question.refused failure := by
  cases q with
  | settled result => cases hposes
  | asks call read callback =>
      cases hcallback
      cases hposes with
      | asks _ _ hrefused hanswered =>
          refine ⟨read, rfl, fun r => ?_⟩
          cases r with
          | ok body => exact hanswered body
          | error failure => exact hrefused failure

namespace Narrates

variable {x : Action σ Trouble α} {f : α → Action σ Trouble β} {N N' : α → List Entry → Prop}
  {M : β → List Entry → Prop}

/-! ### Putting narrations together -/

theorem imp (hx : Narrates x N) (h : ∀ a es, N a es → N' a es) : Narrates x N' where
  inhabited := by
    obtain ⟨a, es, hN⟩ := hx.inhabited
    exact ⟨a, es, h a es hN⟩
  course w hopen := by
    rcases hx.course w hopen with ⟨a, es, hN, hrest⟩ | ⟨a, told, failing, rest, fault, hN, hbroken⟩
    · exact .inl ⟨a, es, h a es hN, hrest⟩
    · exact .inr ⟨a, told, failing, rest, fault, h _ _ hN, hbroken⟩

theorem bind (hx : Narrates x N)
    (hf : ∀ a es, N a es → Narrates (f a) fun b es' => M b (es ++ es')) :
    Narrates (x >>= f) M where
  inhabited := by
    obtain ⟨a, es, hN⟩ := hx.inhabited
    obtain ⟨b, es', hM⟩ := (hf a es hN).inhabited
    exact ⟨b, es ++ es', hM⟩
  course w hopen := by
    rcases hx.course w hopen with ⟨a, es, hN, hok, htold⟩ |
      ⟨a, told, failing, rest, fault, hN, hbroken⟩
    · have hxw : x w = (.ok a, (x w).2) := Prod.ext hok rfl
      have hxf : (x >>= f) w = f a (x w).2 := by rw [Action.bind_apply, hxw]
      have hopen' : (x w).2.connection.phase ≠ .closed := by
        rw [htold.connection]
        exact open_of_brings hopen htold.brought
      rcases (hf a es hN).course _ hopen' with ⟨b, es', hM, hok', htold'⟩ |
        ⟨b, told, failing, rest, fault, hM, hbroken⟩
      · rw [hxf]
        exact .inl ⟨b, es ++ es', hM, hok', htold.trans htold'⟩
      · rw [← List.append_assoc] at hM
        exact .inr ⟨b, es ++ told, failing, rest, fault, hM, hbroken.after hxw htold⟩
    · -- what would have followed goes on with any narration of the rest
      obtain ⟨b, es', hM⟩ := (hf _ _ hN).inhabited
      rw [List.append_assoc] at hM
      have hxw : x w = (.error (failing.trouble fault), (x w).2) := Prod.ext hbroken.result rfl
      have hxf : (x >>= f) w = (.error (failing.trouble fault), (x w).2) := by
        rw [Action.bind_apply, hxw]
      refine .inr ⟨b, told, failing, rest ++ es', fault, hM, hbroken.brought, hbroken.failed, ?_,
        ?_⟩
      · rw [hxf]
      · rw [hxf]
        exact hbroken.deeds

/-- What ends at once tells nothing. -/
theorem done {a : α} (h : N a []) : Narrates (Action.done a : Action σ Trouble α) N where
  inhabited := ⟨a, [], h⟩
  course w _ := .inl ⟨a, [], h, rfl, .of_alike (.refl w)⟩

theorem printLine (text : String) :
    Narrates (Action.printLine text : Action σ Trouble Unit) fun _ es => es = [.line text] where
  inhabited := ⟨(), _, rfl⟩
  course _ _ := .inl ⟨(), _, rfl, rfl, trivial, rfl, Journal.deeds_append _ _⟩

theorem printLine_bind {f : Unit → Action σ Trouble β} {text : String}
    (hf : Narrates (f ()) fun b es => M b (.line text :: es)) :
    Narrates (Action.printLine text >>= f) M :=
  (printLine text).bind fun _ es hes => by rw [hes]; exact hf

/-- Each element is told in a form of its own that agrees with the element in a key. -/
theorem each {γ δ : Type} {g : α → Action σ Trouble β} {key : α → δ} {key' : γ → δ}
    {tell : γ → List Entry} {as : List α}
    (hg : ∀ a ∈ as, Narrates (g a) fun _ es => ∃ c, key' c = key a ∧ es = tell c) :
    Narrates (Action.each g as) fun _ es =>
      ∃ cs : List γ, cs.map key' = as.map key ∧ es = cs.flatMap tell := by
  induction as with
  | nil => exact done ⟨[], rfl, rfl⟩
  | cons a as ih =>
      refine (hg a List.mem_cons_self).bind ?_
      rintro _ _ ⟨c, hkey, rfl⟩
      refine (ih fun a' ha' => hg a' (.tail a ha')).bind ?_
      rintro _ _ ⟨cs, hkeys, rfl⟩
      refine done ⟨c :: cs, ?_, ?_⟩
      · rw [List.map_cons, List.map_cons, hkey, hkeys]
      · rw [List.append_nil]
        rfl

theorem each_printLine (lines : List String) :
    Narrates (Action.each Action.printLine lines : Action σ Trouble (List Unit))
      fun _ es => es = lines.map .line := by
  have heach : Narrates (Action.each Action.printLine lines : Action σ Trouble (List Unit))
      fun _ es => ∃ cs : List String, cs.map id = lines.map id ∧
        es = cs.flatMap fun text => [.line text] :=
    each fun text _ => (printLine text).imp fun _ es hes => ⟨text, rfl, hes⟩
  refine heach.imp ?_
  rintro _ _ ⟨cs, hcs, rfl⟩
  rw [List.map_id, List.map_id] at hcs
  rw [hcs, List.map_eq_flatMap]

/-- What is settled without the service tells nothing. -/
theorem settled {a : α} (hx : x.AmountsTo (.settled (.ok a))) :
    Narrates x fun a' es => a' = a ∧ es = [] where
  inhabited := ⟨a, [], rfl, rfl⟩
  course w _ := by
    obtain ⟨hresult, halike⟩ := hx w w (.refl w)
    exact .inl ⟨a, [], ⟨rfl, rfl⟩, hresult, .of_alike halike⟩

/-- The handle to the session is made without telling anything. -/
theorem withSession {s : Service} {f : Session → Action σ Trouble β}
    (hf : Narrates (f (.ofTimeout s.timeout)) M) : Narrates (s.session >>= f) M := by
  refine (settled s.session_amountsTo).bind ?_
  rintro _ _ ⟨rfl, rfl⟩
  exact hf

/-! ### Readings -/

/-- An action of the client that puts a question, in the context of a reading. Of its results this
    much may be known. -/
theorem read {x : Action σ Fault α} {q : Inquiry Fault α} {wrap : α → Outcome} {question : Question}
    {path interface context : String} {P : α → Prop} (hx : x.AmountsTo q)
    (hcallback : q.callback? = none) (hposes : (q.map wrap).Poses question path interface)
    (hP : ∀ w a, (x w).1 = .ok a → P a) (hinhabited : ∃ a, P a) :
    Narrates (within context x) fun a es =>
      P a ∧ es = [.read ⟨path, interface, question, context, wrap a⟩] where
  inhabited := by
    obtain ⟨a, ha⟩ := hinhabited
    exact ⟨a, _, ha, rfl⟩
  course w hopen := by
    obtain ⟨read, rfl, hread⟩ := asks_of_poses hcallback hposes
    have hamounts := hx.mapError fun f => ({ contexts := [context], cause := .fault f } : Trouble)
    obtain ⟨hresult, hconnection, hdeeds⟩ := exchange_of_amountsTo hamounts hopen
    -- what the action reads of the reply is what the reading is answered with
    have hanswer : ∀ outcome, Reading.answer ⟨path, interface, question, context, outcome⟩
        w.connection = (read (w.connection.exchange
          (question.approach.call path interface)).1).bind fun a => .ok (wrap a) := by
      intro outcome
      rw [hread, Reading.answer, Question.made_eq]
      rfl
    cases hr : read (w.connection.exchange (question.approach.call path interface)).1 with
    | ok a =>
        rw [hr] at hresult hanswer
        have ha : P a := hP w a (mapError_ok_iff.mp hresult)
        exact .inl ⟨a, _, ⟨ha, rfl⟩, hresult, ⟨hanswer _, trivial⟩, hconnection, hdeeds⟩
    | error fault =>
        rw [hr] at hresult hanswer
        obtain ⟨a, ha⟩ := hinhabited
        refine .inr ⟨a, [], ⟨path, interface, question, context, wrap a⟩, [], fault, ⟨ha, rfl⟩, ?_⟩
        exact ⟨trivial, hanswer _, hresult, (List.append_nil w.journal.deeds).symm ▸ hdeeds⟩

/-- A property of a promised kind is read, and then the rest is told. -/
theorem property_bind {h : Handle} {kind : Narrowing α} {promised : Promised} {wrap : α → Outcome}
    {name context : String} [Inhabited α] (hpromised : Handle.Promises kind promised wrap)
    (hf : ∀ a, Narrates (f a) fun b es =>
      M b (.read ⟨h.path.text, h.interface, .property name promised, context, wrap a⟩ :: es)) :
    Narrates (within context (h.property kind name) >>= f) M := by
  refine (read (Handle.property_amountsTo h kind name) rfl (h.property_poses hpromised name)
    (fun _ _ _ => trivial) ⟨default, trivial⟩).bind ?_
  rintro a _ ⟨-, rfl⟩
  exact hf a

end Narrates

end SessionControl.Command
