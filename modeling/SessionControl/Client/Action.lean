import SessionControl.Bus.Connection
import SessionControl.Client.Fault

set_option autoImplicit false

/-! # Actions

What the client does is a function from its state to a result and a new state. The state is the
connection and a *journal*: every call that went out, every record that was logged, every text that
was printed and every program that was run, in the order in which they happened. A failing action
keeps what was done before it failed. -/

namespace SessionControl.Client

/-! ## The journal -/

/-- The severity of a log record. -/
inductive Severity
  | warn | debug | trace
  deriving DecidableEq, Repr

/-- Something that was done. -/
inductive Event
  | called (call : Bus.Call)
  | logged (severity : Severity) (text : String)
  | printed (text : String)
  /-- A program ran, with these words as its command line, and wrote this to standard output and
      standard error. -/
  | ran (words : List String) (output complaints : String)

namespace Event

def call? : Event → Option Bus.Call
  | called c => some c
  | _ => none

def record? : Event → Option (Severity × String)
  | logged severity text => some (severity, text)
  | _ => none

/-- What an event shows on standard output. -/
def output : Event → String
  | printed text => text
  | ran _ output _ => output
  | _ => ""

/-- What an event shows on standard error. -/
def complaints : Event → String
  | ran _ _ complaints => complaints
  | _ => ""

end Event

/-- What was done, oldest first. -/
abbrev Journal := List Event

namespace Journal

/-- The calls that were made. -/
def calls (j : Journal) : List Bus.Call := j.filterMap Event.call?

/-- The records that were logged. -/
def records (j : Journal) : List (Severity × String) := j.filterMap Event.record?

/-- The text that stands on standard output. -/
def output (j : Journal) : String := String.join (j.map Event.output)

/-- The text that programs have written to standard error. -/
def complaints (j : Journal) : String := String.join (j.map Event.complaints)

end Journal

/-! ## Actions -/

/-- The state that actions work on. -/
structure World (σ : Type) where
  connection : Bus.Connection σ
  journal : Journal := []

/-- An action with results in `α` and errors in `ε`, over a peer with states in `σ`. -/
def Action (σ ε α : Type) : Type := World σ → Except ε α × World σ

namespace Action

variable {σ ε δ α β : Type}

/-- Does nothing. -/
def done (a : α) : Action σ ε α := fun w => (.ok a, w)

/-- Fails and does nothing else. -/
def fail (e : ε) : Action σ ε α := fun w => (.error e, w)

/-- One action after another; the second does not happen if the first fails. -/
def andThen (x : Action σ ε α) (f : α → Action σ ε β) : Action σ ε β := fun w =>
  match x w with
  | (.ok a, w) => f a w
  | (.error e, w) => (.error e, w)

instance : Monad (Action σ ε) where
  pure := done
  bind := andThen

/-- The result as it is, error or not, without failing. -/
def attempt (x : Action σ ε α) : Action σ δ (Except ε α) := fun w =>
  match x w with
  | (r, w) => (.ok r, w)

/-- Gives back a result that was told apart before. -/
def ofExcept : Except ε α → Action σ ε α
  | .ok a => done a
  | .error e => fail e

/-- Words an error differently. -/
def mapError (f : ε → δ) (x : Action σ ε α) : Action σ δ α := fun w =>
  match x w with
  | (.ok a, w) => (.ok a, w)
  | (.error e, w) => (.error (f e), w)

/-- The action for each element in turn, up to the first that fails. -/
def each (f : α → Action σ ε β) : List α → Action σ ε (List β)
  | [] => done []
  | a :: as => do
    let b ← f a
    let bs ← each f as
    done (b :: bs)

/-! ## Laws of the journal's monad -/

@[simp] theorem pure_apply (a : α) (w : World σ) : (pure a : Action σ ε α) w = (.ok a, w) := rfl

@[simp, grind =] theorem done_apply (a : α) (w : World σ) :
    (done a : Action σ ε α) w = (.ok a, w) := rfl

@[simp, grind =] theorem fail_apply (e : ε) (w : World σ) :
    (fail e : Action σ ε α) w = (.error e, w) := rfl

@[simp, grind =] theorem bind_apply (x : Action σ ε α) (f : α → Action σ ε β) (w : World σ) :
    (x >>= f) w = match x w with
      | (.ok a, w) => f a w
      | (.error e, w) => (.error e, w) := rfl

@[simp] theorem bind_done (x : Action σ ε α) : (x >>= done) = x := by
  funext w
  rw [bind_apply]
  rcases x w with ⟨_ | a, w'⟩ <;> rfl

@[simp] theorem bind_assoc {γ : Type} (x : Action σ ε α) (f : α → Action σ ε β)
    (g : β → Action σ ε γ) : (x >>= f >>= g) = x >>= fun a => f a >>= g := by
  funext w
  simp only [bind_apply]
  rcases x w with ⟨_ | a, w'⟩ <;> rfl

@[simp, grind =] theorem attempt_apply (x : Action σ ε α) (w : World σ) :
    (x.attempt : Action σ δ (Except ε α)) w = (.ok (x w).1, (x w).2) := rfl

@[simp, grind =] theorem mapError_apply (f : ε → δ) (x : Action σ ε α) (w : World σ) :
    x.mapError f w = ((x w).1.mapError f, (x w).2) := by
  unfold mapError
  rcases x w with ⟨_ | a, w'⟩ <;> rfl

/-! ## Elementary actions -/

/-- Adds to the journal. -/
def note (e : Event) : Action σ ε Unit := fun w =>
  (.ok (), { w with journal := w.journal ++ [e] })

@[simp, grind =] theorem note_apply (e : Event) (w : World σ) :
    (note e : Action σ ε Unit) w = (.ok (), { w with journal := w.journal ++ [e] }) := rfl

def log (severity : Severity) (text : String) : Action σ ε Unit := note (.logged severity text)

@[simp, grind =] theorem log_apply (severity : Severity) (text : String) (w : World σ) :
    (log severity text : Action σ ε Unit) w =
      (.ok (), { w with journal := w.journal ++ [.logged severity text] }) := rfl

/-- Prints a line. -/
def printLine (text : String) : Action σ ε Unit := note (.printed (text ++ "\n"))

@[simp, grind =] theorem printLine_apply (text : String) (w : World σ) :
    (printLine text : Action σ ε Unit) w =
      (.ok (), { w with journal := w.journal ++ [.printed (text ++ "\n")] }) := rfl

/-- Makes a call. On a closed connection nothing goes out, and nothing is noted. -/
def call (c : Bus.Call) : Action σ Bus.Failure Bus.Body := fun w =>
  match w.connection.phase with
  | .closed => (.error .disconnected, w)
  | _ =>
    let (result, connection) := w.connection.exchange c
    (result, { connection, journal := w.journal ++ [.called c] })

/-- Registers a callback. -/
def subscribe (s : Bus.Subscription) : Action σ ε Unit := fun w =>
  (.ok (), { w with connection := w.connection.subscribe s })

/-- Waits until something comes. -/
def await (a : Bus.Arrival) : Action σ ε Unit := fun w =>
  (.ok (), { w with connection := w.connection.arrive a })

@[simp, grind =] theorem await_apply (a : Bus.Arrival) (w : World σ) :
    (await a : Action σ ε Unit) w = (.ok (), { w with connection := w.connection.arrive a }) := rfl

/-- Processes every waiting signal and returns the callbacks that ran. -/
def process : Action σ ε (List Bus.Delivery) := fun w =>
  match w.connection.process with
  | (deliveries, connection) => (.ok deliveries, { w with connection })

@[simp, grind =] theorem process_apply (w : World σ) :
    (process : Action σ ε (List Bus.Delivery)) w =
      (.ok w.connection.process.1, { w with connection := w.connection.process.2 }) := rfl

end Action
end SessionControl.Client
