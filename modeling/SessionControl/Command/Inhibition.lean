import SessionControl.Client.Service
import SessionControl.Command.Trouble

set_option autoImplicit false

/-! # Inhibitors from the command line

Adding an inhibitor, alone or for as long as a program runs; removing, stopping and listing them. -/

namespace SessionControl.Command

open Client (Action Service Session InhibitorId Inhibitor InhibitorTable)

variable {σ : Type}

/-! ## Adding -/

/-- The exit code that stands for the end of a program. A killed one has none of its own. -/
def exitCodeOf (program : String) : Ending → Action σ Trouble Exit
  | .exited code => return .code code
  | .killed => do
    Action.log .warn (program ++ " was terminated by a signal")
    return 1

/-- Takes note of a program that ran. -/
def noteRun (words : List String) : ProgramRun → Action σ Trouble Unit
  | .notStarted _ => return ()
  | .ended output complaints _ => Action.note (.ran words output complaints)

/-- Runs words as a program while an inhibitor is there. The inhibitor is removed once the program
    has ended, or could not be started. -/
def hold (env : Environment) (s : Session) (id : InhibitorId) (program : String)
    (words : List String) : Action σ Trouble Exit := do
  Action.log .debug ("Running " ++ Text.quoteList words ++ " with inhibitor " ++ id.text)
  let run := env.runProgram words
  noteRun words run
  let released ← (within ("Could not remove inhibitor " ++ id.text) (s.uninhibit id)).attempt
  match run with
  | .notStarted f =>
    Action.fail { contexts := ["Could not run " ++ program], cause := .system f }
  | .ended _ _ ending =>
    Action.ofExcept released
    exitCodeOf program ending

/-- Adds an inhibitor. Without words its identifier is printed and it stays. Otherwise it is held
    while the words are run as a program. -/
def inhibit (env : Environment) (s : Session) (who : String) (why : Option String)
    (words : List String) : Action σ Trouble Exit := do
  let id ← within "Could not add inhibitor" (s.inhibit who (why.getD (" ".intercalate words)))
  match words with
  | [] =>
    Action.printLine id.text
    return 0
  | program :: _ => hold env s id program words

/-! ## Removing -/

/-- Removes an inhibitor. -/
def uninhibit (service : Service) (id : String) : Action σ Trouble Unit := do
  let session ← service.session
  within ("Could not remove inhibitor " ++ id) (session.uninhibit ⟨id⟩)

/-- Stops all inhibitors. -/
def stopInhibitors (service : Service) : Action σ Trouble Unit := do
  let session ← service.session
  let count ← within "Could not stop inhibitors" session.stopInhibitors
  Action.printLine ("Stopped " ++ Decimal.natText count.toNat ++ " inhibitors")

/-! ## Listing -/

/-- Entries by the time at which their inhibitors were made, oldest first. -/
def byAge (es : List (String × Inhibitor)) : List (String × Inhibitor) :=
  es.mergeSort fun a b => a.2.createdAt ≤ b.2.createdAt

/-- The lines of a listing. -/
def listingLines (es : List (String × Inhibitor)) : List String :=
  (byAge es).map fun e => Inhibitor.line e.1 e.2

/-- Lists the running inhibitors, oldest first. -/
def listInhibitors (service : Service) : Action σ Trouble Unit := do
  let session ← service.session
  let table ← within "Could not list inhibitors" session.listInhibitors
  let _ ← Action.each Action.printLine (listingLines table.entries)

end SessionControl.Command
