import SessionControl.Client.Action
import SessionControl.Command.Environment

set_option autoImplicit false

/-! # Exits and troubles

What a command comes to. One that fails has a cause for it, and contexts in which the cause arose;
such a trouble is told from its outermost context to its innermost cause. -/

namespace SessionControl.Command

open Client (Action Fault)

/-! ## Exits -/

/-- What a command comes to that does not fail. -/
inductive Exit
  /-- It ends with an exit code. -/
  | code (n : Nat)
  /-- It has not ended, and waits for what may still come. -/
  | waiting
  deriving DecidableEq, Repr

/-- A number is written for the exit code. -/
instance (n : Nat) : OfNat Exit n := ⟨.code n⟩

/-- The exit code of what has ended. -/
def Exit.code? : Exit → Option Nat
  | code n => some n
  | waiting => none

/-! ## Troubles -/

/-- What lies at the bottom of a trouble. -/
inductive Cause
  | fault (f : Fault)
  | failure (f : Bus.Failure)
  | system (f : SystemFault)
  | unreadable (f : TextFault)
  | badSettings
  | noBacklights
  | noDefaultSink
  | setAndChange

/-- The texts of a cause and of what caused it. -/
def Cause.chain : Cause → List String
  | fault f => f.chain
  | failure f => [f.text]
  | system f => [f.message]
  | unreadable f => [f.message]
  | badSettings => ["not a settings file"]
  | noBacklights => ["No backlights found"]
  | noDefaultSink => ["sessiond has no default audio sink"]
  | setAndChange => ["Cannot both set and change the volume"]

/-- Why a command fails. -/
structure Trouble where
  /-- Outermost first. -/
  contexts : List String := []
  cause : Cause

namespace Trouble

/-- All texts of a trouble, outermost first. -/
def chain (t : Trouble) : List String := t.contexts ++ t.cause.chain

/-- A trouble in one line. -/
def text (t : Trouble) : String := ": ".intercalate t.chain

end Trouble

variable {σ α : Type}

/-- Performs an action of the client, whose faults are told as they are. -/
def plainly (x : Action σ Fault α) : Action σ Trouble α :=
  x.mapError fun f => { cause := .fault f }

/-- Performs an action of the client, whose faults are told in a context. -/
def within (context : String) (x : Action σ Fault α) : Action σ Trouble α :=
  x.mapError fun f => { contexts := [context], cause := .fault f }

/-- Fails for a reason of its own. -/
def giveUp (cause : Cause) : Action σ Trouble α := Action.fail { cause }

/-- A truth value as the tool prints it. -/
def yesNo (b : Bool) : String := if b then "yes" else "no"

end SessionControl.Command
