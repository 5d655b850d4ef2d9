import SessionControl.Command.Run

set_option autoImplicit false

/-! # Why commands fail

`FailsOnly` says of which kind the troubles of an action are, and is closed under the ways in which
commands are put together. How a trouble is worded tells kinds apart too: what is told of a fault of
the client starts as its context does. -/

namespace SessionControl.Command

open Client (Action Fault)

variable {σ α β : Type}

/-! ## Kinds of trouble -/

/-- Where the action fails, it is for a trouble of this kind. -/
def FailsOnly (kind : Trouble → Prop) (x : Action σ Trouble α) : Prop :=
  ∀ w trouble, (x w).1 = .error trouble → kind trouble

namespace FailsOnly

variable {kind : Trouble → Prop} {x : Action σ Trouble α} {f : α → Action σ Trouble β}

theorem done (a : α) : FailsOnly kind (Action.done a : Action σ Trouble α) :=
  fun _ _ h => nomatch h

theorem fail {trouble : Trouble} (h : kind trouble) :
    FailsOnly kind (Action.fail trouble : Action σ Trouble α) := by
  intro _ _ herror
  cases herror
  exact h

theorem note (e : Client.Event) : FailsOnly kind (Action.note e : Action σ Trouble Unit) :=
  fun _ _ h => nomatch h

theorem bind (hx : FailsOnly kind x) (hf : ∀ a, FailsOnly kind (f a)) :
    FailsOnly kind (x >>= f) := by
  intro w trouble h
  have hxw := hx w
  rw [Action.bind_apply] at h
  generalize x w = y at hxw h
  obtain ⟨r, w'⟩ := y
  cases r with
  | ok a => exact hf a w' trouble h
  | error _ =>
      cases h
      exact hxw trouble rfl

theorem mapError (x : Action σ Fault α) {g : Fault → Trouble} (hg : ∀ fault, kind (g fault)) :
    FailsOnly kind (x.mapError g) := by
  intro w trouble h
  rw [Action.mapError_apply] at h
  cases hresult : (x w).1 with
  | ok a =>
      rw [hresult] at h
      cases h
  | error fault =>
      rw [hresult] at h
      cases h
      exact hg fault

end FailsOnly

/-! ## Wording -/

namespace Trouble

/-- What is said of the trouble starts with this letter. -/
def StartsWith (c : Char) (trouble : Trouble) : Prop := trouble.text.toList.head? = some c

theorem startsWith_of_context {c : Char} {context : String}
    (h : context.toList.head? = some c) (fault : Fault) :
    StartsWith c { contexts := [context], cause := .fault fault } := by
  have htext : text { contexts := [context], cause := .fault fault } =
      context ++ ": " ++ ": ".intercalate fault.chain := String.intercalate_cons_cons
  unfold StartsWith
  rw [htext, String.append_assoc, String.toList_append, List.head?_append, h]
  rfl

end Trouble

/-- Faults that are told in a context start as the context does. -/
theorem within_startsWith {c : Char} {context : String} (h : context.toList.head? = some c)
    (x : Action σ Fault α) : FailsOnly (Trouble.StartsWith c) (within context x) :=
  .mapError x (Trouble.startsWith_of_context h)

end SessionControl.Command
