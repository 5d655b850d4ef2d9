import SessionControl.Client.Action

set_option autoImplicit false

/-! # Actions up to records for debugging

Log records below a warning are for those who debug the client; nobody else sees them. What is left
of a journal without them are its *deeds*. Two worlds are *alike* if they have the same connection
and the same deeds, and two actions are alike if they give the same result and lead to alike worlds
wherever they are started from alike worlds. Likeness of actions is kept by every way of putting
actions together, so an action may be replaced by a simpler one that is like it. -/

namespace SessionControl.Client

/-! ## Deeds -/

/-- Whether an event is more than a record for debugging. -/
def Event.isDeed : Event → Bool
  | logged severity _ => severity = .warn
  | _ => true

namespace Journal

/-- What was done, without the records for debugging. -/
def deeds (j : Journal) : Journal := j.filter Event.isDeed

@[simp, grind =] theorem deeds_nil : deeds [] = [] := rfl

@[simp, grind =] theorem calls_nil : calls [] = [] := rfl

@[simp, grind =] theorem deeds_called (c : Bus.Call) (j : Journal) :
    deeds (.called c :: j) = .called c :: j.deeds := rfl

@[simp, grind =] theorem calls_called (c : Bus.Call) (j : Journal) :
    calls (.called c :: j) = c :: j.calls := rfl

@[simp, grind =] theorem deeds_append (j k : Journal) : deeds (j ++ k) = j.deeds ++ k.deeds :=
  List.filter_append ..

@[simp, grind =] theorem calls_append (j k : Journal) : calls (j ++ k) = j.calls ++ k.calls :=
  List.filterMap_append ..

/-- Printed lines are deeds … -/
@[simp] theorem deeds_printed {α : Type} (line : α → String) (as : List α) :
    deeds (as.map fun a => .printed (line a)) = as.map fun a => .printed (line a) := by
  refine List.filter_eq_self.mpr fun e he => ?_
  obtain ⟨a, -, rfl⟩ := List.mem_map.mp he
  rfl

/-- … and no calls. -/
@[simp] theorem calls_printed {α : Type} (line : α → String) (as : List α) :
    calls (as.map fun a => .printed (line a)) = [] := by
  refine List.filterMap_eq_nil_iff.mpr fun e he => ?_
  obtain ⟨a, -, rfl⟩ := List.mem_map.mp he
  rfl

/-- No call is lost with the records for debugging. -/
@[simp, grind =] theorem calls_deeds (j : Journal) : j.deeds.calls = j.calls := by
  unfold deeds calls
  rw [List.filterMap_filter]
  congr 1
  funext e
  cases e <;> simp [Event.isDeed, Event.call?]

end Journal

/-! ## Worlds -/

variable {σ ε δ α β : Type}

/-- Two worlds with one connection, in which the same was done. -/
structure World.Alike (w v : World σ) : Prop where
  connection : w.connection = v.connection
  deeds : w.journal.deeds = v.journal.deeds

namespace World.Alike

theorem refl (w : World σ) : w.Alike w := ⟨rfl, rfl⟩

theorem calls {w v : World σ} (h : w.Alike v) : w.journal.calls = v.journal.calls := by
  rw [← Journal.calls_deeds, h.deeds, Journal.calls_deeds]

/-- Worlds stay alike when the same is added to their journals. -/
theorem append {w v : World σ} (h : w.Alike v) (j : Journal) :
    World.Alike { w with journal := w.journal ++ j } { v with journal := v.journal ++ j } := by
  refine ⟨h.connection, ?_⟩
  rw [Journal.deeds_append, Journal.deeds_append, h.deeds]

end World.Alike

/-! ## Actions -/

namespace Action

/-- Two actions with the same results that do the same, whatever they record for debugging. -/
def Alike (x y : Action σ ε α) : Prop :=
  ∀ w v : World σ, w.Alike v → (x w).1 = (y v).1 ∧ (x w).2.Alike (y v).2

namespace Alike

/-! ### Elementary actions -/

theorem done (a : α) : (Action.done a : Action σ ε α).Alike (Action.done a) :=
  fun _ _ h => ⟨rfl, h⟩

theorem fail (e : ε) : (Action.fail e : Action σ ε α).Alike (Action.fail e) :=
  fun _ _ h => ⟨rfl, h⟩

theorem ofExcept (r : Except ε α) : (Action.ofExcept r : Action σ ε α).Alike (.ofExcept r) := by
  cases r with
  | ok a => exact done a
  | error e => exact fail e

/-- A record below a warning is as good as nothing. -/
theorem log {severity : Severity} (h : severity ≠ .warn) (text : String) :
    (Action.log severity text : Action σ ε Unit).Alike (Action.done ()) := by
  intro w v hwv
  refine ⟨rfl, hwv.connection, ?_⟩
  show Journal.deeds (w.journal ++ [.logged severity text]) = v.journal.deeds
  rw [Journal.deeds_append, hwv.deeds]
  simp [Journal.deeds, Event.isDeed, h]

theorem call (c : Bus.Call) :
    (Action.call c : Action σ Bus.Failure Bus.Body).Alike (Action.call c) := by
  intro w v h
  unfold Action.call
  rw [h.connection]
  split
  · exact ⟨rfl, h⟩
  · exact ⟨rfl, rfl, (h.append [.called c]).deeds⟩

theorem subscribe (s : Bus.Subscription) :
    (Action.subscribe s : Action σ ε Unit).Alike (Action.subscribe s) :=
  fun _ _ h => ⟨rfl, congrArg (Bus.Connection.subscribe · s) h.connection, h.deeds⟩

/-! ### Putting actions together -/

theorem bind {x y : Action σ ε α} {f g : α → Action σ ε β} (h : x.Alike y)
    (hf : ∀ a, (f a).Alike (g a)) : (x >>= f).Alike (y >>= g) := by
  intro w v hwv
  obtain ⟨hr, hw⟩ := h w v hwv
  rw [bind_apply, bind_apply]
  rcases hx : x w with ⟨r, w'⟩
  rcases hy : y v with ⟨r', v'⟩
  rw [hx, hy] at hr hw
  cases (show r = r' from hr)
  cases r with
  | ok a => exact hf a w' v' hw
  | error e => exact ⟨rfl, hw⟩

theorem attempt {x y : Action σ ε α} (h : x.Alike y) :
    (x.attempt : Action σ δ (Except ε α)).Alike y.attempt := by
  intro w v hwv
  obtain ⟨hr, hw⟩ := h w v hwv
  exact ⟨congrArg Except.ok hr, hw⟩

theorem mapError {x y : Action σ ε α} (f : ε → δ) (h : x.Alike y) :
    (x.mapError f).Alike (y.mapError f) := by
  intro w v hwv
  obtain ⟨hr, hw⟩ := h w v hwv
  rw [mapError_apply, mapError_apply]
  exact ⟨congrArg (Except.mapError f) hr, hw⟩

end Alike
end Action
end SessionControl.Client
