import SessionControl.Bus.Failure

set_option autoImplicit false

/-! # Reading arguments

A reader says which kind of argument it wants and how to take a result from one. Bodies are read
from the left; arguments beyond those wanted are ignored. -/

namespace SessionControl.Bus

/-- A reader of one argument. -/
structure Argument (α : Type) where
  /-- The kind that is named when the argument does not fit. -/
  kind : Kind
  read? : Wire → Option α

namespace Argument

variable {α κ ν : Type}

/-- Reads the first argument of a body. -/
def first (a : Argument α) (body : Body) : Except Failure α :=
  match body with
  | [] => .error (.mismatch 0 a.kind .nothing)
  | w :: _ =>
    match a.read? w with
    | some x => .ok x
    | none => .error (.mismatch 0 a.kind w.kind)

/-! ## Simple arguments -/

def string : Argument String := ⟨.string, fun | .string s => some s | _ => none⟩

def objectPath : Argument String := ⟨.objectPath, fun | .objectPath s => some s | _ => none⟩

def boolean : Argument Bool := ⟨.boolean, fun | .boolean b => some b | _ => none⟩

def uint32 : Argument UInt32 := ⟨.uint32, fun | .uint32 n => some n | _ => none⟩

def double : Argument Binary64 := ⟨.double, fun | .double x => some x | _ => none⟩

/-- Takes the value out of a variant, one layer deep. -/
def variant : Argument Wire := ⟨.variant, fun | .variant w => some w | _ => none⟩

/-! ## Dictionaries -/

/-- The leading entries whose key and value fit; reading stops at the first that does not. -/
def leadingEntries (key : Wire → Option κ) (value : Wire → Option ν) :
    List (Wire × Wire) → List (κ × ν)
  | [] => []
  | (k, v) :: rest =>
    match key k, value v with
    | some k, some v => (k, v) :: leadingEntries key value rest
    | _, _ => []

/-- Reads the entries of a dictionary. Only its being an array is insisted on: an array of anything
    else has no entries, and entries that do not fit end the reading without a failure. -/
def dict (key : Argument κ) (value : Argument ν) : Argument (List (κ × ν)) :=
  ⟨.array, fun
    | .dict _ _ entries => some (leadingEntries key.read? value.read? entries)
    | .array _ _ => some []
    | _ => none⟩

end Argument
end SessionControl.Bus
