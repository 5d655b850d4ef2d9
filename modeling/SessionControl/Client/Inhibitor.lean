import SessionControl.NameMap
import SessionControl.Bus.Argument
import SessionControl.Numeric.Decimal
import SessionControl.Text.Quoted

set_option autoImplicit false

/-! # Inhibitors

An inhibitor keeps the session from going idle. The service hands out an identifier for each and
tells when it was made, by whom and why. -/

namespace SessionControl.Client

/-- The identifier of an inhibitor, opaque to the client. -/
structure InhibitorId where
  text : String
  deriving DecidableEq, Repr

/-- A running inhibitor. -/
structure Inhibitor where
  /-- The time of its making, in the service's own units. -/
  createdAt : UInt64
  who : String
  why : String
  deriving DecidableEq, Repr

/-- The inhibitors of a session, by identifier. -/
abbrev InhibitorTable := NameMap Inhibitor

namespace Inhibitor

/-- Reads an inhibitor from a structure that begins with its time, its owner and its reason. -/
def argument : Bus.Argument Inhibitor :=
  ⟨.struct, fun
    | .struct (.uint64 createdAt :: .string who :: .string why :: _) => some ⟨createdAt, who, why⟩
    | _ => none⟩

/-- Reads a dictionary of inhibitors. -/
def tableArgument : Bus.Argument (List (String × Inhibitor)) := .dict .string argument

/-! ## Texts -/

/-- One line that tells an identifier and its inhibitor, the free texts between quotes. -/
def line (id : String) (i : Inhibitor) : String :=
  id ++ " " ++ Decimal.natText i.createdAt.toNat ++ " who=" ++ Text.quote i.who ++ " why=" ++
    Text.quote i.why

/-- All fields of an inhibitor, by name. -/
def inspect (i : Inhibitor) : String :=
  "Inhibitor \x7b created_at: " ++ Decimal.natText i.createdAt.toNat ++ ", who: " ++
    Text.quote i.who ++ ", why: " ++ Text.quote i.why ++ " \x7d"

end Inhibitor

/-- The identifier with the name of its type. -/
def InhibitorId.inspect (id : InhibitorId) : String :=
  "InhibitorId(" ++ Text.quote id.text ++ ")"

end SessionControl.Client
