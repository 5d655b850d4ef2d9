import SessionControl.Toml.Document

set_option autoImplicit false

/-! # Settings

What a user can set once for all commands. Each setting has its default, and is read for itself;
names that are not settings are passed over. -/

namespace SessionControl

/-- The settings of the tool. -/
structure Settings where
  /-- How long a call may take, in milliseconds. -/
  timeout : UInt64 := 25000
  /-- The backlight to use where none is named. -/
  backlight : Option String := none
  /-- The audio sink to use where none is named. -/
  audioSink : Option String := none
  /-- On whose behalf inhibitors are added. -/
  who : String := "sessionctl"
  deriving DecidableEq, Repr

namespace Settings

/-- A setting as it is given: its value, if there is one. A setting of the wrong type and one that
    is given twice are refused. -/
def given {α : Type} (take? : Toml.Value → Option α) (name : String) (t : Toml.Table) :
    Option (Option α) :=
  match t.filter fun e => e.1 = name with
  | [] => some none
  | [(_, v)] => (take? v).map some
  | _ => none

/-- Takes a number of milliseconds. -/
def takeCount? : Toml.Value → Option UInt64
  | .integer (.ofNat n) => some (UInt64.ofNat n)
  | _ => none

/-- Takes a text. -/
def takeText? : Toml.Value → Option String
  | .text s => some s
  | _ => none

/-- The settings of a table. -/
def ofTable? (t : Toml.Table) : Option Settings := do
  let timeout ← given takeCount? "timeout_ms" t
  let backlight ← given takeText? "backlight" t
  let audioSink ← given takeText? "audiosink" t
  let who ← given takeText? "who" t
  let fallback : Settings := {}
  some
    { timeout := timeout.getD fallback.timeout
      backlight, audioSink
      who := who.getD fallback.who }

/-- The settings of a settings file. -/
def ofText? (text : String) : Option Settings := do
  let d ← Toml.Document.read? text
  ofTable? d.table

end Settings
end SessionControl
