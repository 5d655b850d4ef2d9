import SessionControl.Client.Handle

set_option autoImplicit false

/-! # Backlights

The backlight of a display, with a brightness between zero and a maximum of its own. -/

namespace SessionControl.Client

/-- A handle to a backlight. -/
structure Backlight where
  /-- The name it was asked for by, or the last element of its path. -/
  name : String
  handle : Handle
  deriving DecidableEq, Repr

namespace Backlight

variable {σ : Type}

open PropertyValue (Narrowing)

/-! ## Making handles -/

/-- The path of the backlight with a name. It is a path only if the name consists of elements. -/
def pathText (name : String) : String := sessionPathText ++ "/backlight/" ++ name

/-- The backlight with a name. -/
def named (name : String) (timeout : Nat) : Action σ Fault Backlight := do
  let handle ← Handle.atText (pathText name) "Backlight" timeout
  return { name, handle }

/-- The backlight at a path that the service told. -/
def atPath (path : String) (timeout : Nat) : Action σ Fault Backlight := do
  let handle ← Handle.atText path "Backlight" timeout
  return { name := Bus.ObjectPath.lastElement path, handle }

/-! ## Brightness -/

def setBrightness (b : Backlight) (v : UInt32) : Action σ Fault Unit := do
  b.handle.command "SetBrightness" [.uint32 v]
  Action.log .debug ("Set brightness of " ++ b.name ++ " to " ++ Decimal.natText v.toNat)

/-- Changes the brightness by a difference and returns the new one. -/
def incBrightness (b : Backlight) (v : Int32) : Action σ Fault UInt32 := do
  let brightness ← b.handle.request "IncBrightness" [.int32 v] .uint32
  Action.log .debug ("Changed brightness of " ++ b.name ++ " by " ++ Decimal.intText v.toInt ++
    " to " ++ Decimal.natText brightness.toNat)
  return brightness

def brightness (b : Backlight) : Action σ Fault UInt64 :=
  b.handle.property Narrowing.count "Brightness"

def maxBrightness (b : Backlight) : Action σ Fault UInt64 :=
  b.handle.property Narrowing.count "MaxBrightness"

/-! ## The device -/

/-- The name of the device, as the service tells it. -/
def deviceName (b : Backlight) : Action σ Fault String := b.handle.property Narrowing.text "Name"

def online (b : Backlight) : Action σ Fault Bool := b.handle.property Narrowing.flag "Online"

def subsystem (b : Backlight) : Action σ Fault String :=
  b.handle.property Narrowing.text "Subsystem"

/-- The path of the device, with the mount point. -/
def sysPath (b : Backlight) : Action σ Fault String := b.handle.property Narrowing.text "SysPath"

/-- The path of the device, without the mount point. -/
def devPath (b : Backlight) : Action σ Fault String := b.handle.property Narrowing.text "DevPath"

end Backlight
end SessionControl.Client
