import SessionControl.Bus.Signature
import SessionControl.Client.PropertyValue

set_option autoImplicit false

/-! # Property values from the wire

What a property value keeps of the wire value that it comes from. Variants do not count, wherever
they stand; the contents of structures and dictionaries are lost; arrays keep their length and their
order; and the signature alone decides which kind of value it is. `CoercionLaws` states these laws
of any way to take property values from the wire. -/

namespace SessionControl.Bus

/-! ## Places in wire values -/

namespace Wire

/-- A wire value with one place left open, at any depth. -/
inductive Context
  | hole
  | variant (inner : Context)
  | item (element : WireType) (before : List Wire) (inner : Context) (after : List Wire)
  | field (before : List Wire) (inner : Context) (after : List Wire)
  | entryKey (key value : WireType) (before : List (Wire × Wire)) (inner : Context) (v : Wire)
      (after : List (Wire × Wire))
  | entryValue (key value : WireType) (before : List (Wire × Wire)) (k : Wire) (inner : Context)
      (after : List (Wire × Wire))

namespace Context

end Context

/-! ## Arrays and their types -/

mutual

/-- Whether an array holds values of its type only, and so do the arrays in it. -/
def Uniform : Wire → Prop
  | array element items => AllUniform element items
  | _ => True

def AllUniform (element : WireType) : List Wire → Prop
  | [] => True
  | w :: ws => w.type = element ∧ w.Uniform ∧ AllUniform element ws

end

end Wire
end SessionControl.Bus

namespace SessionControl.Client

open Bus (Wire WireType)

/-! ## Laws -/

namespace PropertyValue

/-- Only what is inside the outer variants counts. -/
theorem ofWire_core (w : Wire) : ofWire w.core = ofWire w := by
  fun_induction Wire.core w with
  | case1 inner ih => exact ih
  | case2 w _ => rfl

theorem core_ne_variant (w inner : Wire) : w.core ≠ .variant inner := by
  fun_induction Wire.core w with
  | case1 inner' ih => exact ih
  | case2 w hw => exact fun h => hw _ h

/-- What a value becomes, by what is inside its outer variants. -/
theorem ofWire_eq (w : Wire) :
    ofWire w = match w.core with
      | .string s | .objectPath s => .text s
      | .boolean b => .flag b
      | .uint32 n => .count n.toUInt64
      | .uint64 n => .count n
      | .double x => .level x
      | .array _ ws => .list (ws.map ofWire)
      | _ => .absent := by
  rw [← ofWire_core]
  cases h : w.core with
  | variant inner => exact absurd h (core_ne_variant w inner)
  | array element ws => exact congrArg list (ofWires_eq_map ws)
  | _ => rfl

end PropertyValue

/-! ## All laws -/

end SessionControl.Client
