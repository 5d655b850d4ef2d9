import SessionControl.Bus.Wire
import SessionControl.Numeric.Decimal
import SessionControl.Numeric.Shortest

set_option autoImplicit false

/-! # Property values

The values of properties as the client offers them. The session service uses few of the bus's types;
all others are *absent*, which is a value and not an error, so whoever reads a property must be
ready for it. Variants do not show: a value is the same in however many it is wrapped. -/

namespace SessionControl.Client

/-- A property value. -/
inductive PropertyValue
  | text (s : String)
  | flag (b : Bool)
  | count (n : UInt64)
  | level (x : Binary64)
  /-- Elements of types that the client does not use stay in the list, as absent. -/
  | list (items : List PropertyValue)
  | absent
  deriving Repr, Inhabited

namespace PropertyValue

/-! ## From the wire -/

mutual

/-- The property value that a wire value stands for. -/
def ofWire : Bus.Wire → PropertyValue
  | .string s => text s
  | .objectPath s => text s
  | .boolean b => flag b
  | .uint32 n => count n.toUInt64
  | .uint64 n => count n
  | .double x => level x
  | .array _ items => list (ofWires items)
  | .variant inner => ofWire inner
  | _ => absent

/-- The property values of several wire values, in order. -/
def ofWires : List Bus.Wire → List PropertyValue
  | [] => []
  | w :: ws => ofWire w :: ofWires ws

end

theorem ofWires_eq_map (ws : List Bus.Wire) : ofWires ws = ws.map ofWire := by
  induction ws with
  | nil => rfl
  | cons w ws ih => simp [ofWires, ih]

/-! ## Parts -/

def isAbsent : PropertyValue → Bool
  | absent => true
  | _ => false

def text? : PropertyValue → Option String
  | text s => some s
  | _ => none

def flag? : PropertyValue → Option Bool
  | flag b => some b
  | _ => none

def count? : PropertyValue → Option UInt64
  | count n => some n
  | _ => none

def level? : PropertyValue → Option Binary64
  | level x => some x
  | _ => none

def list? : PropertyValue → Option (List PropertyValue)
  | list items => some items
  | _ => none

/-! ## Text -/

/-- What kind of value it is, in words. -/
def kindText : PropertyValue → String
  | text _ => "a string"
  | flag _ => "a boolean"
  | count _ => "an integer"
  | level _ => "a double"
  | list _ => "an array"
  | absent => "null"

/-- A truth value in words. -/
def flagText (b : Bool) : String := if b then "true" else "false"

mutual

/-- The value as it is shown. Texts stand as they are, without quotes. -/
def display : PropertyValue → String
  | text s => s
  | flag b => flagText b
  | count n => Decimal.natText n.toNat
  | level x => x.text
  | list items => "[" ++ displayItems items ++ "]"
  | absent => "null"

/-- Several values, with commas between them. -/
def displayItems : List PropertyValue → String
  | [] => ""
  | v :: vs => display v ++ displayRest vs

/-- The values after the first one, each behind a comma. -/
def displayRest : List PropertyValue → String
  | [] => ""
  | v :: vs => ", " ++ display v ++ displayRest vs

end

/-! ## Narrowing

Accessors promise one kind of value and refuse all others. -/

/-- What an accessor promises: the words for it, and how to take it from a value. -/
structure Narrowing (α : Type) where
  expected : String
  take? : PropertyValue → Option α

namespace Narrowing

def text : Narrowing String := ⟨"a string", text?⟩

def flag : Narrowing Bool := ⟨"a boolean", flag?⟩

def count : Narrowing UInt64 := ⟨"an integer", count?⟩

def level : Narrowing Binary64 := ⟨"a double", level?⟩

/-- A list of nothing but texts. -/
def texts : Narrowing (List String) := ⟨"an array of strings", fun v => v.list? >>= (·.mapM text?)⟩

end Narrowing
end PropertyValue
end SessionControl.Client
