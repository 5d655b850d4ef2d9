import SessionControl.Bus.Wire

set_option autoImplicit false

/-! # Signatures

The text form of types: one character for a basic type, `a` before the type of an array's elements,
braces around the two types of a dictionary's entries and parentheses around the fields of a
structure. -/

namespace SessionControl.Bus.WireType

/-! ## Writing -/

mutual

/-- The signature of a type. -/
def text : WireType → String
  | byte => "y"
  | boolean => "b"
  | int16 => "n"
  | uint16 => "q"
  | int32 => "i"
  | uint32 => "u"
  | int64 => "x"
  | uint64 => "t"
  | double => "d"
  | string => "s"
  | objectPath => "o"
  | signature => "g"
  | fileDescriptor => "h"
  | variant => "v"
  | array element => "a" ++ element.text
  | dict key value => "a\x7b" ++ key.text ++ value.text ++ "\x7d"
  | struct fields => "(" ++ texts fields ++ ")"

/-- The signatures of several types, one after the other. -/
def texts : List WireType → String
  | [] => ""
  | t :: ts => t.text ++ texts ts

end

/-! ## Reading -/

/-- The basic type that a character stands for. -/
def ofChar? : Char → Option WireType
  | 'y' => some byte
  | 'b' => some boolean
  | 'n' => some int16
  | 'q' => some uint16
  | 'i' => some int32
  | 'u' => some uint32
  | 'x' => some int64
  | 't' => some uint64
  | 'd' => some double
  | 's' => some string
  | 'o' => some objectPath
  | 'g' => some signature
  | 'h' => some fileDescriptor
  | 'v' => some variant
  | _ => none

mutual

/-- Reads one complete type and returns what follows it. Every step takes a character away, so
    `fuel` need not exceed the number of characters. -/
def readOne : Nat → List Char → Option (WireType × List Char)
  | 0, _ => none
  | fuel + 1, 'a' :: '\x7b' :: cs => do
    let (key, cs) ← readOne fuel cs
    let (value, cs) ← readOne fuel cs
    match cs with
    | '\x7d' :: cs => some (dict key value, cs)
    | _ => none
  | fuel + 1, 'a' :: cs => do
    let (element, cs) ← readOne fuel cs
    some (array element, cs)
  | fuel + 1, '(' :: cs => do
    let (fields, cs) ← readMany fuel cs
    match cs with
    | ')' :: cs => some (struct fields, cs)
    | _ => none
  | _ + 1, c :: cs => (ofChar? c).map (·, cs)
  | _ + 1, [] => none

/-- Reads complete types up to a closing parenthesis or the end. -/
def readMany : Nat → List Char → Option (List WireType × List Char)
  | _, [] => some ([], [])
  | _, ')' :: cs => some ([], ')' :: cs)
  | 0, _ => none
  | fuel + 1, cs => do
    let (t, cs) ← readOne fuel cs
    let (ts, cs) ← readMany fuel cs
    some (t :: ts, cs)

end

/-- Reads a signature made of any number of complete types. -/
def ofSignature? (text : String) : Option (List WireType) :=
  match readMany (2 * text.length + 2) text.toList with
  | some (ts, []) => some ts
  | _ => none

end SessionControl.Bus.WireType
