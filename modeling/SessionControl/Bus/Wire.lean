import SessionControl.Numeric.Binary64

set_option autoImplicit false

/-! # Wire values

What travels over the message bus: typed values, and the types themselves. A dictionary is an array
of entries on the wire, but a value of its own here, since nothing treats it as a sequence. Arrays
and dictionaries carry the type of what they hold, which their contents need not show. -/

namespace SessionControl.Bus

/-! ## Types -/

/-- A complete type of the bus. -/
inductive WireType
  | byte | boolean
  | int16 | uint16 | int32 | uint32 | int64 | uint64
  | double
  | string | objectPath | signature
  | fileDescriptor
  | variant
  | array (element : WireType)
  | dict (key value : WireType)
  | struct (fields : List WireType)
  deriving Repr, Inhabited

/-! ## Values -/

/-- A value of the bus. -/
inductive Wire
  | byte (n : UInt8)
  | boolean (b : Bool)
  | int16 (n : Int16)
  | uint16 (n : UInt16)
  | int32 (n : Int32)
  | uint32 (n : UInt32)
  | int64 (n : Int64)
  | uint64 (n : UInt64)
  | double (x : Binary64)
  | string (s : String)
  | objectPath (s : String)
  | signature (s : String)
  /-- A file that is handed over, by its place among the files of the message. -/
  | fileDescriptor (n : UInt32)
  | variant (inner : Wire)
  | array (element : WireType) (items : List Wire)
  | dict (key value : WireType) (entries : List (Wire × Wire))
  | struct (fields : List Wire)
  deriving Inhabited

/-- The arguments of a message. -/
abbrev Body := List Wire

namespace Wire

/-- The value inside any number of variants. -/
def core : Wire → Wire
  | variant inner => core inner
  | w => w

mutual

/-- The type of a value. -/
def type : Wire → WireType
  | byte _ => .byte
  | boolean _ => .boolean
  | int16 _ => .int16
  | uint16 _ => .uint16
  | int32 _ => .int32
  | uint32 _ => .uint32
  | int64 _ => .int64
  | uint64 _ => .uint64
  | double _ => .double
  | string _ => .string
  | objectPath _ => .objectPath
  | signature _ => .signature
  | fileDescriptor _ => .fileDescriptor
  | variant _ => .variant
  | array element _ => .array element
  | dict key value _ => .dict key value
  | struct fields => .struct (types fields)

/-- The types of several values. -/
def types : List Wire → List WireType
  | [] => []
  | w :: ws => type w :: types ws

end

end Wire

/-! ## Kinds

The outermost form of a value, which is all that a reader of arguments looks at first. -/

/-- The kinds of argument, and the absence of one. -/
inductive Kind
  | byte | boolean
  | int16 | uint16 | int32 | uint32 | int64 | uint64
  | double
  | string | objectPath | signature
  | fileDescriptor
  | variant | array | struct
  | nothing
  deriving DecidableEq, Repr

/-- The name of a kind in messages. Dictionaries share the name of arrays. -/
def Kind.name : Kind → String
  | byte => "u8"
  | boolean => "bool"
  | int16 => "i16"
  | uint16 => "u16"
  | int32 => "i32"
  | uint32 => "u32"
  | int64 => "i64"
  | uint64 => "u64"
  | double => "f64"
  | string => "String"
  | objectPath => "Path"
  | signature => "Signature"
  | fileDescriptor => "OwnedFd"
  | variant => "Variant"
  | array => "Array/Dict"
  | struct => "Struct"
  | nothing => "nothing"

/-- The kind of a value. -/
def Wire.kind : Wire → Kind
  | byte _ => .byte
  | boolean _ => .boolean
  | int16 _ => .int16
  | uint16 _ => .uint16
  | int32 _ => .int32
  | uint32 _ => .uint32
  | int64 _ => .int64
  | uint64 _ => .uint64
  | double _ => .double
  | string _ => .string
  | objectPath _ => .objectPath
  | signature _ => .signature
  | fileDescriptor _ => .fileDescriptor
  | variant _ => .variant
  | array _ _ => .array
  | dict _ _ _ => .array
  | struct _ => .struct

end SessionControl.Bus
