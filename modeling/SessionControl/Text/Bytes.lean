set_option autoImplicit false

/-! # Bytes

Files and pipes hold bytes, which need not be text. A byte is written here as the character of its
number, so that what is said of characters can be said of bytes. -/

namespace SessionControl

/-- A sequence of bytes, each the character of its number. -/
abbrev Bytes := List Char

namespace Bytes

/-- The bytes of an array. -/
def ofByteArray (a : ByteArray) : Bytes := a.toList.map fun b => Char.ofNat b.toNat

/-- The bytes as an array. -/
def toByteArray (bs : Bytes) : ByteArray := ⟨(bs.map fun c => UInt8.ofNat c.toNat).toArray⟩

/-- The bytes of a text. -/
def ofString (text : String) : Bytes := ofByteArray text.toUTF8

/-- The text that the bytes encode, if they encode one. -/
def text? (bs : Bytes) : Option String := String.fromUTF8? bs.toByteArray

/-! ## Bytes as text, come what may -/

/-- The bounds of the byte after a leading byte, and how many bytes there are to be after it. -/
def sequel? (lead : Nat) : Option (Nat × Nat × Nat) :=
  if lead < 0x80 then some (0, 0, 0)
  else if 0xc2 ≤ lead ∧ lead ≤ 0xdf then some (1, 0x80, 0xbf)
  else if lead = 0xe0 then some (2, 0xa0, 0xbf)
  else if lead = 0xed then some (2, 0x80, 0x9f)
  else if 0xe1 ≤ lead ∧ lead ≤ 0xef then some (2, 0x80, 0xbf)
  else if lead = 0xf0 then some (3, 0x90, 0xbf)
  else if 0xf1 ≤ lead ∧ lead ≤ 0xf3 then some (3, 0x80, 0xbf)
  else if lead = 0xf4 then some (3, 0x80, 0x8f)
  else none

/-- How many of the bytes, up to `count`, can follow a leading byte. -/
def following (count low high : Nat) (bs : Bytes) : Nat :=
  match bs with
  | b :: rest =>
    if 0 < count ∧ low ≤ b.toNat ∧ b.toNat ≤ high then 1 + following (count - 1) 0x80 0xbf rest
    else 0
  | [] => 0

/-- The character of the code point that a leading byte and the bytes after it encode. -/
def decoded (lead : Char) (after : Bytes) : Char :=
  let top :=
    match after.length with
    | 0 => lead.toNat
    | 1 => lead.toNat - 0xc0
    | 2 => lead.toNat - 0xe0
    | _ => lead.toNat - 0xf0
  Char.ofNat (after.foldl (fun n b => 64 * n + (b.toNat - 0x80)) top)

/-- The characters that the bytes encode. What encodes none becomes a replacement character, one for
    each longest beginning of a character; `skip` bytes belong to the character before. -/
def decode (skip : Nat) : Bytes → List Char
  | [] => []
  | b :: rest =>
    match skip with
    | k + 1 => decode k rest
    | 0 =>
      match sequel? b.toNat with
      | none => '\ufffd' :: decode 0 rest
      | some (count, low, high) =>
        let n := following count low high rest
        (if n = count then decoded b (rest.take n) else '\ufffd') :: decode n rest

/-- The text that the bytes encode, with a replacement character for what encodes none. -/
def text (bs : Bytes) : String := String.ofList (decode 0 bs)

/-! ## Lines and words -/

/-- The parts between separators; there is one more part than there are separators. -/
def splitOn (separator : Char) : Bytes → List Bytes
  | [] => [[]]
  | c :: cs =>
    match splitOn separator cs with
    | [] => [[c]]
    | part :: parts => if c = separator then [] :: part :: parts else (c :: part) :: parts

/-- The lines, without their line feeds. A last line without one counts. -/
def lines (bs : Bytes) : List Bytes :=
  let parts := splitOn '\n' bs
  if parts.getLast? = some [] then parts.dropLast else parts

/-- The lines, each with its line feed. Only the last one may lack it. -/
def linesWithEnds : Bytes → List Bytes
  | [] => []
  | c :: cs =>
    if c = '\n' then ['\n'] :: linesWithEnds cs
    else
      match linesWithEnds cs with
      | [] => [[c]]
      | line :: rest => (c :: line) :: rest

/-- Pads at the front to a width. -/
def padLeft (filler : Char) (width : Nat) (bs : Bytes) : Bytes :=
  List.replicate (width - bs.length) filler ++ bs

/-- Pads at the back to a width. -/
def padRight (filler : Char) (width : Nat) (bs : Bytes) : Bytes :=
  bs ++ List.replicate (width - bs.length) filler

/-- Whether one sequence comes strictly before another, byte by byte. -/
def lt : Bytes → Bytes → Bool
  | [], [] => false
  | [], _ :: _ => true
  | _ :: _, [] => false
  | a :: as, b :: bs => a.toNat < b.toNat || (a = b && lt as bs)

end Bytes
end SessionControl
