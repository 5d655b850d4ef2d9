import SessionControl.Programs.Escapes
import SessionControl.Programs.Tool
import SessionControl.Shell.Pattern

set_option autoImplicit false

/-! # Programs on characters

Programs that replace characters by others, and that cut parts out of lines. -/

namespace SessionControl.Programs

open Machine (Process Work Fate)
open Tool

/-! ## Replacing -/

namespace Translate

/-- All bytes. -/
def allBytes : Bytes := (List.range 256).map Char.ofNat

/-- What the program knows behind a backslash. -/
def escapes : Escapes := {}

/-- Reads a set of characters: single ones, ranges and families. -/
def characters : Nat → Bytes → Bytes
  | 0, _ => []
  | _ + 1, [] => []
  | fuel + 1, '[' :: ':' :: cs =>
    let name := cs.takeWhile Ascii.isAlpha
    match cs.drop name.length with
    | ':' :: ']' :: rest =>
      allBytes.filter (Shell.Pattern.inFamily name) ++ characters fuel rest
    | _ => '[' :: characters fuel (':' :: cs)
  | fuel + 1, c :: cs =>
    let (first, cs) : Char × Bytes :=
      if c = '\\' then
        match escapes.read cs with
        | .bytes [x] rest => (x, rest)
        | _ => (cs.headD '\\', cs.drop 1)
      else (c, cs)
    match cs with
    | '-' :: d :: rest =>
      if first ≤ d then
        ((List.range (d.toNat + 1)).drop first.toNat).map Char.ofNat ++ characters fuel rest
      else first :: characters fuel cs
    | _ => first :: characters fuel cs

/-- The characters of a word. -/
def set (word : Bytes) : Bytes := characters (word.length + 1) word

/-- Leaves one of equal characters in a row, if they are such. -/
def squeeze (such : Char → Bool) (text : Bytes) : Bytes :=
  text.foldr
    (fun c rest => if such c && rest.head? = some c then rest else c :: rest)
    []

/-- The options of the program that replaces characters. -/
def options : Options :=
  { plain := "cCdst"
    long := [("complement", 'c'), ("delete", 'd'), ("squeeze-repeats", 's'),
      ("truncate-set1", 't')]
    anywhere := false }

/-- Replaces, deletes or squeezes characters. -/
def tool : Tool := withOptions options 1 fun p a => do
  let complement := a.has 'c' ∨ a.has 'C'
  let needed := if a.has 'd' ≠ a.has 's' then 1 else 2
  match a.words with
  | [] => misused p 1 "missing operand".toList
  | one :: more =>
    if a.words.length < needed then
      misused p 1 ("missing operand after ".toList ++ quoted one)
    else if 2 < a.words.length ∨ (a.has 'd' ∧ !a.has 's' ∧ more ≠ []) then
      misused p 1 ("extra operand ".toList ++ quoted (more.getLast?.getD []))
    else
      let first := if complement then allBytes.filter fun c => !(set one).contains c else set one
      let second := (more.head?.map set).getD []
      match ← p.readAll 0 with
      | .error f => refuse p 1 ("read error: ".toList ++ f.title.toList)
      | .ok text =>
        let text := if a.has 'd' then text.filter fun c => !first.contains c else text
        let padded := Bytes.padRight (second.getLast?.getD ' ') first.length second
        let replaces := !a.has 'd' ∧ second ≠ []
        let one (c : Char) : Char :=
          match (first.reverse.zip (padded.take first.length).reverse).find? fun e => e.1 = c with
          | some (_, d) => d
          | none => c
        let text := if replaces then text.map one else text
        let squeezed := if second ≠ [] then second else first
        answer p (if a.has 's' then squeeze squeezed.contains text else text)

end Translate

/-! ## Cutting -/

namespace Cut

/-- The options of the program that cuts lines. -/
def options : Options :=
  { plain := "ns"
    valued := "bcdfO"
    long := [("bytes", 'b'), ("characters", 'c'), ("delimiter", 'd'), ("fields", 'f'),
      ("only-delimited", 's'), ("output-delimiter", 'O')] }

/-- Reads a range of positions, which may be open at either end. -/
def range? (word : Bytes) : Option (Nat × Option Nat) :=
  let first := word.takeWhile Ascii.isDigit
  match word.drop first.length with
  | [] => if first = [] then none else some (Decimal.ofDigits first, some (Decimal.ofDigits first))
  | '-' :: last =>
    if !last.all Ascii.isDigit ∨ (first = [] ∧ last = []) then none
    else
      some (if first = [] then 1 else Decimal.ofDigits first,
        if last = [] then none else some (Decimal.ofDigits last))
  | _ => none

/-- Reads a list of ranges; positions count from one. -/
def ranges? (word : Bytes) : Option (List (Nat × Option Nat)) := do
  let rs ← (Bytes.splitOn ',' word).mapM range?
  if rs.any fun r => r.1 = 0 || (r.2.map fun last => decide (last < r.1)).getD false then none
  else some rs

/-- Whether a position is in one of the ranges. -/
def chosen (rs : List (Nat × Option Nat)) (n : Nat) : Bool :=
  rs.any fun r => r.1 ≤ n && (r.2.map fun last => decide (n ≤ last)).getD true

/-- The elements at chosen positions. -/
def pick {α : Type} (rs : List (Nat × Option Nat)) (xs : List α) : List α :=
  (xs.zipIdx.filter fun e => chosen rs (e.2 + 1)).map (·.1)

/-- Cuts parts out of each line. -/
def tool : Tool := withOptions options 1 fun p a => do
  match a.lastOf? "bcf" with
  | none => misused p 1 "you must specify a list of bytes, characters, or fields".toList
  | some letter =>
    match ranges? ((a.value? letter).getD []) with
    | none => misused p 1 "invalid byte, character or field list".toList
    | some rs =>
      let separator := ((a.value? 'd').bind List.head?).getD '\t'
      let between := (a.value? 'O').getD [separator]
      let (inputs, complete) ← readInputs p a.words
      let one (line : Bytes) : Option Bytes :=
        if letter ≠ 'f' then some (pick rs line)
        else if line.contains separator then
          some (List.intercalate between (pick rs (Bytes.splitOn separator line)))
        else if a.has 's' then none
        else some line
      say p ((Bytes.lines (inputs.flatMap (·.2))).flatMap fun l =>
        ((one l).map fun t => t ++ ['\n']).getD [])
      exit (if complete then 0 else 1)

end Cut
end SessionControl.Programs
