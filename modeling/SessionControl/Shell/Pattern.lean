import SessionControl.Text.Ascii

set_option autoImplicit false

/-! # Patterns

Patterns for names and values: a star stands for anything, a question mark for one character, and
brackets for one character out of a set. Quoted characters stand for themselves, and so does an
opening bracket that is never closed. -/

namespace SessionControl.Shell

/-- A character of a word whose parts have been replaced. -/
structure Mark where
  char : Char
  /-- Whether it has no meaning but itself. -/
  quoted : Bool
  deriving DecidableEq, Repr

/-- What can stand in brackets. -/
inductive Member
  | range (first last : Char)
  | family (name : Bytes)
  deriving DecidableEq, Repr

/-- An element of a pattern. -/
inductive Atom
  | exactly (c : Char)
  | anyOne
  | anyMany
  | set (negated : Bool) (members : List Member)
  deriving DecidableEq, Repr

/-- A pattern. -/
abbrev Pattern := List Atom

namespace Pattern

/-- Whether a character belongs to a family of characters, which has a name. -/
def inFamily (name : Bytes) (c : Char) : Bool :=
  match String.ofList name with
  | "lower" => Ascii.isLower c
  | "upper" => Ascii.isUpper c
  | "digit" => Ascii.isDigit c
  | "alpha" => Ascii.isAlpha c
  | "alnum" => Ascii.isAlnum c
  | "space" => Ascii.isSpace c
  | "blank" => Ascii.isBlank c
  | "graph" => Ascii.isGraph c
  | "print" => c = ' ' || Ascii.isGraph c
  | "punct" => Ascii.isPunct c
  | "cntrl" => Ascii.isControl c
  | "xdigit" => Ascii.isDigitIn 16 c
  | _ => false

end Pattern

/-- Whether a character is among the members of a set. -/
def Member.holds (c : Char) : Member → Bool
  | range first last => first ≤ c && c ≤ last
  | family name => Pattern.inFamily name c

/-- Whether an element stands for a character. -/
def Atom.accepts (c : Char) : Atom → Bool
  | exactly d => d = c
  | anyOne => true
  | anyMany => false
  | set negated members => (members.any fun m => m.holds c) != negated

namespace Pattern

/-! ## Reading -/

/-- The name of a family of characters, between colons, and what is behind its closing bracket. -/
def family? (ms : List Mark) : Option (Bytes × List Mark) :=
  let name := ms.takeWhile fun m => Ascii.isAlpha m.char
  match ms.drop name.length with
  | ⟨':', false⟩ :: ⟨']', false⟩ :: rest => some (name.map (·.char), rest)
  | _ => none

/-- Reads the members of a set up to the closing bracket; `none` if there is no such bracket. A
    closing bracket in the first place is a member. -/
def members? (first : Bool) : Nat → List Mark → Option (List Member × List Mark)
  | 0, _ => none
  | _ + 1, [] => none
  | fuel + 1, m :: ms =>
    if m = ⟨']', false⟩ ∧ first = false then some ([], ms)
    else
      let one : Member × List Mark :=
        match m, ms with
        | ⟨'[', false⟩, ⟨':', false⟩ :: after =>
          match family? after with
          | some (name, rest) => (.family name, rest)
          | none => (.range m.char m.char, ms)
        | _, ⟨'-', false⟩ :: last :: rest =>
          if last = ⟨']', false⟩ then (.range m.char m.char, ms)
          else (.range m.char last.char, rest)
        | _, _ => (.range m.char m.char, ms)
      match members? false fuel one.2 with
      | some (members, rest) => some (one.1 :: members, rest)
      | none => none

/-- The set behind an opening bracket, if it is closed. -/
def set? (ms : List Mark) : Option (Atom × List Mark) :=
  let negated := ms.head? = some ⟨'!', false⟩
  let body := if negated then ms.tail else ms
  match members? true (body.length + 1) body with
  | some (members, rest) => some (.set negated members, rest)
  | none => none

/-- Reads a pattern. -/
def readFrom : Nat → List Mark → Pattern
  | 0, _ => []
  | _ + 1, [] => []
  | fuel + 1, m :: ms =>
    if m.quoted then .exactly m.char :: readFrom fuel ms
    else
      match m.char with
      | '*' => .anyMany :: readFrom fuel ms
      | '?' => .anyOne :: readFrom fuel ms
      | '\\' =>
        match ms with
        | n :: rest => .exactly n.char :: readFrom fuel rest
        | [] => [.exactly '\\']
      | '[' =>
        match set? ms with
        | some (a, rest) => a :: readFrom fuel rest
        | none => .exactly '[' :: readFrom fuel ms
      | c => .exactly c :: readFrom fuel ms

/-- The pattern of a word. -/
def ofMarks (ms : List Mark) : Pattern := readFrom (ms.length + 1) ms

/-- Whether a pattern can stand for more than one text. -/
def isWild (p : Pattern) : Bool :=
  p.any fun a =>
    match a with
    | .exactly _ => false
    | _ => true

/-! ## Matching -/

/-- The ends of a text, the longest first. -/
def ends : Bytes → List Bytes
  | [] => [[]]
  | c :: cs => (c :: cs) :: ends cs

/-- Whether a pattern stands for a text. -/
def accepts : Pattern → Bytes → Bool
  | [], cs => cs.isEmpty
  | .anyMany :: p, cs => (ends cs).any fun rest => accepts p rest
  | a :: p, c :: cs => a.accepts c && accepts p cs
  | _ :: _, [] => false

/-- Takes off the front what the pattern stands for, as little or as much as it can be. -/
def trimFront (p : Pattern) (longest : Bool) (value : Bytes) : Bytes :=
  let counts := List.range (value.length + 1)
  match (if longest then counts.reverse else counts).find? fun n => p.accepts (value.take n) with
  | some n => value.drop n
  | none => value

/-- Takes off the back what the pattern stands for, as little or as much as it can be. -/
def trimBack (p : Pattern) (longest : Bool) (value : Bytes) : Bytes :=
  let counts := List.range (value.length + 1)
  match (if longest then counts else counts.reverse).find? fun n => p.accepts (value.drop n) with
  | some n => value.take n
  | none => value

end Pattern
end SessionControl.Shell
