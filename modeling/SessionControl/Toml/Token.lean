set_option autoImplicit false

/-! # Tokens of a settings file

A settings file is cut into tokens before anything is made of them. Line ends are told by a line
feed; a carriage return in front of one is not seen. Quoted text is unescaped here: basic text
stands in double quotes and knows escapes, literal text stands in single quotes and does not, and
either may be quoted three times over to hold line ends. -/

namespace SessionControl.Toml

/-- A token. -/
inductive Token
  | newline
  /-- Spaces and tabs. -/
  | blank (text : List Char)
  | comment
  | equals | period | comma | colon | plus
  | leftBrace | rightBrace
  | leftBracket | rightBracket
  /-- A word without quotes. -/
  | bare (text : List Char)
  /-- Text from between quotes; `multiline` if they were threefold. -/
  | quoted (text : List Char) (multiline : Bool)
  deriving DecidableEq, Repr

/-! ## Characters -/

def isBlank (c : Char) : Bool := c = ' ' || c = '\t'

/-- A character of a bare word. -/
def isBare (c : Char) : Bool :=
  ('A' ≤ c && c ≤ 'Z') || ('a' ≤ c && c ≤ 'z') || ('0' ≤ c && c ≤ '9') || c = '-' || c = '_'

/-- A character that a comment may hold. -/
def isCommentChar (c : Char) : Bool := c = '\t' || ' ' ≤ c

/-- A character that quoted text may hold as it is. -/
def isTextChar (c : Char) : Bool := c = '\t' || (' ' ≤ c && c ≠ '\x7f')

/-- The value of a hexadecimal digit of either case. -/
def hexValue? (c : Char) : Option Nat :=
  if '0' ≤ c ∧ c ≤ '9' then some (c.toNat - 48)
  else if 'a' ≤ c ∧ c ≤ 'f' then some (c.toNat - 87)
  else if 'A' ≤ c ∧ c ≤ 'F' then some (c.toNat - 55)
  else none

/-- Leaves out carriage returns in front of line feeds. -/
def foldLineEnds : List Char → List Char
  | '\r' :: '\n' :: cs => '\n' :: foldLineEnds cs
  | c :: cs => c :: foldLineEnds cs
  | [] => []

/-- Leaves out a byte order mark at the beginning. -/
def dropMark : List Char → List Char
  | '\ufeff' :: cs => cs
  | cs => cs

/-! ## Quoted text -/

/-- The text after a closing delimiter of threefold quotes, together with delimiters that belong to
    the text: up to two may stand directly before the closing ones. -/
def closing (delimiter : Char) (cs : List Char) : List Char × List Char :=
  let extra := min 2 (cs.takeWhile (· = delimiter)).length
  (List.replicate extra delimiter, cs.drop extra)

/-- Reads the code point of an escape with `count` hexadecimal digits. -/
def codePoint? (count : Nat) (cs : List Char) : Option (Char × List Char) := do
  let ds := cs.take count
  if ds.length ≠ count then none
  else
    let values ← ds.mapM hexValue?
    let n := values.foldl (fun n d => 16 * n + d) 0
    if n.isValidChar then some (Char.ofNat n, cs.drop count) else none

/-- What remains after a backslash at the end of a line: the blanks behind it, the line end, and all
    blanks and line ends that follow are left out. -/
def continuation? (cs : List Char) : Option (List Char) :=
  match cs.dropWhile isBlank with
  | '\n' :: rest => some (rest.dropWhile fun c => isBlank c || c = '\n')
  | [] => some []
  | _ => none

/-- The character of a one-letter escape. -/
def escaped? : Char → Option Char
  | '"' => some '"'
  | '\\' => some '\\'
  | 'b' => some '\x08'
  | 'f' => some '\x0c'
  | 'n' => some '\n'
  | 'r' => some '\r'
  | 't' => some '\t'
  | _ => none

/-- Puts characters in front of a text that is read. -/
def before (cs : List Char) : Option (List Char × List Char) → Option (List Char × List Char)
  | some (text, rest) => some (cs ++ text, rest)
  | none => none

/-- Reads text up to its closing delimiter, which is returned without it. Every step takes a
    character away, so that `fuel` need not exceed their number. -/
def readText (delimiter : Char) (multiline : Bool) : Nat → List Char →
    Option (List Char × List Char)
  | 0, _ => none
  | _ + 1, [] => none
  | fuel + 1, c :: cs =>
    if c = delimiter then
      if multiline then
        match cs with
        | d :: e :: rest =>
          if d = delimiter ∧ e = delimiter then some (closing delimiter rest)
          else before [c] (readText delimiter multiline fuel cs)
        | _ => before [c] (readText delimiter multiline fuel cs)
      else some ([], cs)
    else if c = '\n' then
      if multiline then before [c] (readText delimiter multiline fuel cs) else none
    else if c = '\\' ∧ delimiter = '"' then
      match cs with
      | [] => none
      | 'u' :: rest => do
        let (x, rest) ← codePoint? 4 rest
        before [x] (readText delimiter multiline fuel rest)
      | 'U' :: rest => do
        let (x, rest) ← codePoint? 8 rest
        before [x] (readText delimiter multiline fuel rest)
      | x :: rest =>
        match escaped? x with
        | some y => before [y] (readText delimiter multiline fuel rest)
        | none =>
          if multiline ∧ (isBlank x ∨ x = '\n') then do
            let rest ← continuation? cs
            readText delimiter multiline fuel rest
          else none
    else if isTextChar c then before [c] (readText delimiter multiline fuel cs)
    else none

/-- Reads quoted text behind its first delimiter. A line end directly behind threefold quotes is
    left out. -/
def readQuoted (delimiter : Char) (cs : List Char) : Option (Token × List Char) :=
  match cs with
  | d :: e :: rest =>
    if d = delimiter ∧ e = delimiter then
      let rest :=
        match rest with
        | '\n' :: r => r
        | r => r
      (readText delimiter true (rest.length + 1) rest).map fun (t, r) => (.quoted t true, r)
    else (readText delimiter false (cs.length + 1) cs).map fun (t, r) => (.quoted t false, r)
  | _ => (readText delimiter false (cs.length + 1) cs).map fun (t, r) => (.quoted t false, r)

/-! ## Cutting -/

/-- The token that a single character stands for. -/
def punctuation? : Char → Option Token
  | '\n' => some .newline
  | '=' => some .equals
  | '.' => some .period
  | ',' => some .comma
  | ':' => some .colon
  | '+' => some .plus
  | '\x7b' => some .leftBrace
  | '\x7d' => some .rightBrace
  | '[' => some .leftBracket
  | ']' => some .rightBracket
  | _ => none

/-- Reads the token at the beginning of a text. -/
def readToken (c : Char) (cs : List Char) : Option (Token × List Char) :=
  match punctuation? c with
  | some t => some (t, cs)
  | none =>
    if isBlank c then some (.blank (c :: cs.takeWhile isBlank), cs.dropWhile isBlank)
    else if c = '#' then some (.comment, cs.dropWhile isCommentChar)
    else if c = '\'' ∨ c = '"' then readQuoted c cs
    else if isBare c then some (.bare (c :: cs.takeWhile isBare), cs.dropWhile isBare)
    else none

/-- Cuts a text into tokens; every token takes at least one character. -/
def cut : Nat → List Char → Option (List Token)
  | _, [] => some []
  | 0, _ => none
  | fuel + 1, c :: cs => do
    let (t, rest) ← readToken c cs
    let ts ← cut fuel rest
    some (t :: ts)

/-- The tokens of a settings file. -/
def tokens? (text : String) : Option (List Token) :=
  let cs := foldLineEnds (dropMark text.toList)
  cut (cs.length + 1) cs

end SessionControl.Toml
