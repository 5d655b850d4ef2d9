import SessionControl.Toml.Value

set_option autoImplicit false

/-! # Settings files

A settings file is a sequence of lines: names with values, and headers that open tables. The names
before the first header are those of the file itself. Names may have dots, which open tables within
the one they stand in. -/

namespace SessionControl.Toml

/-! ## Names -/

/-- Skips blanks. -/
def skipBlanks : List Token → List Token
  | .blank _ :: ts => skipBlanks ts
  | ts => ts

/-- Reads one part of a name. -/
def namePart? : List Token → Option (String × List Token)
  | .bare s :: ts => some (String.ofList s, ts)
  | .quoted s false :: ts => some (String.ofList s, ts)
  | _ => none

/-- Reads a name with dots, and the blanks behind it. -/
def name? : Nat → List Token → Option (List String × List Token)
  | 0, _ => none
  | fuel + 1, ts => do
    let (part, ts) ← namePart? ts
    match skipBlanks ts with
    | .period :: ts => do
      let (parts, ts) ← name? fuel (skipBlanks ts)
      some (part :: parts, ts)
    | ts => some ([part], ts)

/-! ## Tables -/

mutual

/-- Adds a value under a name with dots. All parts but the last one name tables that are open; an
    undotted name is added even where it stands already. -/
def Table.add? (name : List String) (value : Value) (t : Table) : Option Table :=
  match name with
  | [] => none
  | [part] => some (t ++ [(part, value)])
  | part :: rest => Table.addWithin? part rest value t

/-- Adds a value within the first entry with a name, or within a new one. -/
def Table.addWithin? (part : String) (rest : List String) (value : Value) :
    Table → Option Table
  | [] => (Table.add? rest value []).map fun inner => [(part, .table true inner)]
  | (key, v) :: t =>
    if key = part then
      match v with
      | .table true entries =>
        (Table.add? rest value entries).map fun inner => (key, .table true inner) :: t
      | _ => none
    else (Table.addWithin? part rest value t).map ((key, v) :: ·)

end

/-! ## Values -/

/-- Skips blanks, line ends and comments inside an array. -/
def skipFiller : Nat → List Token → Option (List Token)
  | 0, ts => some ts
  | fuel + 1, ts =>
    match skipBlanks ts with
    | .newline :: ts => skipFiller fuel ts
    | .comment :: .newline :: ts => skipFiller fuel ts
    | .comment :: [] => some []
    | .comment :: _ => none
    | ts => some ts

/-- Skips filler, of which there are no more parts than tokens. -/
def skipAllFiller (ts : List Token) : Option (List Token) := skipFiller (ts.length + 1) ts

mutual

/-- Reads a value. Every step takes a token away, so `fuel` need not exceed twice their number. -/
def value? : Nat → List Token → Option (Value × List Token)
  | 0, _ => none
  | fuel + 1, ts =>
    match ts with
    | .quoted s _ :: ts => some (.text (String.ofList s), ts)
    | .bare s :: ts => bareValue? s ts
    | .plus :: .bare s :: ts => number? s ts
    | .leftBracket :: ts => do
      let (items, ts) ← arrayItems? fuel ts
      some (.array items, ts)
    | .leftBrace :: ts =>
      match skipBlanks ts with
      | .rightBrace :: ts => some (.table false [], ts)
      | ts => do
        let (entries, ts) ← inlineEntries? fuel [] ts
        some (.table false entries, ts)
    | _ => none

/-- Reads the elements of an array and its closing bracket. A comma may follow the last one. -/
def arrayItems? : Nat → List Token → Option (List Value × List Token)
  | 0, _ => none
  | fuel + 1, ts => do
    let ts ← skipAllFiller ts
    match ts with
    | .rightBracket :: ts => some ([], ts)
    | ts => do
      let (v, ts) ← value? fuel ts
      let ts ← skipAllFiller ts
      match ts with
      | .comma :: ts => do
        let (vs, ts) ← arrayItems? fuel ts
        some (v :: vs, ts)
      | .rightBracket :: ts => some ([v], ts)
      | _ => none

/-- Reads the entries of a table on one line and its closing brace. No comma follows the last one.
    -/
def inlineEntries? : Nat → Table → List Token → Option (Table × List Token)
  | 0, _, _ => none
  | fuel + 1, t, ts => do
    let (name, ts) ← name? ts.length ts
    match ts with
    | .equals :: ts => do
      let (v, ts) ← value? fuel (skipBlanks ts)
      let t ← t.add? name v
      match skipBlanks ts with
      | .rightBrace :: ts => some (t, ts)
      | .comma :: ts => inlineEntries? fuel t (skipBlanks ts)
      | _ => none
    | _ => none

end

/-! ## Lines -/

/-- A line that says something. -/
inductive Line
  | header (path : List String) (isArray : Bool)
  | entry (name : List String) (value : Value)

/-- What follows a line: nothing else may stand on it but a comment. -/
def lineEnd? (ts : List Token) : Option (List Token) :=
  match skipBlanks ts with
  | [] => some []
  | .newline :: ts => some ts
  | .comment :: [] => some []
  | .comment :: .newline :: ts => some ts
  | _ => none

/-- Reads a header behind its first bracket. -/
def header? (ts : List Token) : Option (Line × List Token) := do
  let (isArray, ts) : Bool × List Token :=
    match ts with
    | .leftBracket :: ts => (true, ts)
    | ts => (false, ts)
  let (path, ts) ← name? (ts.length + 1) (skipBlanks ts)
  let ts ←
    match isArray, ts with
    | false, .rightBracket :: ts => some ts
    | true, .rightBracket :: .rightBracket :: ts => some ts
    | _, _ => none
  let ts ← lineEnd? ts
  some (.header path isArray, ts)

/-- Reads a name with its value. -/
def entry? (ts : List Token) : Option (Line × List Token) := do
  let (name, ts) ← name? (ts.length + 1) ts
  match ts with
  | .equals :: ts => do
    let ts := skipBlanks ts
    let (value, ts) ← value? (2 * ts.length + 2) ts
    let ts ← lineEnd? ts
    some (.entry name value, ts)
  | _ => none

/-- Reads all lines; every one takes at least one token. -/
def lines? : Nat → List Token → Option (List Line)
  | 0, _ => none
  | fuel + 1, ts =>
    match skipBlanks ts with
    | [] => some []
    | .newline :: ts => lines? fuel ts
    | .comment :: [] => some []
    | .comment :: .newline :: ts => lines? fuel ts
    | .leftBracket :: ts => do
      let (line, ts) ← header? ts
      let lines ← lines? fuel ts
      some (line :: lines)
    | ts => do
      let (line, ts) ← entry? ts
      let lines ← lines? fuel ts
      some (line :: lines)

/-! ## Headers

A header may open a table that headers of longer paths have implied, but none twice. A header in
double brackets opens one more element of an array of tables, under which all is new again. -/

/-- What is known of a path. -/
inductive Opened
  /-- Only headers of longer paths have been seen. -/
  | implied
  | table
  | array
  deriving DecidableEq, Repr

/-- What is known of all paths seen so far. -/
abbrev Paths := List (List String × Opened)

namespace Paths

def get? (ps : Paths) (path : List String) : Option Opened :=
  (ps.find? fun p => p.1 = path).map (·.2)

/-- Whether a path lies below another one. -/
def isBelow (top path : List String) : Bool :=
  top.length < path.length && path.take top.length = top

/-- Marks the paths above a header as implied, unless they are known. -/
def implyAbove (ps : Paths) (path : List String) : Paths :=
  (List.range path.length).foldl
    (fun ps n =>
      let top := path.take n
      if n = 0 || (ps.get? top).isSome then ps else ps ++ [(top, .implied)])
    ps

/-- Opens the table of a header, unless it must not be opened. -/
def open? (ps : Paths) (path : List String) (isArray : Bool) : Option Paths :=
  let ps := ps.implyAbove path
  let others := ps.filter fun p => p.1 ≠ path
  match ps.get? path, isArray with
  | none, false => some (ps ++ [(path, .table)])
  | none, true => some (ps ++ [(path, .array)])
  | some .implied, false => some (others ++ [(path, .table)])
  | some .array, true => some (ps.filter fun p => !isBelow path p.1)
  | _, _ => none

end Paths

/-! ## Documents -/

/-- A table that a header opens. -/
structure Section where
  path : List String
  entries : Table

/-- A settings file. -/
structure Document where
  root : Table := []
  sections : List Section := []

namespace Document

/-- Adds the entries up to the next header to a table, and returns the lines from that header on. -/
def fill? (t : Table) : List Line → Option (Table × List Line)
  | .entry name value :: lines => do
    let t ← t.add? name value
    fill? t lines
  | lines => some (t, lines)

/-- Reads the sections from their first header on. -/
def sections? : Nat → Paths → List Line → Option (List Section)
  | _, _, [] => some []
  | fuel + 1, ps, .header path isArray :: lines => do
    let ps ← ps.open? path isArray
    let (entries, lines) ← fill? [] lines
    let sections ← sections? fuel ps lines
    some ({ path, entries } :: sections)
  | _, _, _ => none

/-- Makes a document of its lines. -/
def ofLines? (lines : List Line) : Option Document := do
  let (root, rest) ← fill? [] lines
  let sections ← sections? (rest.length + 1) [] rest
  some { root, sections }

/-- Reads a settings file. -/
def read? (text : String) : Option Document := do
  let ts ← tokens? text
  let lines ← lines? (ts.length + 1) ts
  ofLines? lines

/-- The names of the file itself with their values. A section is a table under the first part of its
    path. -/
def table (d : Document) : Table :=
  d.root ++ d.sections.map fun s => (s.path.headD "", .table false s.entries)

end Document
end SessionControl.Toml
