import SessionControl.Numeric.Extended
import SessionControl.Programs.Escapes
import SessionControl.Programs.Tool

set_option autoImplicit false

/-! # Programs on lines

Programs that put texts together, take lines out of them, number, count and sort them. -/

namespace SessionControl.Programs

open Machine (Process Work Fate)
open Tool

/-! ## Whole texts -/

namespace Concatenate

/-- The options of the program that prints files. -/
def options : Options :=
  { plain := "AbeEnstTuv"
    long := [("show-all", 'A'), ("number-nonblank", 'b'), ("show-ends", 'E'), ("number", 'n'),
      ("squeeze-blank", 's'), ("show-tabs", 'T'), ("show-nonprinting", 'v')] }

/-- A byte in visible signs. -/
def visible (c : Char) : Bytes :=
  let low (n : Nat) : Bytes :=
    if n < 32 then ['^', Char.ofNat (n + 64)]
    else if n = 127 then ['^', '?']
    else [Char.ofNat n]
  if c = '\t' ∨ c = '\n' then [c]
  else if c.toNat < 128 then low c.toNat
  else 'M' :: '-' :: low (c.toNat - 128)

/-- Leaves out empty lines behind empty lines. -/
def squeeze : Bool → List Bytes → List Bytes
  | _, [] => []
  | afterEmpty, line :: rest =>
    let isEmpty := line = ['\n']
    if isEmpty ∧ afterEmpty then squeeze true rest else line :: squeeze isEmpty rest

/-- Numbers lines: all of them, or those that are not empty. -/
def number (onlyFull : Bool) : Nat → List Bytes → List Bytes
  | _, [] => []
  | n, line :: rest =>
    if onlyFull ∧ line = ['\n'] then line :: number onlyFull n rest
    else (Bytes.padLeft ' ' 6 (Decimal.digits n) ++ '\t' :: line) :: number onlyFull (n + 1) rest

/-- The text as it is shown. -/
def show_ (a : Arguments) (text : Bytes) : Bytes :=
  let all := a.has 'A'
  let signs := all ∨ a.has 'v' ∨ a.has 'e' ∨ a.has 't'
  let ends := all ∨ a.has 'E' ∨ a.has 'e'
  let tabs := all ∨ a.has 'T' ∨ a.has 't'
  let lines := Bytes.linesWithEnds text
  let lines := if a.has 's' then squeeze false lines else lines
  let one (c : Char) : Bytes :=
    if c = '\n' ∧ ends then ['$', '\n']
    else if c = '\t' ∧ tabs then ['^', 'I']
    else if signs then visible c
    else [c]
  let shown := lines.map fun l => l.flatMap one
  let numbered :=
    if a.has 'b' then
      -- An empty line is told by what it was before its end was shown.
      (number true 1 lines).zip (lines.zip shown) |>.map fun (n, l, s) =>
        n.take (n.length - l.length) ++ s
    else if a.has 'n' then
      (number false 1 lines).zip (lines.zip shown) |>.map fun (n, l, s) =>
        n.take (n.length - l.length) ++ s
    else shown
  numbered.flatten

/-- Prints files one after the other. -/
def tool : Tool := filter options fun a texts => show_ a texts.flatten

end Concatenate

namespace Ends

/-- The options of the programs that print the beginning or the end of files. -/
def options : Options :=
  { plain := "qvfz"
    valued := "nc"
    long := [("lines", 'n'), ("bytes", 'c'), ("quiet", 'q'), ("silent", 'q'), ("verbose", 'v')] }

/-- How much is printed: of lines or bytes, this many from this end, or all but as many. -/
structure Amount where
  ofBytes : Bool
  sign : Option Char
  count : Nat

/-- Reads an amount. -/
def amount? (a : Arguments) : Option Amount :=
  match a.lastOf? "nc" with
  | none => some ⟨false, none, 10⟩
  | some letter =>
    let word := (a.value? letter).getD []
    let (sign, digits) : Option Char × Bytes :=
      match word with
      | '-' :: ds => (some '-', ds)
      | '+' :: ds => (some '+', ds)
      | ds => (none, ds)
    (count? digits).map fun n => ⟨letter = 'c', sign, n⟩

/-- What is at the beginning. -/
def first (m : Amount) (text : Bytes) : Bytes :=
  let units : List Bytes := if m.ofBytes then text.map fun c => [c] else Bytes.linesWithEnds text
  (if m.sign = some '-' then units.take (units.length - m.count) else units.take m.count).flatten

/-- What is at the end. -/
def last (m : Amount) (text : Bytes) : Bytes :=
  let units : List Bytes := if m.ofBytes then text.map fun c => [c] else Bytes.linesWithEnds text
  (if m.sign = some '+' then units.drop (m.count - 1)
    else units.drop (units.length - m.count)).flatten

/-- Writes a bare number behind a dash, in the first place, as an amount of lines. -/
def spelledOut : List Bytes → List Bytes
  | ('-' :: d :: ds) :: rest =>
    if Ascii.isDigit d ∧ ds.all Ascii.isDigit then "-n".toList :: (d :: ds) :: rest
    else ('-' :: d :: ds) :: rest
  | words => words

/-- Prints a part of each file, under its name if there are several. -/
def tool (part : Amount → Bytes → Bytes) : Tool := fun p =>
  let p := { p with words := p.name :: spelledOut p.arguments }
  withOptions options 1
    (fun p a => do
      match amount? a with
      | none =>
        let letter := (a.lastOf? "nc").getD 'n'
        refuse p 1 ((if letter = 'c' then "invalid number of bytes: " else
          "invalid number of lines: ").toList ++ quoted ((a.value? letter).getD []))
      | some m =>
        let headed := (1 < a.words.length ∨ a.has 'v') ∧ !a.has 'q'
        let paths := if a.words.isEmpty then [['-']] else a.words
        let rec go (isFirst complete : Bool) : List Bytes → Work Bool
          | [] => return complete
          | path :: rest => do
            match ← readInput p path with
            | .error f =>
              let what := if f = .isADirectory then "error reading " else "cannot open "
              let how := if f = .isADirectory then ": " else " for reading: "
              complain p (what.toList ++ quoted path ++ how.toList ++ f.title.toList)
              go isFirst false rest
            | .ok bytes =>
              let title := if path = ['-'] then "standard input".toList else path
              if headed then
                say p ((if isFirst then [] else ['\n']) ++ "==> ".toList ++ title ++
                  " <==\n".toList)
              say p (part m bytes)
              go false complete rest
        exit (if ← go true true paths then 0 else 1))
    p

end Ends

namespace Count

/-- The options of the program that counts. -/
def options : Options :=
  { plain := "lwcmL"
    long := [("lines", 'l'), ("words", 'w'), ("bytes", 'c'), ("chars", 'm'),
      ("max-line-length", 'L')] }

/-- The number of words. -/
def words (text : Bytes) : Nat :=
  (text.foldl
    (fun (n, inside) c =>
      if Ascii.isSpace c then (n, false) else (if inside then n else n + 1, true))
    ((0, false) : Nat × Bool)).1

/-- What is counted in a text, in the order in which it is printed. -/
def counts (letters : List Char) (text : Bytes) : List Nat :=
  let one (letter : Char) (n : Nat) : List Nat := if letters.contains letter then [n] else []
  one 'l' (text.count '\n') ++ one 'w' (words text) ++ one 'm' text.length ++
    one 'c' text.length ++ one 'L' ((Bytes.lines text).map List.length |>.foldl max 0)

/-- A line of counts. -/
def line (width : Nat) (ns : List Nat) (title : Bytes) : Bytes :=
  List.intercalate [' '] (ns.map fun n => Bytes.padLeft ' ' width (Decimal.digits n)) ++
    (if title = [] then [] else ' ' :: title) ++ ['\n']

/-- Counts lines, words and bytes of files, and all of them together if there are several. -/
def tool : Tool := withOptions options 1 fun p a => do
  let given := ['l', 'w', 'm', 'c', 'L'].filter a.has
  let letters := if given.isEmpty then ['l', 'w', 'c'] else given
  let fromInput := a.words.isEmpty
  let inputFile : Bool ← isFile p
  let (inputs, complete) ← readInputs p a.words
  let total := (inputs.map fun i => i.2.length).foldl (· + ·) 0
  let several := decide (1 < a.words.length)
  let width :=
    if letters.length = 1 ∧ !several then 1
    else if (fromInput ∨ a.words.contains ['-']) ∧ !inputFile then 7
    else (Decimal.digits total).length
  inputs.forM fun (path, bytes) => say p (line width (counts letters bytes)
    (if fromInput then [] else path))
  if several then
    let all := inputs.map fun i => counts letters i.2
    let sums := all.foldl (fun s c => List.zipWith (· + ·) s c) (letters.map fun _ => 0)
    say p (line width sums "total".toList)
  exit (if complete then 0 else 1)
where
  isFile (p : Process) : Work Bool := do
    match Machine.fileOf? p.descriptors 0 with
    | none => return false
    | some n =>
      let s : Machine.State ← get
      match s.files[n]? with
      | some { channel := .file _, .. } => return true
      | _ => return false

end Count

/-! ## Turning round -/

/-- Prints lines in the opposite order. -/
def tac : Tool := filter {} fun _ texts =>
  texts.flatMap fun text => (Bytes.linesWithEnds text).reverse.flatten

/-- Prints each line backwards. -/
def rev : Tool := filter {} fun _ texts =>
  (texts.flatMap Bytes.linesWithEnds).flatMap fun line =>
    if line.getLast? = some '\n' then line.dropLast.reverse ++ ['\n'] else line.reverse

/-- Numbers the lines that are not empty, or all of them. -/
def nl : Tool := filter { valued := "b", long := [("body-numbering", 'b')] } fun a texts =>
  let all := a.value? 'b' = some ['a']
  let lines := (texts.flatMap Bytes.linesWithEnds).map fun l =>
    if l.getLast? = some '\n' then l else l ++ ['\n']
  let rec go : Nat → List Bytes → Bytes
    | _, [] => []
    | n, line :: rest =>
      if line = ['\n'] ∧ !all then List.replicate 7 ' ' ++ '\n' :: go n rest
      else Bytes.padLeft ' ' 6 (Decimal.digits n) ++ '\t' :: line ++ go (n + 1) rest
  go 1 lines

/-- Prints what it reads, and writes it to files. -/
def tee : Tool := withOptions { plain := "aip", long := [("append", 'a')] } 1 fun p a => do
  match ← p.readAll 0 with
  | .error f => refuse p 1 ("read error: ".toList ++ f.title.toList)
  | .ok bytes =>
    say p bytes
    let done ← a.words.mapM fun path => do
      match ← p.open_ path (if a.has 'a' then .append else .overwrite) with
      | .ok file =>
        Machine.writeFile file bytes
        return true
      | .error f =>
        complain p (faultText path f)
        return false
    exit (if done.all id then 0 else 1)

/-! ## Sorting -/

namespace Sorting

/-- The options of the program that sorts. -/
def options : Options :=
  { plain := "bcCdfginrsuzhV"
    valued := "kto"
    long := [("ignore-leading-blanks", 'b'), ("check", 'c'), ("ignore-case", 'f'),
      ("numeric-sort", 'n'), ("reverse", 'r'), ("stable", 's'), ("unique", 'u'), ("key", 'k'),
      ("field-separator", 't'), ("output", 'o')] }

/-- A part of a line that is compared: from a field and a character in it to another, with letters
    that say how. -/
structure Key where
  fromField : Nat := 1
  fromChar : Nat := 1
  toField : Option Nat := none
  toChar : Nat := 0
  letters : Bytes := []

/-- Reads one end of a key. -/
def position? (word : Bytes) : Option (Nat × Nat × Bytes) :=
  let ds := word.takeWhile Ascii.isDigit
  if ds = [] then none
  else
    match word.drop ds.length with
    | '.' :: rest =>
      let cs := rest.takeWhile Ascii.isDigit
      if cs = [] then none
      else some (Decimal.ofDigits ds, Decimal.ofDigits cs, rest.drop cs.length)
    | rest => some (Decimal.ofDigits ds, 0, rest)

/-- Reads a key. -/
def key? (word : Bytes) : Option Key := do
  let start := word.takeWhile (· ≠ ',')
  let (f, c, letters) ← position? start
  let first : Key := { fromField := f, fromChar := max c 1, letters }
  match word.drop start.length with
  | _ :: stop => do
    let (g, d, more) ← position? stop
    some { first with toField := some g, toChar := d, letters := letters ++ more }
  | [] => some first

/-- The fields of a line, each with the blanks before it or without the separator. -/
def fields (separator : Option Char) (line : Bytes) : List Bytes :=
  match separator with
  | some c => Bytes.splitOn c line
  | none =>
    let rec go : Nat → Bytes → List Bytes
      | 0, _ => []
      | _ + 1, [] => []
      | fuel + 1, cs =>
        let blanks := cs.takeWhile Ascii.isBlank
        let word := (cs.drop blanks.length).takeWhile fun c => !Ascii.isBlank c
        (blanks ++ word) :: go fuel (cs.drop (blanks.length + word.length))
    go (line.length + 1) line

/-- The part of a line that a key is about. -/
def Key.part (k : Key) (separator : Option Char) (line : Bytes) : Bytes :=
  let fs := fields separator line
  let between : Bytes := separator.elim [] ([·])
  let skipBlanks (bs : Bytes) : Bytes :=
    if k.letters.contains 'b' then bs.dropWhile Ascii.isBlank else bs
  let span (a b : Nat) : Bytes := List.intercalate between ((fs.drop (a - 1)).take (b + 1 - a))
  match k.toField with
  | none => (skipBlanks (span k.fromField fs.length)).drop (k.fromChar - 1)
  | some g =>
    let whole := skipBlanks (span k.fromField g)
    if k.toChar = 0 then whole.drop (k.fromChar - 1)
    else
      let before := if k.fromField < g then (span k.fromField (g - 1) ++ between).length else 0
      (whole.take (before + k.toChar)).drop (k.fromChar - 1)

/-- The number that a text begins with, in millionths. -/
def numeric (bs : Bytes) : Int :=
  let bs := bs.dropWhile Ascii.isBlank
  let (negative, ds) : Bool × Bytes :=
    match bs with
    | '-' :: ds => (true, ds)
    | ds => (false, ds)
  let whole := ds.takeWhile Ascii.isDigit
  let places : Bytes :=
    match ds.drop whole.length with
    | '.' :: rest => (rest.takeWhile Ascii.isDigit).take 6
    | _ => []
  let n := Decimal.ofDigits (whole ++ Bytes.padRight '0' 6 places)
  if negative then -(n : Int) else n

/-- Compares two texts as letters say. -/
def compareParts (letters : Bytes) (a b : Bytes) : Ordering :=
  if letters.contains 'n' ∨ letters.contains 'g' then compare (numeric a) (numeric b)
  else
    let fold (bs : Bytes) : Bytes :=
      let bs := if letters.contains 'b' then bs.dropWhile Ascii.isBlank else bs
      let bs := if letters.contains 'd' then
        bs.filter fun c => Ascii.isBlank c || Ascii.isAlnum c else bs
      if letters.contains 'f' then bs.map Ascii.upper else bs
    if Bytes.lt (fold a) (fold b) then .lt else if Bytes.lt (fold b) (fold a) then .gt else .eq

/-- Compares two lines by keys. -/
def compareKeys (separator : Option Char) (letters : Bytes) : List Key → Bytes → Bytes → Ordering
  | [], _, _ => .eq
  | k :: ks, a, b =>
    let own := if k.letters = [] then letters else k.letters
    let k := { k with letters := own }
    let order := compareParts own (k.part separator a) (k.part separator b)
    let order := if own.contains 'r' then order.swap else order
    match order with
    | .eq => compareKeys separator letters ks a b
    | o => o

/-- Leaves out lines that are like the one before. -/
def unique (same : Bytes → Bytes → Bool) : List Bytes → List Bytes
  | a :: b :: rest => if same a b then unique same (a :: rest) else a :: unique same (b :: rest)
  | lines => lines
termination_by lines => lines.length

/-- Sorts lines. -/
def tool : Tool := withOptions options 2 fun p a => do
  let keyWords := (a.options.filter fun o => o.letter = 'k').map (·.value)
  let letters := ['b', 'd', 'f', 'g', 'n', 'r'].filter a.has
  let separator := (a.value? 't').bind List.head?
  let keys := keyWords.filterMap key?
  if keys.length < keyWords.length then
    refuse p 2 ("invalid number at field start: invalid count at start of ".toList ++
      quoted ((keyWords.find? fun w => (key? w).isNone).getD []))
  else
    let keys := if keys.isEmpty then [({} : Key)] else keys
    let order := compareKeys separator letters keys
    let final (x y : Bytes) : Ordering :=
      match order x y with
      | .eq =>
        if a.has 's' ∨ a.has 'u' then .eq
        else
          let plain := compareParts [] x y
          if a.has 'r' then plain.swap else plain
      | o => o
    let (inputs, complete) ← readInputs p a.words
    let lines := inputs.flatMap fun i => Bytes.lines i.2
    if !complete then exit 2
    else if a.has 'c' ∨ a.has 'C' then
      let sorted := (lines.zip (lines.drop 1)).all fun (x, y) =>
        final x y = .lt || (final x y = .eq && !a.has 'u')
      exit (if sorted then 0 else 1)
    else
      let sorted := lines.mergeSort fun x y => final x y ≠ .gt
      let sorted := if a.has 'u' then unique (fun x y => order x y = .eq) sorted else sorted
      let text := sorted.flatMap fun l => l ++ ['\n']
      match a.value? 'o' with
      | none => answer p text
      | some path =>
        match ← p.open_ path .overwrite with
        | .ok file =>
          Machine.writeFile file text
          exit 0
        | .error f => refuse p 2 ("open failed: ".toList ++ faultText path f)

end Sorting

namespace Unique

/-- The options of the program that finds repeated lines. -/
def options : Options :=
  { plain := "cdiu"
    valued := "fsw"
    long := [("count", 'c'), ("repeated", 'd'), ("ignore-case", 'i'), ("unique", 'u')] }

/-- Equal lines in a row, as the first of them and their number. -/
def runs (same : Bytes → Bytes → Bool) (lines : List Bytes) : List (Bytes × Nat) :=
  lines.foldr
    (fun line rest =>
      match rest with
      | (l, n) :: others => if same line l then (line, n + 1) :: others else (line, 1) :: rest
      | [] => [(line, 1)])
    []

/-- Prints lines without their repetitions. -/
def tool : Tool := withOptions options 1 fun p a => do
  let fold (bs : Bytes) : Bytes := if a.has 'i' then bs.map Ascii.lower else bs
  let (inputs, complete) ← readInputs p (a.words.take 1)
  if !complete then exit 1
  else
    let lines := Bytes.lines (inputs.flatMap (·.2))
    let kept := (runs (fun x y => fold x = fold y) lines).filter fun (_, n) =>
      !(a.has 'd' && n = 1) && !(a.has 'u' && n ≠ 1)
    answer p (kept.flatMap fun (l, n) =>
      (if a.has 'c' then Bytes.padLeft ' ' 7 (Decimal.digits n) ++ [' '] else []) ++ l ++ ['\n'])

end Unique

/-! ## Sequences of numbers -/

namespace Sequence

/-- A decimal: its digits as a number, and how many of them are places. -/
structure Decimals where
  digits : Int
  places : Nat

/-- Reads a decimal. -/
def read? (word : Bytes) : Option Decimals :=
  let (negative, cs) := Decimal.splitSign word
  let whole := cs.takeWhile Ascii.isDigit
  let places : Bytes × Bytes :=
    match cs.drop whole.length with
    | '.' :: rest => (rest.takeWhile Ascii.isDigit, rest.dropWhile Ascii.isDigit)
    | rest => ([], rest)
  if (whole = [] ∧ places.1 = []) ∨ places.2 ≠ [] then none
  else
    let n : Int := Decimal.ofDigits (whole ++ places.1)
    some ⟨if negative then -n else n, places.1.length⟩

/-- The digits at a number of places. -/
def Decimals.at_ (d : Decimals) (places : Nat) : Int := d.digits * (Nat.pow 10 (places - d.places) : Nat)

/-- The text of digits with places. -/
def text (places : Nat) (n : Int) : Bytes :=
  (if n < 0 then ['-'] else []) ++ (FixedPlaces.scaledText places n.natAbs).toList

/-- Numbers from one to another. -/
def upTo (step last : Int) : Nat → Int → List Int
  | 0, _ => []
  | fuel + 1, n =>
    if (0 < step ∧ last < n) ∨ (step < 0 ∧ n < last) then []
    else n :: upTo step last fuel (n + step)

/-- More numbers than are ever printed. -/
def limit : Nat := 1000000

/-- The options in front, among which a negative number is none. -/
def split (words : List Bytes) : List Bytes × List Bytes :=
  let isOption (w : Bytes) : Bool :=
    match w with
    | '-' :: c :: _ => !(Ascii.isDigit c || c = '.')
    | _ => false
  let rec go : List Bytes → List Bytes × List Bytes
    | w :: v :: rest =>
      if w = ['-', 's'] ∨ w = ['-', 'f'] then
        let (o, r) := go rest
        (w :: v :: o, r)
      else if isOption w then
        let (o, r) := go (v :: rest)
        (w :: o, r)
      else ([], w :: v :: rest)
    | [w] => if isOption w then ([w], []) else ([], [w])
    | [] => ([], [])
  go words

/-- The options of the program that counts up and down. -/
def options : Options :=
  { plain := "w"
    valued := "sf"
    long := [("equal-width", 'w'), ("separator", 's'), ("format", 'f')] }

/-- Prints numbers in a row. -/
def tool : Tool := fun p => do
  let (front, numbers) := split p.arguments
  match options.read front with
  | .error text => misused p 1 text
  | .ok a =>
    match numbers.find? fun w => (read? w).isNone with
    | some w => misused p 1 ("invalid floating point argument: ".toList ++ quoted w)
    | none =>
      let one : Decimals := ⟨1, 0⟩
      let shape : Option (Decimals × Decimals × Decimals) :=
        match numbers.filterMap read? with
        | [last] => some (one, one, last)
        | [first, last] => some (first, one, last)
        | [first, step, last] => some (first, step, last)
        | _ => none
      match shape with
      | none =>
        match numbers with
        | [] => misused p 1 "missing operand".toList
        | _ => misused p 1 ("extra operand ".toList ++ quoted (numbers[3]?.getD []))
      | some (first, step, last) =>
        if step.digits = 0 then
          misused p 1 ("invalid Zero increment value: ".toList ++ quoted (numbers[1]?.getD []))
        else
          let places := max first.places step.places
          let inner := max places last.places
          let ns := upTo (step.at_ inner) (last.at_ inner) limit (first.at_ inner)
          let cut : Int := (Nat.pow 10 (inner - places) : Nat)
          let texts := ns.map fun n => text places (n.tdiv cut)
          let width := (texts.map List.length).foldl max 0
          let even (t : Bytes) : Bytes :=
            match t with
            | '-' :: ds => '-' :: Bytes.padLeft '0' (width - 1) ds
            | ds => Bytes.padLeft '0' width ds
          let texts := if a.has 'w' then texts.map even else texts
          let between := (Echo.escapes.all ((a.value? 's').getD ['\n'])).1
          if texts.isEmpty then exit 0
          else answer p (List.intercalate between texts ++ ['\n'])

end Sequence
end SessionControl.Programs
