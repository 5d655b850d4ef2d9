import SessionControl.Machine.Process

set_option autoImplicit false

/-! # Conditions

Conditions in words: about texts, numbers and files, joined by `!`, `-a`, `-o` and parentheses. What
up to four words mean hangs on how many there are, so that words which look like signs can be
compared; more words are read as an expression. -/

namespace SessionControl.Programs.Condition

open Machine (Disk Place Node)

/-! ## Simple conditions -/

/-- What a condition is asked about. -/
structure Surroundings where
  disk : Disk
  here : Place

/-- Reads a whole number with blanks around it. -/
def number? (word : Bytes) : Option Int :=
  let (negative, ds) := Decimal.splitSign (word.dropWhile Ascii.isSpace)
  let run := ds.takeWhile Ascii.isDigit
  if run = [] ∨ !(ds.drop run.length).all Ascii.isSpace then none
  else
    let n : Int := Decimal.ofDigits run
    some (if negative then -n else n)

/-- What is found at a path. -/
def Surroundings.node? (s : Surroundings) (path : Bytes) : Option Node :=
  match s.disk.find s.here path with
  | .ok node => some node
  | .error _ => none

/-- Whether the last name of a path is a link. -/
def Surroundings.isLink (s : Surroundings) (path : Bytes) : Bool :=
  let names := Machine.Path.names path
  match s.disk.start s.here path names.dropLast, names.getLast? with
  | .ok place, some name =>
    match s.disk.node? (place ++ [name]) with
    | some (.link _) => true
    | _ => false
  | _, _ => false

/-- The condition of a sign with one word behind it. The ones about terminals, pipes, devices and
    times never hold. -/
def unary? (s : Surroundings) (sign word : Bytes) : Option Bool :=
  let node := s.node? word
  match String.ofList sign with
  | "-n" => some (word ≠ [])
  | "-z" => some (word = [])
  | "-e" | "-r" | "-w" | "-O" | "-G" => some node.isSome
  | "-d" => some (node = some .directory)
  | "-f" => some (match node with | some (.file _ _) => true | _ => false)
  | "-x" =>
    some (match node with
      | some .directory => true
      | some (.file _ executable) => executable
      | _ => false)
  | "-s" =>
    some (match node with
      | some .directory => true
      | some (.file contents _) => contents ≠ []
      | _ => false)
  | "-c" => some (node = some .sink)
  | "-h" | "-L" => some (s.isLink word)
  | "-b" | "-t" | "-p" | "-S" | "-g" | "-k" | "-u" | "-N" => some false
  | _ => none

/-- The relation of a sign between two numbers. -/
def relation? (sign : Bytes) : Option (Int → Int → Bool) :=
  match String.ofList sign with
  | "-eq" => some fun x y => x = y
  | "-ne" => some fun x y => x ≠ y
  | "-lt" => some fun x y => x < y
  | "-le" => some fun x y => x ≤ y
  | "-gt" => some fun x y => y < x
  | "-ge" => some fun x y => y ≤ x
  | _ => none

/-- The condition of a sign between two words that need not be numbers. -/
def comparison? (s : Surroundings) (a sign b : Bytes) : Option Bool :=
  match String.ofList sign with
  | "=" => some (a = b)
  | "!=" => some (a ≠ b)
  | "-ef" =>
    some (match s.disk.resolve s.here a, s.disk.resolve s.here b with
      | .ok x, .ok y => x = y
      | _, _ => false)
  | "-nt" => some ((s.node? a).isSome && (s.node? b).isNone)
  | "-ot" => some ((s.node? a).isNone && (s.node? b).isSome)
  | _ => none

/-! ## Faults -/

/-- What is wrong with a condition. -/
inductive Fault
  | badNumber (word : Bytes)
  /-- The words end after this one, where another is expected. -/
  | incomplete (word : Bytes)
  | noUnarySign (word : Bytes)
  | noBinarySign (word : Bytes)
  | extraWord (word : Bytes)
  | unclosed
  | closedBy (word : Bytes)
  deriving DecidableEq, Repr

/-- What is said of a faulty condition. -/
def Fault.message : Fault → Bytes
  | badNumber word => "invalid integer '".toList ++ word ++ ['\'']
  | incomplete word => "missing argument after '".toList ++ word ++ ['\'']
  | noUnarySign word => '\'' :: word ++ "': unary operator expected".toList
  | noBinarySign word => '\'' :: word ++ "': binary operator expected".toList
  | extraWord word => "extra argument '".toList ++ word ++ ['\'']
  | unclosed => "')' expected".toList
  | closedBy word => "')' expected, found '".toList ++ word ++ ['\'']

/-! ## Reading -/

/-- What a reader of words returns: a truth value and the words that are left. -/
abbrev Reading := Except Fault (Bool × List Bytes)

/-- What is known while words are read. -/
structure Context where
  surroundings : Surroundings
  /-- The last of all words. -/
  last : Bytes

namespace Context

def beyond (c : Context) : Fault := .incomplete c.last

/-- A sign that stands between two words. -/
def isBinary (word : Bytes) : Bool :=
  (relation? word).isSome ||
    ["=", "==", "!=", "-ef", "-nt", "-ot"].contains (String.ofList word)

/-- Whether a word has the form of a sign in front of a word. -/
def looksUnary : Bytes → Bool
  | ['-', _] => true
  | _ => false

/-- The value of a condition with a sign between two words. -/
def compare (c : Context) (a sign b : Bytes) : Except Fault Bool :=
  match relation? sign with
  | some relation =>
    match number? a, number? b with
    | some x, some y => .ok (relation x y)
    | none, _ => .error (.badNumber a)
    | _, none => .error (.badNumber b)
  | none =>
    let sign := if sign = ['=', '='] then ['='] else sign
    .ok ((comparison? c.surroundings a sign b).getD false)

/-- Reads a sign and the word behind it. -/
def unary (c : Context) : List Bytes → Reading
  | sign :: rest =>
    match unary? c.surroundings sign [] with
    | none => .error (.noUnarySign sign)
    | some _ =>
      match rest with
      | word :: left =>
        if sign = ['-', 't'] ∧ (number? word).isNone then .error (.badNumber word)
        else .ok ((unary? c.surroundings sign word).getD false, left)
      | [] => .error c.beyond
  | [] => .error c.beyond

/-- Reads one word, which holds if it is not empty. -/
def one (c : Context) : List Bytes → Reading
  | word :: left => .ok (word ≠ [], left)
  | [] => .error c.beyond

/-- Reads two words. -/
def two (c : Context) : List Bytes → Reading
  | [] => .error c.beyond
  | word :: rest =>
    if word = ['!'] then (c.one rest).map fun (v, left) => (!v, left)
    else if looksUnary word then c.unary (word :: rest)
    else .error c.beyond

/-- Passes over one more word. -/
def skip (r : Reading) : Reading := r.map fun (v, left) => (v, left.tail)

/-- Reads three words, given a reader of expressions. -/
def three (c : Context) (expression : List Bytes → Reading) (ws : List Bytes) : Reading :=
  match ws with
  | a :: sign :: b :: left =>
    if isBinary sign then (c.compare a sign b).map fun v => (v, left)
    else if a = ['!'] then (c.two (sign :: b :: left)).map fun (v, left) => (!v, left)
    else if a = ['('] ∧ b = [')'] then skip (c.one (sign :: b :: left))
    else if sign = ['-', 'a'] ∨ sign = ['-', 'o'] then expression ws
    else .error (.noBinarySign sign)
  | _ => .error c.beyond

/-- Reads words that are told to be so many, given a reader of expressions. -/
def counted (c : Context) (expression : List Bytes → Reading) (count : Nat) (ws : List Bytes) :
    Reading :=
  match count with
  | 1 => c.one ws
  | 2 => c.two ws
  | 3 => c.three expression ws
  | 4 =>
    if ws.head? = some ['!'] then
      (c.three expression ws.tail).map fun (v, left) => (!v, left)
    else if ws.head? = some ['('] ∧ ws[3]? = some [')'] then skip (c.two ws.tail)
    else expression ws
  | _ => expression ws

/-- How many words a parenthesis is taken to hold: those before the next closing one, if it is not
    far. -/
def extent (ws : List Bytes) : Nat :=
  match (ws.drop 1).findIdx? fun w => w = [')'] with
  | some i => if i + 1 < 5 then i + 1 else ws.length
  | none => ws.length

/-- Reads a term, given a reader of expressions. -/
def term (c : Context) (expression : List Bytes → Reading) : List Bytes → Reading
  | [] => .error c.beyond
  | a :: rest =>
    if a = ['!'] then
      if rest = [] then .error c.beyond
      else (c.term expression rest).map fun (v, left) => (!v, left)
    else if a = ['('] then
      if rest = [] then .error c.beyond
      else do
        let (v, left) ← c.counted expression (extent rest) rest
        match left with
        | [] => .error .unclosed
        | b :: left => if b = [')'] then .ok (v, left) else .error (.closedBy b)
    else
      match rest with
      | sign :: b :: left =>
        if isBinary sign then (c.compare a sign b).map fun v => (v, left)
        else if looksUnary a then c.unary (a :: rest)
        else .ok (a ≠ [], rest)
      | _ => if looksUnary a then c.unary (a :: rest) else .ok (a ≠ [], rest)

/-- Reads parts with a sign between them. -/
def chain (sign : Bytes) (join : Bool → Bool → Bool) (part : List Bytes → Reading) :
    Nat → Bool → List Bytes → Reading
  | 0, before, ws => .ok (before, ws)
  | fuel + 1, before, ws => do
    let (v, left) ← part ws
    let all := join before v
    match left with
    | b :: rest => if b = sign then chain sign join part fuel all rest else .ok (all, left)
    | [] => .ok (all, left)

/-- Reads an expression. -/
def expression (c : Context) : Nat → List Bytes → Reading
  | 0, _ => .error c.beyond
  | fuel + 1, ws =>
    let conjunction := chain ['-', 'a'] (· && ·) (c.term (c.expression fuel)) (ws.length + 1) true
    chain ['-', 'o'] (· || ·) conjunction (ws.length + 1) false ws

end Context

/-! ## Whole conditions -/

/-- A truth value, or what is wrong. -/
abbrev Verdict := Except Fault Bool

/-- What the words of a condition mean. No words are false. -/
def holds (s : Surroundings) (ws : List Bytes) : Verdict := do
  if ws = [] then return false
  else
    let c : Context := { surroundings := s, last := ws.getLast?.getD [] }
    let (v, left) ← c.counted (c.expression (ws.length + 1)) ws.length ws
    match left with
    | [] => return v
    | w :: _ => .error (.extraWord w)

/-- The code of a verdict: zero if the condition holds, two if it is faulty. -/
def code {ε : Type} : Except ε Bool → Nat
  | .ok true => 0
  | .ok false => 1
  | .error _ => 2

end SessionControl.Programs.Condition
