import SessionControl.Programs.Condition

set_option autoImplicit false

/-! # Conditions of the shell

The shell reads the words of a condition as an expression, in which a word is a sign only where it
can be one. Both sides of `-a` and `-o` are looked at, so that a fault in one of them counts. -/

namespace SessionControl.Shell.Condition

open Programs.Condition (Surroundings unary? relation? comparison? number?)

/-- What is wrong with a condition. -/
inductive Fault
  | badNumber (word : Bytes)
  /-- A sign with nothing behind it. -/
  | incomplete (sign : Bytes)
  /-- Words behind this one that do not belong to the condition. -/
  | unexpected (word : Bytes)
  | unclosed
  deriving DecidableEq, Repr

/-- What is said of a faulty condition. -/
def Fault.message : Fault → Bytes
  | badNumber word => "Illegal number: ".toList ++ word
  | incomplete sign => sign ++ ": argument expected".toList
  | unexpected [] => "unexpected operator".toList
  | unexpected word => word ++ ": unexpected operator".toList
  | unclosed => "closing paren expected".toList

/-- Reads a number that fits into 64 bits. -/
def number (word : Bytes) : Except Fault Int :=
  match number? word with
  | some n =>
    let bound : Int := Nat.pow 2 63
    if -bound ≤ n ∧ n < bound then .ok n else .error (.badNumber word)
  | none => .error (.badNumber word)

/-! ## Signs -/

/-- What a word is in a condition. -/
inductive Sign
  | nothing
  | word
  | unary (sign : Bytes)
  | binary (sign : Bytes)
  | not | and | or | open_ | close
  deriving DecidableEq, Repr

/-- What a word is by itself. -/
def signOf (s : Surroundings) (w : Bytes) : Sign :=
  match String.ofList w with
  | "!" => .not
  | "-a" => .and
  | "-o" => .or
  | "(" => .open_
  | ")" => .close
  | "<" | ">" => .binary w
  | "-N" => .word
  | _ =>
    if (relation? w).isSome ∨ (comparison? s [] w []).isSome then .binary w
    else if (unary? s w []).isSome then .unary w
    else .word

/-- Whether a word is a sign between two words. -/
def isBinary (s : Surroundings) (w : Bytes) : Bool :=
  match signOf s w with
  | .binary _ => true
  | _ => false

/-- What the word at a position is. A sign with nothing behind it, or before a sign between words, is
    a word like any other. -/
def signAt (s : Surroundings) (ws : List Bytes) (i : Nat) : Sign :=
  match ws[i]? with
  | none => .nothing
  | some w =>
    match signOf s w, ws[i + 1]?, ws[i + 2]? with
    | .unary _, none, _ => .word
    | .unary sign, some _, none => .unary sign
    | .unary sign, some next, some _ => if isBinary s next then .word else .unary sign
    | .open_, none, _ => .word
    | sign, _, _ => sign

/-! ## Reading -/

/-- What a reader returns: a truth value and the position of the last word that it has read. -/
abbrev Reading := Except Fault (Bool × Nat)

/-- The value of a sign between two words. -/
def compare (s : Surroundings) (a sign b : Bytes) : Except Fault Bool :=
  match relation? sign with
  | some relation => return relation (← number a) (← number b)
  | none =>
    if sign = ['<'] then .ok (Bytes.lt a b)
    else if sign = ['>'] then .ok (Bytes.lt b a)
    else if sign = ['-', 'n', 't'] ∨ sign = ['-', 'o', 't'] then .ok false
    else .ok ((comparison? s a sign b).getD false)

/-- Reads a term that begins at a position with this sign, given a reader of expressions. -/
def term (s : Surroundings) (ws : List Bytes) (expression : Sign → Nat → Reading) (sign : Sign)
    (i : Nat) : Reading :=
  let plain : Reading :=
    match signAt s ws (i + 1) with
    | .binary op =>
      match ws[i + 2]? with
      | some b => (compare s (ws[i]?.getD []) op b).map fun v => (v, i + 2)
      | none => .error (.incomplete op)
    | _ => .ok (ws[i]?.getD [] ≠ [], i)
  match sign with
  | .nothing => .ok (false, i)
  | .open_ =>
    let inside := signAt s ws (i + 1)
    if inside = .close then .ok (false, i + 1)
    else do
      let (v, j) ← expression inside (i + 1)
      if signAt s ws (j + 1) = .close then .ok (v, j + 1) else .error .unclosed
  | .unary op =>
    match ws[i + 1]? with
    | none => .error (.incomplete op)
    | some w => do
      if op = ['-', 't'] then
        let _ ← number w
      .ok ((unary? s op w).getD false, i + 1)
  | _ => plain

/-- Reads a term with signs of negation before it. -/
def negated (s : Surroundings) (ws : List Bytes) (expression : Sign → Nat → Reading) :
    Nat → Sign → Nat → Reading
  | 0, _, i => .ok (false, i)
  | fuel + 1, sign, i =>
    if sign = .not then
      let next := signAt s ws (i + 1)
      (negated s ws expression fuel next (if next = .nothing then i else i + 1)).map
        fun (v, j) => (!v, j)
    else term s ws expression sign i

/-- Reads parts with a sign between them. -/
def chain (s : Surroundings) (ws : List Bytes) (between : Sign) (join : Bool → Bool → Bool)
    (part : Sign → Nat → Reading) : Nat → Bool → Sign → Nat → Reading
  | 0, before, _, i => .ok (before, i)
  | fuel + 1, before, sign, i => do
    let (v, j) ← part sign i
    let all := join before v
    if signAt s ws (j + 1) = between then
      chain s ws between join part fuel all (signAt s ws (j + 2)) (j + 2)
    else .ok (all, j)

/-- Reads an expression. -/
def expression (s : Surroundings) (ws : List Bytes) : Nat → Sign → Nat → Reading
  | 0, _, i => .ok (false, i)
  | depth + 1, sign, i =>
    let turns := ws.length + 2
    let conjunction := chain s ws .and (· && ·) (negated s ws (expression s ws depth) turns) turns true
    chain s ws .or (· || ·) conjunction turns false sign i

/-! ## Whole conditions -/

/-- What all words mean, the first of them being this. -/
def whole (s : Surroundings) (ws : List Bytes) (sign : Sign) : Except Fault Bool := do
  let (v, i) ← expression s ws (ws.length + 1) sign 0
  match ws[i]?, ws[i + 1]? with
  | some w, some _ => .error (.unexpected w)
  | _, _ => .ok v

/-- What the words of a condition mean; the flag says that the opposite is asked for. Signs of
    negation before few words count as one. -/
def meaning (s : Surroundings) (opposite : Bool) (ws : List Bytes) : Except Fault Bool :=
  let answer (r : Except Fault Bool) : Except Fault Bool := r.map (· != opposite)
  match ws with
  | [] => .ok false
  | a :: rest =>
    let few := ws.length = 3 ∨ ws.length = 4
    if ws.length = 3 ∧ isBinary s (ws[1]?.getD []) then answer (whole s ws .word)
    else if few ∧ a = ['('] ∧ ws.getLast? = some [')'] then
      answer (whole s rest.dropLast (signAt s rest.dropLast 0))
    else if few ∧ a = ['!'] then meaning s true rest
    else answer (whole s ws (signAt s ws 0))

/-- What the words of a condition mean. No words are false. -/
def holds (s : Surroundings) (ws : List Bytes) : Except Fault Bool := meaning s false ws

end SessionControl.Shell.Condition
