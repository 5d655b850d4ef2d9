import SessionControl.Numeric.Decimal
import SessionControl.Text.Ascii

set_option autoImplicit false

/-! # Arithmetic

Expressions over whole numbers of 64 bits, with variables and assignments. What is not needed for the
value of an expression (the right of `0 && x`, an arm of a choice) is not evaluated. -/

namespace SessionControl.Shell.Arithmetic

/-! ## Expressions -/

/-- Operations on two numbers. -/
inductive Operator
  | times | quotient | rest | plus | minus
  | left | right
  | less | atMost | more | atLeast | equal | unequal
  | bitAnd | bitXor | bitOr
  deriving DecidableEq, Repr

/-- Operations on one number. -/
inductive Turn
  | negate | complement | not
  deriving DecidableEq, Repr

/-- An expression. -/
inductive Expression
  | number (n : Int64)
  | variable_ (name : Bytes)
  | turn (t : Turn) (a : Expression)
  | operate (o : Operator) (a b : Expression)
  | both (a b : Expression)
  | either (a b : Expression)
  | choose (condition yes no : Expression)
  /-- Gives a variable a value, or changes it by an operation. -/
  | assign (name : Bytes) (o : Option Operator) (a : Expression)
  deriving Repr

/-- What is wrong with an expression, or with the numbers in it. -/
inductive Fault
  | expectsPrimary
  | expectsEnd
  | expectsColon
  | expectsParenthesis
  | divisionByZero
  /-- A variable holds no number. -/
  | illegalNumber (text : Bytes)
  | unsetVariable (name : Bytes)
  | readOnly (name : Bytes)
  deriving DecidableEq, Repr

/-! ## Numbers -/

/-- The nearest number of 64 bits. -/
def saturate (n : Int) : Int64 :=
  if n < Int64.minValue.toInt then Int64.minValue
  else if Int64.maxValue.toInt < n then Int64.maxValue
  else Int64.ofInt n

/-- The number that a value stands for: with a sign, in any of the three bases, and with spaces
    around it. Nothing at all stands for zero. -/
def valueOf? (text : Bytes) : Option Int64 :=
  let cs := text.dropWhile Ascii.isSpace
  let (negative, ds) := Decimal.splitSign cs
  if cs = [] then some 0
  else if Ascii.startsWithDigit 10 ds then
    let (n, rest) := Ascii.leadingNumber ds
    if rest.all Ascii.isSpace then some (saturate (if negative then -(n : Int) else n)) else none
  else none

/-! ## Tokens -/

/-- A token of an expression. -/
inductive Token
  | number (n : Int64)
  | name (n : Bytes)
  | sign (text : String)
  | bad
  deriving DecidableEq, Repr

/-- The signs, longer ones before their beginnings. -/
def signs : List String :=
  ["<<=", ">>=", "==", "<=", "<<", ">=", ">>", "||", "|=", "&&", "&=", "!=", "*=", "/=", "%=",
   "+=", "-=", "^=", "=", "<", ">", "|", "&", "!", "*", "/", "%", "+", "-", "^", "~", "(", ")",
   "?", ":"]

/-- The sign at the front. -/
def sign? (cs : Bytes) : Option String := signs.find? fun s => s.toList.isPrefixOf cs

/-- Cuts an expression into tokens. -/
def tokens : Nat → Bytes → List Token
  | 0, _ => []
  | _ + 1, [] => []
  | fuel + 1, c :: cs =>
    if Ascii.isSpace c then tokens fuel cs
    else if Ascii.isDigit c then
      let (n, rest) := Ascii.leadingNumber (c :: cs)
      .number (saturate n) :: tokens fuel rest
    else if Ascii.isNameStart c then
      .name ((c :: cs).takeWhile Ascii.isNameChar) :: tokens fuel ((c :: cs).dropWhile Ascii.isNameChar)
    else
      match sign? (c :: cs) with
      | some s => .sign s :: tokens fuel ((c :: cs).drop s.length)
      | none => [.bad]

/-! ## Reading -/

/-- The operation of a sign between two numbers, and how closely it binds. -/
def operator? : String → Option (Operator × Nat)
  | "*" => some (.times, 8)
  | "/" => some (.quotient, 8)
  | "%" => some (.rest, 8)
  | "+" => some (.plus, 7)
  | "-" => some (.minus, 7)
  | "<<" => some (.left, 6)
  | ">>" => some (.right, 6)
  | "<" => some (.less, 5)
  | "<=" => some (.atMost, 5)
  | ">" => some (.more, 5)
  | ">=" => some (.atLeast, 5)
  | "==" => some (.equal, 4)
  | "!=" => some (.unequal, 4)
  | "&" => some (.bitAnd, 3)
  | "^" => some (.bitXor, 2)
  | "|" => some (.bitOr, 1)
  | _ => none

/-- The operation of an assignment's sign; plain assignment has none. -/
def assignment? : String → Option (Option Operator)
  | "=" => some none
  | "*=" => some (some .times)
  | "/=" => some (some .quotient)
  | "%=" => some (some .rest)
  | "+=" => some (some .plus)
  | "-=" => some (some .minus)
  | "<<=" => some (some .left)
  | ">>=" => some (some .right)
  | "&=" => some (some .bitAnd)
  | "^=" => some (some .bitXor)
  | "|=" => some (some .bitOr)
  | _ => none

/-- What a reader of tokens returns: an expression and the tokens behind it. -/
abbrev Reading := Except Fault (Expression × List Token)

/-- Reads operations that bind at least as closely as `level`, after their left operand; `operand`
    reads an operand. -/
def operationsWith (operand : List Token → Reading) : Nat → Nat → Expression → List Token → Reading
  | 0, _, a, ts => .ok (a, ts)
  | fuel + 1, level, a, ts =>
    match ts with
    | .sign s :: rest =>
      match operator? s with
      | some (o, own) =>
        if own < level then .ok (a, ts)
        else do
          let (b, rest) ← operand rest
          let (b, rest) ← operationsWith operand fuel (own + 1) b rest
          operationsWith operand fuel level (.operate o a b) rest
      | none => .ok (a, ts)
    | _ => .ok (a, ts)

/-- Reads an operand: a number, a variable or something in parentheses, with signs before it; `whole`
    reads what is in parentheses. -/
def operandWith (whole : List Token → Reading) : List Token → Reading
  | .number n :: ts => .ok (.number n, ts)
  | .name n :: ts => .ok (.variable_ n, ts)
  | .sign s :: ts =>
    match s with
    | "(" => do
      let (a, rest) ← whole ts
      match rest with
      | .sign ")" :: rest => .ok (a, rest)
      | _ => .error .expectsParenthesis
    | "+" => operandWith whole ts
    | "-" => (operandWith whole ts).map fun (a, rest) => (.turn .negate a, rest)
    | "~" => (operandWith whole ts).map fun (a, rest) => (.turn .complement a, rest)
    | "!" => (operandWith whole ts).map fun (a, rest) => (.turn .not a, rest)
    | _ => .error .expectsPrimary
  | _ => .error .expectsPrimary

/-- Reads parts with a sign between them, which bind to the right. -/
def chainWith (sign : String) (join : Expression → Expression → Expression)
    (part : List Token → Reading) : Nat → List Token → Reading
  | 0, _ => .error .expectsPrimary
  | fuel + 1, ts => do
    let (a, rest) ← part ts
    match rest with
    | .sign s :: after =>
      if s = sign then
        let (b, rest) ← chainWith sign join part fuel after
        .ok (join a b, rest)
      else .ok (a, rest)
    | _ => .ok (a, rest)

/-- Reads an expression without an assignment in front; `whole` reads one that may have one. -/
def choiceWith (whole : List Token → Reading) : Nat → List Token → Reading
  | 0, _ => .error .expectsPrimary
  | fuel + 1, ts => do
    let operand := operandWith whole
    let binary (ts : List Token) : Reading := do
      let (a, rest) ← operand ts
      operationsWith operand (ts.length + 1) 0 a rest
    let conjunction := chainWith "&&" .both binary (ts.length + 1)
    let (a, rest) ← chainWith "||" .either conjunction (ts.length + 1) ts
    match rest with
    | .sign "?" :: rest =>
      let (b, rest) ← whole rest
      match rest with
      | .sign ":" :: rest =>
        let (c, rest) ← choiceWith whole fuel rest
        .ok (.choose a b c, rest)
      | _ => .error .expectsColon
    | _ => .ok (a, rest)

/-- Reads an expression. -/
def wholeFrom : Nat → List Token → Reading
  | 0, _ => .error .expectsPrimary
  | fuel + 1, ts =>
    match ts with
    | .name n :: .sign s :: rest =>
      match assignment? s with
      | some o => (wholeFrom fuel rest).map fun (a, rest) => (.assign n o a, rest)
      | none => choiceWith (wholeFrom fuel) (fuel + 1) ts
    | _ => choiceWith (wholeFrom fuel) (fuel + 1) ts

/-- Reads an expression and nothing else. -/
def read (text : Bytes) : Except Fault Expression := do
  let ts := tokens (text.length + 1) text
  let (a, rest) ← wholeFrom (ts.length + 1) ts
  if rest = [] then .ok a else .error .expectsEnd

/-! ## Evaluating -/

/-- What happens to variables while an expression is evaluated: how they are read and written. -/
structure Access (m : Type → Type) where
  value : Bytes → m Int64
  store : Bytes → Int64 → m Unit
  fail : Fault → m Int64

/-- A truth value as a number. -/
def ofBool (b : Bool) : Int64 := if b then 1 else 0

/-- The result of an operation; `none` for a division by zero. -/
def Operator.apply? (a b : Int64) : Operator → Option Int64
  | times => some (a * b)
  | quotient => if b = 0 then none else some (a / b)
  | rest => if b = 0 then none else some (a % b)
  | plus => some (a + b)
  | minus => some (a - b)
  | left => some (a <<< b)
  | right => some (a >>> b)
  | less => some (ofBool (a < b))
  | atMost => some (ofBool (a ≤ b))
  | more => some (ofBool (b < a))
  | atLeast => some (ofBool (b ≤ a))
  | equal => some (ofBool (a = b))
  | unequal => some (ofBool (a ≠ b))
  | bitAnd => some (a &&& b)
  | bitXor => some (a ^^^ b)
  | bitOr => some (a ||| b)

/-- The result of an operation on one number. -/
def Turn.apply (a : Int64) : Turn → Int64
  | negate => -a
  | complement => ~~~a
  | not => ofBool (a = 0)

/-- The value of an expression. -/
def evaluate {m : Type → Type} [Monad m] (v : Access m) : Expression → m Int64
  | .number n => return n
  | .variable_ name => v.value name
  | .turn t a => return t.apply (← evaluate v a)
  | .operate o a b => do
    let x ← evaluate v a
    let y ← evaluate v b
    match o.apply? x y with
    | some z => return z
    | none => v.fail .divisionByZero
  | .both a b => do
    if (← evaluate v a) = 0 then return 0 else return ofBool ((← evaluate v b) ≠ 0)
  | .either a b => do
    if (← evaluate v a) ≠ 0 then return 1 else return ofBool ((← evaluate v b) ≠ 0)
  | .choose c a b => do
    if (← evaluate v c) ≠ 0 then evaluate v a else evaluate v b
  | .assign name none a => do
    let x ← evaluate v a
    v.store name x
    return x
  | .assign name (some o) a => do
    let y ← evaluate v a
    let x ← v.value name
    match o.apply? x y with
    | some z =>
      v.store name z
      return z
    | none => v.fail .divisionByZero

/-- The text of a number. -/
def text (n : Int64) : Bytes := (Decimal.intText n.toInt).toList

end SessionControl.Shell.Arithmetic
