import SessionControl.Text.Visible

set_option autoImplicit false

/-! # Quoted text

Text between double quotes, as it is shown to a person: quotes, backslashes and the common control
characters are escaped by a backslash, every other character that is not visible by its code point
in hexadecimal. -/

namespace SessionControl.Text

/-- A digit of base sixteen, in lower case. -/
def hexDigit (d : Nat) : Char :=
  if d < 10 then Char.ofNat (48 + d) else Char.ofNat (87 + d % 16)

/-- The hexadecimal digits of `n`, most significant first. -/
def hexDigits (n : Nat) : List Char :=
  if n < 16 then [hexDigit n] else hexDigits (n / 16) ++ [hexDigit (n % 16)]
termination_by n
decreasing_by omega

/-- A character as it stands inside quotes. -/
def escape (c : Char) : List Char :=
  if c = '\x00' then ['\\', '0']
  else if c = '\t' then ['\\', 't']
  else if c = '\n' then ['\\', 'n']
  else if c = '\r' then ['\\', 'r']
  else if c = '"' then ['\\', '"']
  else if c = '\\' then ['\\', '\\']
  else if isVisible c then [c]
  else '\\' :: 'u' :: '\x7b' :: hexDigits c.toNat ++ ['\x7d']

/-- All characters of a text as they stand inside quotes. -/
def escapeAll (cs : List Char) : List Char := cs.flatMap escape

/-- A text between quotes. -/
def quote (text : String) : String :=
  String.ofList ('"' :: escapeAll text.toList ++ ['"'])

/-- A list of texts, each between quotes. -/
def quoteList (texts : List String) : String :=
  "[" ++ ", ".intercalate (texts.map quote) ++ "]"

end SessionControl.Text
