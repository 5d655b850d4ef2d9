import SessionControl.Programs.Condition
import SessionControl.Programs.Format
import SessionControl.Programs.Tool

set_option autoImplicit false

/-! # Programs that answer

Programs that look at nothing but their words, and at most at what a path leads to: they print
something, or only succeed or fail. -/

namespace SessionControl.Programs

open Machine (Process Work Fate)
open Tool

namespace Answering

/-- Ends with a code, whatever the words. -/
def always (code : Nat) : Tool := fun _ => exit code

def echo : Tool := fun p => answer p (Echo.output p.arguments)

def printf : Tool := fun p =>
  let words := if p.arguments.head? = some ['-', '-'] then p.arguments.tail else p.arguments
  match words with
  | [] => misused p 1 "missing operand".toList
  | format :: words => do
    let progress := Format.print .program format words
    progress.pieces.forM fun piece =>
      match piece with
      | .ok bytes => say p bytes
      | .error text => complain p text
    exit progress.code

/-- A condition, which ends with a bracket if it begins with one. -/
def test (bracket : Bool) : Tool := fun p => do
  let disk := (← get).disk
  let ask (words : List Bytes) : Work Fate := do
    let verdict := Condition.holds { disk, here := p.here } words
    match verdict with
    | .error f => complain p f.message
    | .ok _ => pure ()
    exit (Condition.code verdict)
  if bracket then
    if p.arguments.getLast? = some [']'] then ask p.arguments.dropLast
    else refuse p 2 "missing ']'".toList
  else ask p.arguments

/-- How many bytes are written to somebody who does not read on. -/
def patience : Nat := 131072

/-- Writes a line again and again, until nobody wants to have it any more. -/
def yes : Tool := fun p => do
  let words := if p.arguments = [] then [['y']] else p.arguments
  let text := List.intercalate [' '] words ++ ['\n']
  say p (List.replicate (patience / text.length + 1) text).flatten
  return .killed Machine.Signal.pipe

/-- The name of the user. -/
def userName : Bytes := "root".toList

def whoAmI : Tool := fun p => answer p (userName ++ ['\n'])

/-- The numbers and names of the user and its groups. -/
def identity : Tool := withOptions { plain := "ugGnrz", long := [("user", 'u'), ("group", 'g'),
    ("groups", 'G'), ("name", 'n'), ("real", 'r')] } 1 fun p a =>
  if a.has 'u' ∨ a.has 'g' ∨ a.has 'G' then
    answer p (if a.has 'n' then userName ++ ['\n'] else "0\n".toList)
  else answer p "uid=0(root) gid=0(root) groups=0(root)\n".toList

/-- The name of the system and of its machine. -/
def systemName : Tool := withOptions { plain := "somipnrva" } 1 fun p a =>
  let part (letter : Char) (name : String) : List Bytes := if a.has letter then [name.toList] else []
  let chosen := part 's' "Linux" ++ part 'm' "x86_64" ++ part 'o' "GNU/Linux"
  let shown := if a.options.isEmpty then ["Linux".toList] else chosen
  answer p (List.intercalate [' '] shown ++ ['\n'])

/-- Tells the terminal on standard input, which there is none. -/
def terminal : Tool := withOptions { plain := "s" } 2 fun p a => do
  if !a.has 's' then say p "not a tty\n".toList
  exit 1

end Answering
end SessionControl.Programs
