import SessionControl.CommandLine.Grammar
import SessionControl.Text.Similarity

set_option autoImplicit false

/-! # Matching words to a grammar

The words of a command line are read from left to right. A word behind dashes is an option, unless
the option before it still waits for a value that may begin with a dash; all other words are values
or positional words. After a bare `--` every word is positional. When all words are read, the whole
is checked: no option without its value, no conflict, nothing missing, every value readable, and no
option given twice. -/

namespace SessionControl.CommandLine

/-! ## What has been read -/

/-- The options and words read so far. -/
structure Matches where
  /-- The long names of the options, once for each occurrence. -/
  occurrences : List String := []
  /-- Values with the long names of their options. -/
  values : List (String × String) := []
  positionals : List String := []

namespace Matches

/-- Whether an option occurred. -/
def has (m : Matches) (long : String) : Bool := m.occurrences.contains long

/-- The values of an option. -/
def valuesOf (m : Matches) (long : String) : List String :=
  (m.values.filter fun v => v.1 = long).map (·.2)

/-- The first value of an option. -/
def value? (m : Matches) (long : String) : Option String := (m.valuesOf long).head?

def addOccurrence (m : Matches) (long : String) : Matches :=
  { m with occurrences := m.occurrences ++ [long] }

def addValue (m : Matches) (long value : String) : Matches :=
  { m with values := m.values ++ [(long, value)] }

def addPositional (m : Matches) (word : String) : Matches :=
  { m with positionals := m.positionals ++ [word] }

end Matches

/-- What the last option leaves open. -/
inductive Pending
  /-- Nothing is open. -/
  | nothing
  /-- The value of an option is still to come. -/
  | value (option : OptionSpec)
  /-- An option has just had its value. -/
  | settled

/-- The state between two words. -/
structure Progress where
  found : Matches := {}
  pending : Pending := .nothing
  /-- Whether a bare `--` has been read. -/
  onlyPositionals : Bool := false

/-! ## Options -/

/-- Reads an option that takes a value; `attached` is the text glued to it. Any number of equals
    signs may stand between the two. -/
def Progress.option (p : Progress) (o : OptionSpec) (attached : Option (List Char)) : Progress :=
  let found := p.found.addOccurrence o.long
  match attached with
  | some cs =>
    { p with
      found := found.addValue o.long (String.ofList (cs.dropWhile (· = '=')))
      pending := .settled }
  | none => { p with found, pending := .value o }

/-- Reads an option without a value. -/
def Progress.switch (p : Progress) (o : OptionSpec) : Progress :=
  { p with found := p.found.addOccurrence o.long, pending := .nothing }

/-- Reads a word behind two or more dashes. A value attached to a switch is passed over. -/
def Progress.longWord (g : Grammar) (p : Progress) (cs : List Char) : Except Refusal Progress :=
  let body := cs.dropWhile (· = '-')
  let name := body.takeWhile (· ≠ '=')
  let rest := body.dropWhile (· ≠ '=')
  match g.ofLong? name with
  | some o =>
    if o.takesValue then .ok (p.option o (if rest = [] then none else some rest))
    else .ok (p.switch o)
  | none =>
    if name = "help".toList then .error .help
    else if name = "version".toList then .error (.version g.title)
    else .error .unknownArgument

/-- Reads the characters behind one dash: switches, until an option takes what remains as its
    value. -/
def Progress.shortWord (g : Grammar) (p : Progress) : List Char → Except Refusal Progress
  | [] => .ok p
  | c :: cs =>
    match g.ofShort? c with
    | some o =>
      if o.takesValue then .ok (p.option o (if cs = [] then none else some cs))
      else shortWord g (p.switch o) cs
    | none =>
      if c = 'h' then .error .help
      else if c = 'V' then .error (.version g.title)
      else .error .unknownArgument

/-! ## Words -/

/-- Whether a word looks like an option: a lone dash does not. -/
def looksLikeOption : List Char → Bool
  | '-' :: _ :: _ => true
  | _ => false

/-- Whether a word begins something new, and is not a value that an option waits for. -/
def Pending.startsNew (p : Pending) (cs : List Char) : Bool :=
  match p with
  | .nothing => looksLikeOption cs
  | .value o => !o.allowsDash && looksLikeOption cs
  | .settled => true

/-- How similar a word must be to a command to be taken for a misspelling of it. -/
def misspellingThreshold : Float := 0.8

/-- Whether a word resembles one of the commands. -/
def resembles (commands : List String) (word : String) : Bool :=
  commands.any fun c => Text.similarity word c > misspellingThreshold

/-- Reads a positional word. -/
def Progress.positionalWord (g : Grammar) (p : Progress) (word : String) :
    Except Refusal Progress :=
  if resembles g.commands word then .error .misspelledCommand
  else if g.hasRoom p.found.positionals.length then
    .ok { p with found := p.found.addPositional word }
  else .error .unknownArgument

/-- Reads one word. -/
def Progress.word (g : Grammar) (p : Progress) (word : String) : Except Refusal Progress :=
  let cs := word.toList
  if p.onlyPositionals then p.positionalWord g word
  else if p.pending.startsNew cs then
    match cs with
    | ['-', '-'] => .ok { p with onlyPositionals := true }
    | '-' :: '-' :: _ => p.longWord g cs
    | '-' :: c :: rest => p.shortWord g (c :: rest)
    | _ => p.positionalWord g word
  else
    match p.pending with
    | .value o =>
      .ok { p with found := p.found.addValue o.long word, pending := .settled }
    | _ => p.positionalWord g word

/-- Whether a command may stand here: not as the value of an option, nor after `--`. -/
def Progress.mayBeCommand (p : Progress) : Bool :=
  !p.onlyPositionals &&
    match p.pending with
    | .value _ => false
    | _ => true

/-- Reads words up to a command, which is returned with the words behind it. -/
def Progress.words (g : Grammar) (p : Progress) :
    List String → Except Refusal (Progress × Option (String × List String))
  | [] => .ok (p, none)
  | w :: rest =>
    if p.mayBeCommand && g.commands.contains w then .ok (p, some (w, rest))
    else
      match p.word g w with
      | .ok p => words g p rest
      | .error r => .error r

/-! ## Checking the whole -/

/-- Checks that the required word is there. -/
def Matches.checkRequired (g : Grammar) (m : Matches) : Except Refusal Unit :=
  if g.positional = .required ∧ m.positionals = [] then .error .missingWord else .ok ()

/-- Checks that no value is left open at the end. -/
def Progress.checkPending (g : Grammar) (p : Progress) : Except Refusal Unit :=
  match p.pending with
  | .value o => do
    p.found.checkRequired g
    if p.found.valuesOf o.long = [] then .error .missingValue
  | _ => .ok ()

/-- Checks that options which exclude each other do not occur together. -/
def Matches.checkConflicts (g : Grammar) (m : Matches) : Except Refusal Unit :=
  if g.conflicts.any fun (a, b) => m.has a && m.has b then .error .conflict else .ok ()

/-- Checks one option that occurred. -/
def Matches.checkOption (g : Grammar) (m : Matches) (long : String) : Except Refusal Unit :=
  match g.ofLong? long.toList with
  | none => .ok ()
  | some o =>
    let values := m.valuesOf long
    if o.takesValue ∧ values = [] then .error .missingValue
    else if !values.all o.readable then .error .unreadableValue
    else if 1 < m.occurrences.count long then .error .repeated
    else .ok ()

/-- Checks every option that occurred, in the order of their first occurrence. -/
def Matches.checkOptions (g : Grammar) (m : Matches) : List String → Except Refusal Unit
  | [] => .ok ()
  | long :: rest => do
    m.checkOption g long
    checkOptions g m rest

/-- Checks everything that can only be told at the end. -/
def Progress.check (g : Grammar) (p : Progress) : Except Refusal Unit := do
  p.checkPending g
  p.found.checkConflicts g
  p.found.checkRequired g
  p.found.checkOptions g p.found.occurrences

/-- Matches all words to a grammar without commands. -/
def Grammar.match (g : Grammar) (words : List String) : Except Refusal Matches := do
  let (p, _) ← Progress.words g {} words
  p.check g
  return p.found

end SessionControl.CommandLine
