set_option autoImplicit false

/-! # Similarity of words

The Jaro–Winkler measure of two words, between zero and one. Two characters match if they are equal
and not further apart than half the longer word; the Jaro measure averages the matched share of both
words and the share of matches that stand in the same order, and a shared beginning, however long,
raises it by a tenth of the remaining distance for each character. -/

namespace SessionControl.Text

/-- How the characters of one word matched another. -/
structure Matching where
  /-- Which characters of the other word are taken. -/
  taken : Array Bool
  /-- The position that was matched last. -/
  last : Nat := 0
  matched : Nat := 0
  transposed : Nat := 0

/-- The first free position from `low` to `high` of `word` that holds `c`. -/
def findFree (word : Array Char) (taken : Array Bool) (c : Char) (low high : Nat) : Option Nat :=
  (List.range' low (high + 1 - low)).find? fun j => word[j]? = some c && taken[j]? = some false

/-- Matches the character `c` at position `i` against `word`. -/
def Matching.step (word : Array Char) (range : Nat) (m : Matching) (c : Char) (i : Nat) :
    Matching :=
  let high := min (word.size - 1) (i + range)
  match findFree word m.taken c (i - range) high with
  | none => m
  | some j =>
    { taken := m.taken.setIfInBounds j true
      last := j
      matched := m.matched + 1
      transposed := if j < m.last then m.transposed + 1 else m.transposed }

/-- The Jaro measure. -/
def jaro (a b : String) : Float :=
  let first := a.toList
  let second := b.toList.toArray
  let long := max first.length second.size
  if first.isEmpty && second.isEmpty then 1.0
  else if first.isEmpty || second.isEmpty then 0.0
  else if first.length = 1 && second.size = 1 then
    if second[0]? = first.head? then 1.0 else 0.0
  else
    let start : Matching := { taken := Array.replicate second.size false }
    let m := first.zipIdx.foldl (fun m (c, i) => m.step second (long / 2 - 1) c i) start
    if m.matched = 0 then 0.0
    else
      let matched := m.matched.toFloat
      (1.0 / 3.0) *
        (matched / first.length.toFloat + matched / second.size.toFloat
          + (matched - m.transposed.toFloat) / matched)

/-- How many characters two words share at their beginning. -/
def sharedBeginning : List Char → List Char → Nat
  | a :: as, b :: bs => if a = b then sharedBeginning as bs + 1 else 0
  | _, _ => 0

/-- The Jaro–Winkler measure. -/
def similarity (a b : String) : Float :=
  let base := jaro a b
  let shared := (sharedBeginning a.toList b.toList).toFloat
  let raised := base + 0.1 * shared * (1.0 - base)
  if raised ≤ 1.0 then raised else 1.0

end SessionControl.Text
