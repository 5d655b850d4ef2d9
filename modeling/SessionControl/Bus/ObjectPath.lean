set_option autoImplicit false

/-! # Object paths

The address of an object on the bus: either the root `/`, or nonempty elements of letters, digits
and underscores, each behind a slash. -/

namespace SessionControl.Bus

namespace ObjectPath

/-! ## Which texts are paths -/

/-- A character that an element may hold: an ASCII letter or digit, or an underscore. -/
def isElementChar (c : Char) : Bool :=
  ('A' ≤ c && c ≤ 'Z') || ('a' ≤ c && c ≤ 'z') || ('0' ≤ c && c ≤ '9') || c = '_'

/-- Whether the rest of a path is in order; `inElement` says that the current element already has a
    character, so that it may end here. -/
def elementsValid (inElement : Bool) : List Char → Bool
  | [] => inElement
  | c :: cs =>
    if c = '/' then inElement && elementsValid false cs
    else isElementChar c && elementsValid true cs

/-- Whether a sequence of characters is a path. -/
def isValid : List Char → Bool
  | ['/'] => true
  | '/' :: cs => elementsValid false cs
  | _ => false

end ObjectPath

/-- An object path. -/
structure ObjectPath where
  text : String
  valid : ObjectPath.isValid text.toList = true
  deriving DecidableEq, Repr

namespace ObjectPath

/-- The path with the given text, if the text is one. -/
def ofText? (text : String) : Option ObjectPath :=
  if h : isValid text.toList = true then some ⟨text, h⟩ else none

/-- What is said of a text that is no path. -/
def complaint (text : String) : String := "Object path was not valid: '" ++ text ++ "'"

/-! ## Elements -/

/-- The characters after the last slash, all of them if there is none. -/
def lastElement (text : String) : String :=
  String.ofList (text.toList.reverse.takeWhile (· ≠ '/')).reverse

theorem text_of_ofText? {s : String} {p : ObjectPath} (h : ofText? s = some p) : p.text = s := by
  unfold ofText? at h
  split at h
  · exact (Option.some.inj h) ▸ rfl
  · exact absurd h (by simp)

end ObjectPath
end SessionControl.Bus
