set_option autoImplicit false

/-! # Maps from names

Finite maps whose keys are texts, kept in strictly increasing order of the keys, so that equal maps
are equal as values and listing one needs no sorting. Texts are ordered by code points, which for
UTF-8 is also the order of their bytes. -/

namespace SessionControl

/-- A finite map from texts. -/
structure NameMap (α : Type) where
  /-- The entries, in increasing order of their keys. -/
  entries : List (String × α)
  sorted : entries.Pairwise fun a b => a.1 < b.1

namespace NameMap

variable {α : Type}

/-! ## Strict order of texts -/

theorem lt_of_not_lt_of_ne {a b : String} (h : ¬ a < b) (hne : a ≠ b) : b < a := by
  have hle : b ≤ a := String.not_lt.1 h
  rcases Decidable.em (b < a) with hlt | hlt
  · exact hlt
  · exact absurd (String.le_antisymm (String.not_lt.1 hlt) hle) hne

/-! ## Insertion -/

/-- Puts an entry into a sorted list, in place of one with the same key. -/
def insertEntry (key : String) (x : α) : List (String × α) → List (String × α)
  | [] => [(key, x)]
  | e :: rest =>
    if key < e.1 then (key, x) :: e :: rest
    else if key = e.1 then (key, x) :: rest
    else e :: insertEntry key x rest

theorem mem_insertEntry {key : String} {x : α} {es : List (String × α)} {e : String × α}
    (h : e ∈ insertEntry key x es) : e = (key, x) ∨ e ∈ es := by
  induction es with
  | nil => simpa [insertEntry] using h
  | cons e' rest ih =>
    simp only [insertEntry] at h
    split at h
    · simpa using h
    · split at h
      · rcases List.mem_cons.1 h with h | h
        · exact Or.inl h
        · exact Or.inr (List.mem_cons_of_mem _ h)
      · rcases List.mem_cons.1 h with h | h
        · exact Or.inr (h ▸ List.mem_cons_self)
        · rcases ih h with h | h
          · exact Or.inl h
          · exact Or.inr (List.mem_cons_of_mem _ h)

theorem sorted_insertEntry (key : String) (x : α) {es : List (String × α)}
    (h : es.Pairwise fun a b => a.1 < b.1) :
    (insertEntry key x es).Pairwise fun a b => a.1 < b.1 := by
  induction es with
  | nil => simp [insertEntry]
  | cons e rest ih =>
    obtain ⟨first, tail⟩ := List.pairwise_cons.1 h
    simp only [insertEntry]
    split
    · next hlt =>
      refine List.pairwise_cons.2 ⟨?_, h⟩
      intro e' he'
      rcases List.mem_cons.1 he' with rfl | he'
      · exact hlt
      · exact String.lt_trans hlt (first e' he')
    · split
      · next heq =>
        refine List.pairwise_cons.2 ⟨?_, tail⟩
        intro e' he'
        exact heq ▸ first e' he'
      · next hlt hne =>
        refine List.pairwise_cons.2 ⟨?_, ih tail⟩
        intro e' he'
        rcases mem_insertEntry he' with rfl | he'
        · exact lt_of_not_lt_of_ne hlt hne
        · exact first e' he'

/-! ## Operations -/

/-- The map without entries. -/
def empty : NameMap α := ⟨[], .nil⟩

/-- Adds an entry, in place of one with the same key. -/
def insert (m : NameMap α) (key : String) (x : α) : NameMap α :=
  ⟨insertEntry key x m.entries, sorted_insertEntry key x m.sorted⟩

/-- The map of a list of entries; of equal keys the last one stays. -/
def ofEntries (es : List (String × α)) : NameMap α :=
  es.foldl (fun m e => m.insert e.1 e.2) empty

/-- The value at a key. -/
def get? (m : NameMap α) (key : String) : Option α :=
  (m.entries.find? fun e => e.1 = key).map (·.2)

/-- How many keys the map has. -/
def size (m : NameMap α) : Nat := m.entries.length

end NameMap
end SessionControl
