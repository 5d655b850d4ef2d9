import SessionControl.NameMap

set_option autoImplicit false

/-! # Laws of maps from names

A map is determined by which entries it has, in whatever order they are told: building one from its
own entries in any order gives it back. Changing all values of a map commutes with adding and
removing entries. So whoever makes a map by going through another one need not ask in which order
that is done (`Iteration`). -/

namespace SessionControl.NameMap

variable {α β : Type}

/-! ## Entries in any order -/

theorem ext_entries {m n : NameMap α} (h : m.entries = n.entries) : m = n := by
  cases m
  cases n
  congr

/-- Maps with the same entries are the same, since both keep them in order. -/
theorem ext_of_perm {m n : NameMap α} (h : m.entries.Perm n.entries) : m = n := by
  refine ext_entries (h.eq_of_pairwise ?_ m.sorted n.sorted)
  intro a b _ _ hab hba
  exact absurd hba (String.lt_asymm hab)

/-- An entry with a new key is added to those that are there. -/
theorem insertEntry_perm {key : String} {x : α} {es : List (String × α)}
    (h : ∀ e ∈ es, e.1 ≠ key) : (insertEntry key x es).Perm ((key, x) :: es) := by
  induction es with
  | nil => rfl
  | cons e rest ih =>
      have hne : ¬key = e.1 := fun heq => h e List.mem_cons_self heq.symm
      simp only [insertEntry, if_neg hne]
      split
      · rfl
      · have hrest := ih fun e' he' => h e' (List.mem_cons_of_mem e he')
        exact (hrest.cons e).trans (.swap (key, x) e rest)

theorem foldl_insert_perm {es : List (String × α)} {m : NameMap α}
    (hkeys : es.Pairwise fun a b => a.1 ≠ b.1)
    (hnew : ∀ e ∈ es, ∀ e' ∈ m.entries, e'.1 ≠ e.1) :
    (es.foldl (fun m e => m.insert e.1 e.2) m).entries.Perm (es ++ m.entries) := by
  induction es generalizing m with
  | nil => rfl
  | cons e rest ih =>
      obtain ⟨hfirst, hrest⟩ := List.pairwise_cons.mp hkeys
      have hinsert := insertEntry_perm (x := e.2) (hnew e List.mem_cons_self)
      refine (ih hrest fun e' he' f hf => ?_).trans ?_
      · rcases mem_insertEntry hf with rfl | hf
        · exact hfirst e' he'
        · exact hnew e' (List.mem_cons_of_mem e he') f hf
      · exact (hinsert.append_left rest).trans List.perm_middle

theorem entries_ofEntries {es : List (String × α)} (hkeys : es.Pairwise fun a b => a.1 ≠ b.1) :
    (ofEntries es).entries.Perm es := by
  have hperm := foldl_insert_perm (m := empty) hkeys fun _ _ _ hmem => nomatch hmem
  rw [show (empty : NameMap α).entries = [] from rfl, List.append_nil] at hperm
  exact hperm

/-- The order in which the entries of a map are told does not matter. -/
theorem ofEntries_of_perm {es : List (String × α)} {m : NameMap α} (h : es.Perm m.entries) :
    ofEntries es = m := by
  have hkeys : m.entries.Pairwise fun a b => a.1 ≠ b.1 := by
    refine m.sorted.imp fun hlt heq => ?_
    rw [heq] at hlt
    exact String.lt_irrefl _ hlt
  have hes : es.Pairwise fun a b => a.1 ≠ b.1 :=
    h.symm.pairwise hkeys fun hne heq => hne heq.symm
  exact ext_of_perm ((entries_ofEntries hes).trans h)

/-! ## Keys -/

theorem get?_eq_none_iff {m : NameMap α} {key : String} :
    m.get? key = none ↔ ∀ e ∈ m.entries, e.1 ≠ key := by
  unfold get?
  rw [Option.map_eq_none_iff, List.find?_eq_none]
  simp only [decide_eq_true_eq, ne_eq]

/-! ## The last entry of a name -/

@[simp, grind =] theorem get?_insert (m : NameMap α) (key key' : String) (x : α) :
    (m.insert key x).get? key' = if key = key' then some x else m.get? key' := by
  unfold get? insert
  simp only
  induction m.entries with
  | nil => by_cases h : key = key' <;> simp [insertEntry, h]
  | cons e rest ih =>
      simp only [insertEntry]
      split
      · by_cases h : key = key' <;> simp [h]
      · split
        · next heq =>
            by_cases h : key = key'
            · simp [h]
            · have hne : ¬e.1 = key' := fun he => h (heq.trans he)
              simp [h, hne]
        · next hne =>
            by_cases he : e.1 = key'
            · have hkey : ¬key = key' := fun h => hne (h.trans he.symm)
              simp [he, hkey]
            · simp only [List.find?_cons, he, decide_false]
              exact ih

/-- What a list of entries gives a name last. -/
def lastOf (es : List (String × α)) (key : String) : Option α :=
  ((es.filter fun e => e.1 = key).getLast?).map (·.2)

@[grind =] theorem lastOf_cons (e : String × α) (es : List (String × α)) (key : String) :
    lastOf (e :: es) key = (lastOf es key).or (if e.1 = key then some e.2 else none) := by
  unfold lastOf
  rw [List.filter_cons]
  by_cases h : e.1 = key
  · rw [if_pos (decide_eq_true h), if_pos h, List.getLast?_cons]
    cases (es.filter fun e => e.1 = key).getLast? <;> rfl
  · rw [if_neg (by simpa using h), if_neg h, Option.or_none]

/-- The entries behind the last one of a name do not count. -/
theorem lastOf_append_cons {before after : List (String × α)} {key : String} {x : α}
    (hlast : ∀ e ∈ after, e.1 ≠ key) : lastOf (before ++ (key, x) :: after) key = some x := by
  have hafter : after.filter (fun e => decide (e.1 = key)) = [] := by
    rw [List.filter_eq_nil_iff]
    intro e he
    simpa using hlast e he
  unfold lastOf
  simp [hafter]

theorem exists_lastOf_iff {es : List (String × α)} {key : String} :
    (∃ x, lastOf es key = some x) ↔ ∃ x, (key, x) ∈ es := by
  constructor
  · rintro ⟨x, hx⟩
    obtain ⟨⟨key', x'⟩, he, rfl⟩ := Option.map_eq_some_iff.mp hx
    obtain ⟨hmem, hkey⟩ := List.mem_filter.mp (List.mem_of_getLast? he)
    cases of_decide_eq_true hkey
    exact ⟨x', hmem⟩
  · rintro ⟨x, hx⟩
    have hne : es.filter (fun e => decide (e.1 = key)) ≠ [] :=
      List.ne_nil_of_mem (List.mem_filter.mpr ⟨hx, decide_eq_true rfl⟩)
    unfold lastOf
    rw [List.getLast?_eq_some_getLast hne]
    exact ⟨_, rfl⟩

theorem get?_foldl_insert (es : List (String × α)) (m : NameMap α) (key : String) :
    (es.foldl (fun m e => m.insert e.1 e.2) m).get? key = (lastOf es key).or (m.get? key) := by
  induction es generalizing m with
  | nil => rfl
  | cons e rest ih =>
      rw [List.foldl_cons, ih, lastOf_cons, get?_insert, Option.or_assoc]
      split <;> rfl

/-- A map that is built entry by entry has the last one of each name. -/
@[simp, grind =] theorem get?_ofEntries (es : List (String × α)) (key : String) :
    (ofEntries es).get? key = lastOf es key :=
  (get?_foldl_insert es empty key).trans Option.or_none

@[simp, grind =] theorem mem_entries_iff {m : NameMap α} {key : String} {x : α} :
    (key, x) ∈ m.entries ↔ m.get? key = some x := by
  obtain ⟨entries, sorted⟩ := m
  unfold get?
  simp only
  induction entries with
  | nil => simp
  | cons e rest ih =>
      obtain ⟨hfirst, hrest⟩ := List.pairwise_cons.mp sorted
      obtain ⟨key', x'⟩ := e
      by_cases h : key' = key
      · subst h
        have hother : (key', x) ∉ rest := fun hmem => String.lt_irrefl key' (hfirst (key', x) hmem)
        simp [hother, eq_comm]
      · simp only [List.mem_cons, List.find?_cons, h, decide_false, ← ih hrest, Prod.mk.injEq,
          false_and, false_or, show ¬key = key' from fun he => h he.symm]

/-- Maps that give the same value to each name are the same. -/
@[ext] theorem ext_get? {m n : NameMap α} (h : ∀ key, m.get? key = n.get? key) : m = n := by
  have hnodup : ∀ k : NameMap α, k.entries.Nodup := by
    intro k
    refine k.sorted.imp fun hlt heq => ?_
    rw [heq] at hlt
    exact String.lt_irrefl _ hlt
  refine ext_of_perm ((List.perm_ext_iff_of_nodup (hnodup m) (hnodup n)).mpr ?_)
  rintro ⟨key, x⟩
  rw [mem_entries_iff, mem_entries_iff, h]

/-! ## Removal -/

/-- The map without a key. -/
def erase (m : NameMap α) (key : String) : NameMap α :=
  ⟨m.entries.filter fun e => e.1 ≠ key, m.sorted.filter _⟩

/-! ## Changing all values -/

/-- The map with the same keys, its values changed. -/
def map (f : α → β) (m : NameMap α) : NameMap β :=
  ⟨m.entries.map fun e => (e.1, f e.2), m.sorted.map _ fun _ _ h => h⟩

@[simp] theorem map_insert (f : α → β) (m : NameMap α) (key : String) (x : α) :
    (m.insert key x).map f = (m.map f).insert key (f x) := by
  refine ext_entries ?_
  show (insertEntry key x m.entries).map _ = insertEntry key (f x) (m.entries.map _)
  induction m.entries with
  | nil => rfl
  | cons e rest ih =>
      simp only [insertEntry, List.map_cons]
      split
      · rfl
      · split
        · rfl
        · exact congrArg ((e.1, f e.2) :: ·) ih

@[simp] theorem map_erase (f : α → β) (m : NameMap α) (key : String) :
    (m.erase key).map f = (m.map f).erase key := by
  refine ext_entries ?_
  show (m.entries.filter _).map _ = (m.entries.map _).filter _
  rw [List.filter_map]
  rfl

@[simp, grind =] theorem get?_map (f : α → β) (m : NameMap α) (key : String) :
    (m.map f).get? key = (m.get? key).map f := by
  unfold get? map
  rw [List.find?_map, Option.map_map, Option.map_map]
  rfl

@[simp] theorem size_map (f : α → β) (m : NameMap α) : (m.map f).size = m.size :=
  List.length_map _

@[simp] theorem map_ofEntries (f : α → β) (es : List (String × α)) :
    (ofEntries es).map f = ofEntries (es.map fun e => (e.1, f e.2)) := by
  have hfold : ∀ m : NameMap α, (es.foldl (fun m e => m.insert e.1 e.2) m).map f =
      (es.map fun e => (e.1, f e.2)).foldl (fun m e => m.insert e.1 e.2) (m.map f) := by
    induction es with
    | nil => exact fun m => rfl
    | cons e rest ih =>
        intro m
        rw [List.foldl_cons, ih, map_insert]
        rfl
  exact hfold empty

/-! ## Orders of iteration -/

theorem mem_ofEntries_iff {es : List (String × α)} {key : String} {x : α} :
    (key, x) ∈ (ofEntries es).entries ↔ lastOf es key = some x := by
  simp

theorem nodup_keys (m : NameMap α) : (m.entries.map (·.1)).Nodup := by
  refine List.pairwise_map.mpr (m.sorted.imp fun hlt heq => ?_)
  rw [heq] at hlt
  exact String.lt_irrefl _ hlt

/-- A way to go through maps that do not keep their entries in order, such as hashed ones: all
    entries are told, in an order that nothing is known of. -/
structure Iteration (α : Type) where
  order : NameMap α → List (String × α)
  perm (m : NameMap α) : (order m).Perm m.entries

namespace Iteration

/-- Goes through the entries in the order of their keys. -/
def byName : Iteration α := ⟨entries, fun _ => .refl _⟩

/-- A map that is made by going through another one does not show the order. -/
theorem ofEntries_map_order (i : Iteration α) (f : α → β) (m : NameMap α) :
    ofEntries ((i.order m).map fun e => (e.1, f e.2)) = m.map f :=
  ofEntries_of_perm ((i.perm m).map _)

end Iteration
end SessionControl.NameMap
