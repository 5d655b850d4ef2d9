import SessionControl.Client.PropertyValue

set_option autoImplicit false

/-! # Values that their display tells apart

A text is displayed as it is, so it can look like any other value. Different values without texts
and levels look different (`display_eq_iff`), although lists of all depths and lengths are written
with the same brackets and commas. A number or a word ends where a comma or a closing bracket comes,
and a list ends at its own bracket: a value tells where it ends whatever stands behind it, as long
as that does not carry on a word (`Textless.tellsItself`). -/

namespace SessionControl.Decimal

/-! ## Digits -/

theorem isDigit_of_mem_digits {n : Nat} {c : Char} (hc : c ∈ digits n) : c.isDigit = true :=
  List.all_eq_true.mp (all_isDigit_digits n) c hc

theorem digits_ne_cons {n : Nat} {c : Char} (hc : c.isDigit = false) (cs : List Char) :
    digits n ≠ c :: cs := by
  intro h
  have hdigit : c.isDigit = true := isDigit_of_mem_digits (h ▸ List.mem_cons_self : c ∈ digits n)
  rw [hc] at hdigit
  cases hdigit

end SessionControl.Decimal

namespace SessionControl.Client.PropertyValue

/-- The value holds no text and no level: it is a flag, a count, absent, or a list of such values. -/
inductive Textless : PropertyValue → Prop
  | flag (b : Bool) : Textless (.flag b)
  | count (n : UInt64) : Textless (.count n)
  | absent : Textless .absent
  | list {items : List PropertyValue} (each : ∀ v ∈ items, Textless v) : Textless (.list items)

attribute [simp] Textless.flag Textless.count Textless.absent

@[simp] theorem textless_list {items : List PropertyValue} :
    Textless (.list items) ↔ ∀ v ∈ items, Textless v := by
  refine ⟨fun h => ?_, .list⟩
  cases h with
  | list each => exact each

/-! ## Where a word ends -/

/-- No word goes on here: this is the end, or a comma or a closing bracket comes. -/
def Stops (s : List Char) : Prop := ∀ c ∈ s.head?, c = ',' ∨ c = ']'

theorem stops_cons {c : Char} (h : c = ',' ∨ c = ']') (s : List Char) : Stops (c :: s) := by
  intro c' hc'
  cases hc'
  exact h

/-- Words are the same if they are followed up to the same place. -/
theorem eq_of_append_stops {xs ys s t : List Char} (hxs : ∀ c ∈ xs, c.isAlphanum = true)
    (hys : ∀ c ∈ ys, c.isAlphanum = true) (hs : Stops s) (ht : Stops t) (h : xs ++ s = ys ++ t) :
    xs = ys ∧ s = t := by
  -- what comes behind the shorter word would have to begin with a character of the longer one
  have hends : ∀ {c : Char} {rest : List Char}, Stops (c :: rest) → c.isAlphanum ≠ true := by
    intro c rest hstops
    rcases hstops c rfl with rfl | rfl <;> decide
  induction xs generalizing ys with
  | nil =>
      cases ys with
      | nil => exact ⟨rfl, h⟩
      | cons y ys =>
          rw [List.nil_append] at h
          rw [h] at hs
          exact absurd (hys y List.mem_cons_self) (hends hs)
  | cons x xs ih =>
      cases ys with
      | nil =>
          rw [List.nil_append] at h
          rw [← h] at ht
          exact absurd (hxs x List.mem_cons_self) (hends ht)
      | cons y ys =>
          obtain ⟨rfl, hrest⟩ := List.cons.inj h
          obtain ⟨rfl, hst⟩ := ih (fun c hc => hxs c (.tail _ hc)) (fun c hc => hys c (.tail _ hc))
            hrest
          exact ⟨rfl, hst⟩

/-! ## Values that are words -/

/-- The word of a value that is no list. -/
inductive HasWord : PropertyValue → List Char → Prop
  | flag (b : Bool) : HasWord (.flag b) (flagText b).toList
  | count (n : UInt64) : HasWord (.count n) (Decimal.digits n.toNat)
  | absent : HasWord .absent "null".toList

/-- The value that a word stands for. -/
def ofWord (xs : List Char) : PropertyValue :=
  if xs = "true".toList then .flag true
  else if xs = "false".toList then .flag false
  else if xs = "null".toList then .absent
  else .count (UInt64.ofNat (Decimal.ofDigits xs))

namespace HasWord

variable {v w : PropertyValue} {xs : List Char}

theorem display_eq (h : v.HasWord xs) : v.display.toList = xs := by
  cases h with
  | flag b => rfl
  | count n => exact String.toList_ofList
  | absent => rfl

theorem ne_nil (h : v.HasWord xs) : xs ≠ [] := by
  cases h with
  | flag b => cases b <;> decide
  | count n => exact Decimal.digits_ne_nil _
  | absent => decide

theorem isAlphanum (h : v.HasWord xs) : ∀ c ∈ xs, c.isAlphanum = true := by
  cases h with
  | flag b =>
      refine List.all_eq_true.mp ?_
      cases b <;> decide
  | count n =>
      intro c hc
      simp [Char.isAlphanum, Decimal.isDigit_of_mem_digits hc]
  | absent => exact List.all_eq_true.mp (by decide)

theorem ofWord_eq (h : v.HasWord xs) : ofWord xs = v := by
  cases h with
  | flag b => cases b <;> rfl
  | count n =>
      have htrue : Decimal.digits n.toNat ≠ "true".toList := Decimal.digits_ne_cons (by decide) _
      have hfalse : Decimal.digits n.toNat ≠ "false".toList := Decimal.digits_ne_cons (by decide) _
      have hnull : Decimal.digits n.toNat ≠ "null".toList := Decimal.digits_ne_cons (by decide) _
      rw [ofWord, if_neg htrue, if_neg hfalse, if_neg hnull, Decimal.ofDigits_digits,
        UInt64.ofNat_toNat]
  | absent => rfl

/-- No two values have one word. -/
theorem eq_of_eq (hv : v.HasWord xs) (hw : w.HasWord xs) : v = w := by
  rw [← hv.ofWord_eq, hw.ofWord_eq]

end HasWord

/-- A value without texts is a word, or a list of such values. -/
theorem Textless.word_or_list {v : PropertyValue} (h : v.Textless) :
    (∃ xs, v.HasWord xs) ∨ ∃ items, v = .list items ∧ ∀ v ∈ items, Textless v := by
  cases h with
  | flag b => exact .inl ⟨_, .flag b⟩
  | count n => exact .inl ⟨_, .count n⟩
  | absent => exact .inl ⟨_, .absent⟩
  | list each => exact .inr ⟨_, rfl, each⟩

/-! ## Lists -/

theorem toList_display_list (items : List PropertyValue) (s : List Char) :
    (display (.list items)).toList ++ s = '[' :: ((displayItems items).toList ++ ']' :: s) := by
  simp [display]

theorem toList_displayItems_cons (v : PropertyValue) (vs : List PropertyValue) (s : List Char) :
    (displayItems (v :: vs)).toList ++ s = v.display.toList ++ ((displayRest vs).toList ++ s) := by
  simp [displayItems]

theorem toList_displayRest_cons (v : PropertyValue) (vs : List PropertyValue) (s : List Char) :
    (displayRest (v :: vs)).toList ++ s =
      ',' :: ' ' :: (v.display.toList ++ ((displayRest vs).toList ++ s)) := by
  simp [displayRest]

/-- A value ends no list. -/
theorem Textless.display_ne_bracket {v : PropertyValue} (h : v.Textless) (r s : List Char) :
    v.display.toList ++ r ≠ ']' :: s := by
  rcases h.word_or_list with ⟨xs, hword⟩ | ⟨items, rfl, -⟩
  · rw [hword.display_eq]
    obtain ⟨c, cs, rfl⟩ := List.exists_cons_of_ne_nil hword.ne_nil
    intro heq
    rw [(List.cons.inj heq).1] at hword
    exact absurd (hword.isAlphanum _ List.mem_cons_self) (by decide)
  · rw [toList_display_list]
    intro heq
    exact absurd (List.cons.inj heq).1 (by decide)

/-- No word begins a list. -/
theorem HasWord.append_ne_list {v : PropertyValue} {xs : List Char} (h : v.HasWord xs)
    (items : List PropertyValue) (s t : List Char) :
    xs ++ s ≠ (display (.list items)).toList ++ t := by
  rw [toList_display_list]
  obtain ⟨c, cs, rfl⟩ := List.exists_cons_of_ne_nil h.ne_nil
  intro heq
  rw [(List.cons.inj heq).1] at h
  exact absurd (h.isAlphanum _ List.mem_cons_self) (by decide)

theorem stops_displayRest (vs : List PropertyValue) (s : List Char) :
    Stops ((displayRest vs).toList ++ ']' :: s) := by
  cases vs with
  | nil => exact stops_cons (.inr rfl) s
  | cons v vs =>
      rw [toList_displayRest_cons]
      exact stops_cons (.inl rfl) _

/-- Whatever stands behind it, if it does not carry on a word, the display tells the value and where
    it ends. -/
def TellsItself (v : PropertyValue) : Prop :=
  ∀ {w : PropertyValue} {s t : List Char}, w.Textless → Stops s → Stops t →
    v.display.toList ++ s = w.display.toList ++ t → v = w ∧ s = t

section Items

variable {vs ws : List PropertyValue} {s t : List Char}

/-- The values behind the first one, up to the bracket that closes their list. -/
theorem eq_of_displayRest (hvs : ∀ v ∈ vs, TellsItself v) (hws : ∀ w ∈ ws, Textless w)
    (h : (displayRest vs).toList ++ ']' :: s = (displayRest ws).toList ++ ']' :: t) :
    vs = ws ∧ s = t := by
  induction vs generalizing ws with
  | nil =>
      cases ws with
      | nil => exact ⟨rfl, (List.cons.inj h).2⟩
      | cons w ws =>
          rw [toList_displayRest_cons] at h
          exact absurd (List.cons.inj h).1 (by decide)
  | cons v vs ih =>
      rw [toList_displayRest_cons] at h
      cases ws with
      | nil => exact absurd (List.cons.inj h).1 (by decide)
      | cons w ws =>
          rw [toList_displayRest_cons] at h
          have h := (List.cons.inj (List.cons.inj h).2).2
          rw [List.forall_mem_cons] at hvs hws
          obtain ⟨hv, hvs⟩ := hvs
          obtain ⟨hw, hws⟩ := hws
          obtain ⟨rfl, hrest⟩ := hv hw (stops_displayRest vs s) (stops_displayRest ws t) h
          obtain ⟨rfl, hst⟩ := ih hvs hws hrest
          exact ⟨rfl, hst⟩

theorem eq_of_displayItems (hvs : ∀ v ∈ vs, TellsItself v) (hvs' : ∀ v ∈ vs, Textless v)
    (hws : ∀ w ∈ ws, Textless w)
    (h : (displayItems vs).toList ++ ']' :: s = (displayItems ws).toList ++ ']' :: t) :
    vs = ws ∧ s = t := by
  cases vs with
  | nil =>
      cases ws with
      | nil => exact ⟨rfl, (List.cons.inj h).2⟩
      | cons w ws =>
          rw [toList_displayItems_cons] at h
          exact absurd h.symm ((hws w List.mem_cons_self).display_ne_bracket _ s)
  | cons v vs =>
      rw [toList_displayItems_cons] at h
      cases ws with
      | nil => exact absurd h ((hvs' v List.mem_cons_self).display_ne_bracket _ t)
      | cons w ws =>
          -- with one more comma in front these are values behind a first one
          refine eq_of_displayRest hvs hws ?_
          rw [toList_displayRest_cons, toList_displayRest_cons, h, toList_displayItems_cons]

end Items

/-! ## All values without texts -/

theorem Textless.tellsItself {v : PropertyValue} (hv : v.Textless) : TellsItself v := by
  -- words are told apart by their characters, and lists by what is told of their elements
  have hwords : ∀ {v : PropertyValue} {xs : List Char}, v.HasWord xs → TellsItself v := by
    intro v xs hxs w s t hw hs ht h
    rw [hxs.display_eq] at h
    rcases hw.word_or_list with ⟨ys, hys⟩ | ⟨items, rfl, -⟩
    · rw [hys.display_eq] at h
      obtain ⟨rfl, hst⟩ := eq_of_append_stops hxs.isAlphanum hys.isAlphanum hs ht h
      exact ⟨hxs.eq_of_eq hys, hst⟩
    · exact absurd h (hxs.append_ne_list items s t)
  induction hv with
  | flag b => exact hwords (.flag b)
  | count n => exact hwords (.count n)
  | absent => exact hwords .absent
  | @list items each ih =>
      intro w s t hw hs ht h
      rcases hw.word_or_list with ⟨ys, hys⟩ | ⟨items', rfl, each'⟩
      · rw [hys.display_eq] at h
        exact absurd h.symm (hys.append_ne_list items t s)
      · rw [toList_display_list, toList_display_list] at h
        obtain ⟨rfl, hst⟩ := eq_of_displayItems ih each each' (List.cons.inj h).2
        exact ⟨rfl, hst⟩

/-- Values without texts and levels look the same only if they are. -/
theorem display_eq_iff {v w : PropertyValue} (hv : v.Textless) (hw : w.Textless) :
    v.display = w.display ↔ v = w := by
  refine ⟨fun h => ?_, congrArg display⟩
  have hstops : Stops [] := nofun
  exact (hv.tellsItself hw hstops hstops (by rw [h])).1

/-- A value inside a list does not look like one behind it. -/
theorem display_eq_iff_nested :
    let v : PropertyValue := .list [.list [.count 1, .absent], .list [], .flag true]
    let w : PropertyValue := .list [.list [.count 1], .absent, .list [], .flag true]
    v.Textless ∧ w.Textless ∧ v.display ≠ w.display := by
  intro v w
  have hv : v.Textless := by simp [v]
  have hw : w.Textless := by simp [w]
  exact ⟨hv, hw, mt (display_eq_iff hv hw).mp (by simp [v, w])⟩

end SessionControl.Client.PropertyValue
