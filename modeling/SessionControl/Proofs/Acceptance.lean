import SessionControl.CommandLine.Request
import SessionControl.Proofs.Inquiry

set_option autoImplicit false

/-! # What has been accepted

What is known of the options that a grammar has accepted, whatever the words of the command line
were (`Matches.Accepted`): each is one of the grammar's and occurs once, with one value that can be
read if it takes one, and no two of them exclude each other. One step of reading adds a value only
to an option that waits for it (`Progress.Sound`), and the check at the end does the rest. -/

namespace SessionControl.CommandLine

open Client (ok_of_bind_ok)

variable {g : Grammar}

/-! ## Values of options -/

namespace Matches

variable {m : Matches}

theorem has_iff {long : String} : m.has long = true ↔ long ∈ m.occurrences := by
  simp [has]

/-- One more value counts for its option. -/
theorem length_valuesOf_addValue (long other value : String) :
    ((m.addValue long value).valuesOf other).length =
      (m.valuesOf other).length + if long = other then 1 else 0 := by
  simp only [valuesOf, addValue, List.filter_append, List.map_append, List.length_append]
  by_cases h : long = other <;> simp [h]

theorem count_addOccurrence (long other : String) :
    (m.addOccurrence long).occurrences.count other =
      m.occurrences.count other + if long = other then 1 else 0 := by
  simp only [addOccurrence, List.count_append, List.count_singleton, beq_iff_eq]

end Matches

/-! ## Reading keeps values with their options -/

namespace Progress

variable {p p' : Progress}

/-- How many values of an option are still to come: none or one. -/
def awaited (p : Progress) (long : String) : Nat :=
  match p.pending with
  | .value o => if o.long = long then 1 else 0
  | _ => 0

/-- Every option that was read is one of the grammar's, and has no more values than occurrences, the
    value that is still to come included. -/
structure Sound (g : Grammar) (p : Progress) : Prop where
  known : ∀ long ∈ p.found.occurrences, ∃ o ∈ g.options, o.long = long
  values : ∀ long, (p.found.valuesOf long).length + p.awaited long ≤ p.found.occurrences.count long

theorem Sound.start : Sound g {} where
  known _ h := nomatch h
  values _ := Nat.zero_le _

theorem Sound.option (h : p.Sound g) {o : OptionSpec} (ho : o ∈ g.options)
    (attached : Option (List Char)) : (p.option o attached).Sound g := by
  have hoption : (p.option o attached).found.occurrences =
      (p.found.addOccurrence o.long).occurrences := by
    cases attached <;> rfl
  refine ⟨fun long hlong => ?_, fun long => ?_⟩
  · rw [hoption] at hlong
    rcases List.mem_append.mp hlong with hlong | hlong
    · exact h.known long hlong
    · exact ⟨o, ho, (List.mem_singleton.mp hlong).symm⟩
  · have hvalues := h.values long
    rw [hoption, Matches.count_addOccurrence]
    -- the new occurrence makes room for the value, be it attached or still to come
    cases attached with
    | none =>
        show (p.found.valuesOf long).length + (if o.long = long then 1 else 0) ≤ _
        omega
    | some cs =>
        show (((p.found.addOccurrence o.long).addValue o.long _).valuesOf long).length + 0 ≤ _
        rw [Matches.length_valuesOf_addValue]
        show (p.found.valuesOf long).length + _ + 0 ≤ _
        omega

theorem Sound.switch (h : p.Sound g) {o : OptionSpec} (ho : o ∈ g.options) :
    (p.switch o).Sound g := by
  -- a switch is read like an option whose value never comes
  obtain ⟨hknown, hvalues⟩ := h.option ho none
  exact ⟨hknown, fun long => Nat.le_trans (Nat.le_add_right ..) (hvalues long)⟩

theorem mem_of_ofLong? {name : List Char} {o : OptionSpec} (h : g.ofLong? name = some o) :
    o ∈ g.options :=
  List.mem_of_find?_eq_some h

theorem mem_of_ofShort? {c : Char} {o : OptionSpec} (h : g.ofShort? c = some o) :
    o ∈ g.options :=
  List.mem_of_find?_eq_some h

theorem Sound.longWord (h : p.Sound g) {cs : List Char} (hp : p.longWord g cs = .ok p') :
    p'.Sound g := by
  simp only [Progress.longWord] at hp
  split at hp
  · next o ho =>
      split at hp
      · cases hp
        exact h.option (mem_of_ofLong? ho) _
      · cases hp
        exact h.switch (mem_of_ofLong? ho)
  · split at hp
    · cases hp
    · split at hp <;> cases hp

theorem Sound.shortWord (h : p.Sound g) {cs : List Char} (hp : p.shortWord g cs = .ok p') :
    p'.Sound g := by
  induction cs generalizing p with
  | nil =>
      cases hp
      exact h
  | cons c cs ih =>
      simp only [Progress.shortWord] at hp
      split at hp
      · next o ho =>
          split at hp
          · cases hp
            exact h.option (mem_of_ofShort? ho) _
          · exact ih (h.switch (mem_of_ofShort? ho)) hp
      · split at hp
        · cases hp
        · split at hp <;> cases hp

theorem Sound.positionalWord (h : p.Sound g) {w : String}
    (hp : p.positionalWord g w = .ok p') : p'.Sound g := by
  simp only [Progress.positionalWord] at hp
  split at hp
  · cases hp
  · split at hp
    · cases hp
      exact ⟨h.known, h.values⟩
    · cases hp

/-- A word that is taken for a value goes to the option that waits for one. -/
theorem Sound.value (h : p.Sound g) {o : OptionSpec} (ho : p.pending = .value o) (w : String) :
    Sound g { p with found := p.found.addValue o.long w, pending := .settled } := by
  refine ⟨h.known, fun long => ?_⟩
  -- the value that was counted as still to come is now counted as read
  have hvalues := h.values long
  simp only [awaited, ho] at hvalues
  show ((p.found.addValue o.long w).valuesOf long).length + 0 ≤ p.found.occurrences.count long
  rw [Matches.length_valuesOf_addValue]
  exact hvalues

/-- Reading one word keeps values with their options. -/
theorem Sound.word (h : p.Sound g) {w : String} (hp : p.word g w = .ok p') : p'.Sound g := by
  simp only [Progress.word] at hp
  split at hp
  · exact h.positionalWord hp
  · split at hp
    · split at hp
      · cases hp
        exact ⟨h.known, h.values⟩
      · exact h.longWord hp
      · exact h.shortWord hp
      · exact h.positionalWord hp
    · split at hp
      · next o ho =>
          cases hp
          exact h.value ho w
      · exact h.positionalWord hp

/-- So does reading all words. -/
theorem Sound.words (h : p.Sound g) {ws : List String} {command : Option (String × List String)}
    (hp : p.words g ws = .ok (p', command)) : p'.Sound g := by
  induction ws generalizing p with
  | nil =>
      cases hp
      exact h
  | cons w rest ih =>
      simp only [Progress.words] at hp
      split at hp
      · cases hp
        exact h
      · split at hp
        · next q hq => exact ih (h.word hq) hp
        · cases hp

/-- A command that was found is one of the grammar's, and stands among the words before the ones
    that are left to it. -/
theorem mem_of_words {ws : List String} {word : String} {rest : List String}
    (hp : p.words g ws = .ok (p', some (word, rest))) :
    word ∈ g.commands ∧ ∃ front, ws = front ++ word :: rest := by
  induction ws generalizing p with
  | nil => cases hp
  | cons w ws ih =>
      simp only [Progress.words] at hp
      split at hp
      · next hcommand =>
          cases hp
          rw [Bool.and_eq_true, List.contains_iff_mem] at hcommand
          exact ⟨hcommand.2, [], rfl⟩
      · split at hp
        · obtain ⟨hword, front, rfl⟩ := ih hp
          exact ⟨hword, w :: front, rfl⟩
        · cases hp

end Progress

/-! ## What the check at the end says -/

/-- What a grammar has accepted. -/
structure Matches.Accepted (g : Grammar) (m : Matches) : Prop where
  known : ∀ long ∈ m.occurrences, ∃ o ∈ g.options, o.long = long
  occurs : ∀ long text, m.value? long = some text → long ∈ m.occurrences
  once : ∀ long ∈ m.occurrences, ∀ o, g.ofLong? long.toList = some o → m.occurrences.count long ≤ 1
  /-- An option that takes a value has one, and it can be read. -/
  value : ∀ long ∈ m.occurrences, ∀ o, g.ofLong? long.toList = some o → o.takesValue = true →
    ∃ text, m.valuesOf long = [text] ∧ o.readable text = true
  exclusive : ∀ a b, (a, b) ∈ g.conflicts → a ∈ m.occurrences → b ∉ m.occurrences

namespace Matches

variable {m : Matches}

theorem exclusive_of_checkConflicts (h : m.checkConflicts g = .ok ()) {a b : String}
    (hab : (a, b) ∈ g.conflicts) (ha : a ∈ m.occurrences) : b ∉ m.occurrences := by
  intro hb
  unfold checkConflicts at h
  split at h
  · cases h
  · next hnone => exact hnone (List.any_eq_true.mpr ⟨(a, b), hab, by simp [has_iff, ha, hb]⟩)

theorem option_of_checkOption {long : String} (h : m.checkOption g long = .ok ())
    {o : OptionSpec} (ho : g.ofLong? long.toList = some o) :
    (o.takesValue = true → m.valuesOf long ≠ []) ∧ (∀ t ∈ m.valuesOf long, o.readable t = true) ∧
      m.occurrences.count long ≤ 1 := by
  simp only [checkOption, ho] at h
  split at h
  · cases h
  · next hvalue =>
      split at h
      · cases h
      · next hreadable =>
          split at h
          · cases h
          · next honce =>
              refine ⟨fun htakes hnone => hvalue ⟨htakes, hnone⟩, ?_, Nat.le_of_not_lt honce⟩
              simpa using hreadable

theorem checkOption_of_checkOptions {longs : List String} (h : m.checkOptions g longs = .ok ())
    {long : String} (hlong : long ∈ longs) : m.checkOption g long = .ok () := by
  induction longs with
  | nil => cases hlong
  | cons first rest ih =>
      obtain ⟨_, hfirst, hrest⟩ := ok_of_bind_ok h
      rcases List.mem_cons.mp hlong with rfl | hlong
      · exact hfirst
      · exact ih hrest hlong

/-- Whatever words a grammar accepts, it accepts options as its check demands. -/
theorem Accepted.of_match {words : List String} (h : g.match words = .ok m) : m.Accepted g := by
  obtain ⟨⟨p, command⟩, hwords, h⟩ := ok_of_bind_ok h
  obtain ⟨_, hcheck, h⟩ := ok_of_bind_ok h
  cases h
  obtain ⟨_, -, hcheck⟩ := ok_of_bind_ok hcheck
  obtain ⟨_, hconflicts, hcheck⟩ := ok_of_bind_ok hcheck
  obtain ⟨_, -, hoptions⟩ := ok_of_bind_ok hcheck
  have hsound := Progress.Sound.start.words hwords
  have hoption := fun long hlong o (ho : g.ofLong? (String.toList long) = some o) =>
    option_of_checkOption (checkOption_of_checkOptions hoptions hlong) ho
  have hvalues := fun long => Nat.le_trans (Nat.le_add_right ..) (hsound.values long)
  refine ⟨hsound.known, fun long text htext => ?_,
    fun long hlong o ho => (hoption long hlong o ho).2.2, fun long hlong o ho htakes => ?_,
    fun a b hab => exclusive_of_checkConflicts hconflicts hab⟩
  · have hpositive := List.length_pos_of_mem (List.mem_of_mem_head? (Option.mem_def.mpr htext))
    exact List.count_pos_iff.mp (Nat.lt_of_lt_of_le hpositive (hvalues long))
  · -- one occurrence leaves room for one value, and the check asks for one
    obtain ⟨hsome, hreadable, honce⟩ := hoption long hlong o ho
    have hlength := Nat.le_trans (hvalues long) honce
    obtain ⟨text, rest, htexts⟩ := List.exists_cons_of_ne_nil (hsome htakes)
    rw [htexts, List.length_cons] at hlength
    have hrest : rest = [] := List.length_eq_zero_iff.mp (by omega)
    rw [htexts] at hreadable
    exact ⟨text, hrest ▸ htexts, hreadable text List.mem_cons_self⟩

end Matches
end SessionControl.CommandLine
