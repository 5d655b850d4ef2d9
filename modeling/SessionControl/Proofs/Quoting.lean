import SessionControl.Text.Quoted
import SessionControl.Numeric.Decimal

set_option autoImplicit false

/-! # Texts that can be told apart

What is written next to other texts can be read back only if it shows where it ends. A writer is
`Delimited` if it does, whatever follows. Quoting is delimited (`quoteBy_delimited`): each character
is written in one of three forms (`Escaped`), of which none is the beginning of another and none
begins with a quote. Which characters are visible makes no difference, so nothing here is about the
table of hidden ones. -/

namespace SessionControl.Text

variable {α : Type}

/-! ## Delimited writers -/

/-- Whatever stands behind it, what was written tells both what it stands for and where it ends. -/
def Delimited (p : α → Prop) (write : α → List Char) : Prop :=
  ∀ (a b : α) (s t : List Char), p a → p b → write a ++ s = write b ++ t → a = b ∧ s = t

/-- A text that goes up to the first of a character. -/
theorem eq_of_append_stop {stop : Char} {xs ys s t : List Char} (hxs : stop ∉ xs)
    (hys : stop ∉ ys) (h : xs ++ stop :: s = ys ++ stop :: t) : xs = ys ∧ s = t := by
  induction xs generalizing ys with
  | nil =>
      cases ys with
      | nil => exact ⟨rfl, (List.cons.inj h).2⟩
      | cons y ys =>
          rw [(List.cons.inj h).1] at hys
          exact absurd List.mem_cons_self hys
  | cons x xs ih =>
      cases ys with
      | nil =>
          rw [← (List.cons.inj h).1] at hxs
          exact absurd List.mem_cons_self hxs
      | cons y ys =>
          obtain ⟨rfl, hrest⟩ := List.cons.inj h
          obtain ⟨rfl, hst⟩ := ih (fun hmem => hxs (.tail _ hmem)) (fun hmem => hys (.tail _ hmem))
            hrest
          exact ⟨rfl, hst⟩

/-- Items one after another, up to something that no item begins with. -/
theorem Delimited.eq_of_flatMap {p : α → Prop} {write : α → List Char} (h : Delimited p write)
    {as bs : List α} {s t : List Char} (has : ∀ a ∈ as, p a) (hbs : ∀ b ∈ bs, p b)
    (hs : ∀ a r, p a → write a ++ r ≠ s) (ht : ∀ a r, p a → write a ++ r ≠ t)
    (heq : as.flatMap write ++ s = bs.flatMap write ++ t) : as = bs ∧ s = t := by
  induction as generalizing bs with
  | nil =>
      cases bs with
      | nil => exact ⟨rfl, heq⟩
      | cons b bs =>
          rw [List.flatMap_cons, List.append_assoc] at heq
          exact absurd heq.symm (hs b _ (hbs b List.mem_cons_self))
  | cons a as ih =>
      cases bs with
      | nil =>
          rw [List.flatMap_cons, List.append_assoc] at heq
          exact absurd heq (ht a _ (has a List.mem_cons_self))
      | cons b bs =>
          rw [List.flatMap_cons, List.flatMap_cons, List.append_assoc, List.append_assoc] at heq
          obtain ⟨rfl, hrest⟩ := h a b _ _ (has a List.mem_cons_self) (hbs b List.mem_cons_self) heq
          obtain ⟨rfl, hst⟩ := ih (fun a ha => has a (.tail _ ha)) (fun b hb => hbs b (.tail _ hb))
            hrest
          exact ⟨rfl, hst⟩

/-! ## Digits -/

theorem hexDigits_of_lt {n : Nat} (h : n < 16) : hexDigits n = [hexDigit n] := by
  rw [hexDigits, if_pos h]

theorem hexDigits_of_not_lt {n : Nat} (h : ¬n < 16) :
    hexDigits n = hexDigits (n / 16) ++ [hexDigit (n % 16)] := by
  rw [hexDigits, if_neg h]

theorem hexDigits_ne_nil (n : Nat) : hexDigits n ≠ [] := by
  unfold hexDigits
  split <;> simp

theorem mem_hexDigits {n : Nat} {c : Char} (h : c ∈ hexDigits n) : ∃ d < 16, c = hexDigit d := by
  fun_induction hexDigits n with
  | case1 n hlt => exact ⟨n, hlt, List.mem_singleton.mp h⟩
  | case2 n _ ih =>
      rcases List.mem_append.mp h with h | h
      · exact ih h
      · exact ⟨n % 16, Nat.mod_lt _ (by decide), List.mem_singleton.mp h⟩

theorem not_mem_hexDigits {n : Nat} {c : Char} (h : ∀ d < 16, c ≠ hexDigit d) :
    c ∉ hexDigits n := by
  intro hmem
  obtain ⟨d, hd, rfl⟩ := mem_hexDigits hmem
  exact h d hd rfl

theorem hexDigit_inj {d e : Nat} (hd : d < 16) (he : e < 16) (h : hexDigit d = hexDigit e) :
    d = e := by
  have hall : ∀ d < 16, ∀ e < 16, hexDigit d = hexDigit e → d = e := by decide
  exact hall d hd e he h

theorem hexDigits_inj {m n : Nat} (h : hexDigits m = hexDigits n) : m = n := by
  fun_induction hexDigits m generalizing n with
  | case1 m hm =>
      by_cases hn : n < 16
      · rw [hexDigits_of_lt hn] at h
        exact hexDigit_inj hm hn (List.cons.inj h).1
      · -- a number of one digit has none before it
        rw [hexDigits_of_not_lt hn, ← List.nil_append [hexDigit m]] at h
        obtain ⟨hnil, -⟩ := List.append_inj' h rfl
        exact absurd hnil.symm (hexDigits_ne_nil _)
  | case2 m _ ih =>
      by_cases hn : n < 16
      · rw [hexDigits_of_lt hn, ← List.nil_append [hexDigit n]] at h
        obtain ⟨hnil, -⟩ := List.append_inj' h rfl
        exact absurd hnil (hexDigits_ne_nil _)
      · rw [hexDigits_of_not_lt hn] at h
        obtain ⟨hfirst, hlast⟩ := List.append_inj' h rfl
        have hdiv := ih hfirst
        have hrem : m % 16 = n % 16 :=
          hexDigit_inj (Nat.mod_lt _ (by decide)) (Nat.mod_lt _ (by decide)) (List.cons.inj hlast).1
        omega

/-! ## Characters between quotes -/

/-- A character as it stands inside quotes, by what is taken for visible. -/
def escapeBy (visible : Char → Bool) (c : Char) : List Char :=
  if c = '\x00' then ['\\', '0']
  else if c = '\t' then ['\\', 't']
  else if c = '\n' then ['\\', 'n']
  else if c = '\r' then ['\\', 'r']
  else if c = '"' then ['\\', '"']
  else if c = '\\' then ['\\', '\\']
  else if visible c then [c]
  else '\\' :: 'u' :: '\x7b' :: hexDigits c.toNat ++ ['\x7d']

/-- A text between quotes, by what is taken for visible. -/
def quoteBy (visible : Char → Bool) (text : String) : String :=
  String.ofList ('"' :: text.toList.flatMap (escapeBy visible) ++ ['"'])

theorem quote_eq : quote = quoteBy isVisible := rfl

/-- The characters with an escape of their own, each with the letter that stands for it behind a
    backslash. -/
def shortEscapes : List (Char × Char) :=
  [('\x00', '0'), ('\t', 't'), ('\n', 'n'), ('\r', 'r'), ('"', '"'), ('\\', '\\')]

/-- The forms in which a character can stand inside quotes. -/
inductive Escaped (c : Char) : List Char → Prop
  | short (letter : Char) (h : (c, letter) ∈ shortEscapes) : Escaped c ['\\', letter]
  | plain (quote : c ≠ '"') (backslash : c ≠ '\\') (feed : c ≠ '\n') : Escaped c [c]
  | point : Escaped c ('\\' :: 'u' :: '\x7b' :: hexDigits c.toNat ++ ['\x7d'])

theorem escaped_escapeBy (visible : Char → Bool) (c : Char) : Escaped c (escapeBy visible c) := by
  unfold escapeBy
  iterate 6
    split
    · next h => exact .short _ (by subst h; decide)
  split
  · exact .plain ‹_› ‹_› ‹_›
  · exact .point

namespace Escaped

variable {c d : Char} {xs ys s t : List Char}

/-- A closing quote is not mistaken for a character. -/
theorem ne_quote (h : Escaped c xs) : xs ++ s ≠ '"' :: t := by
  intro heq
  cases h with
  | short letter h => cases (List.cons.inj heq).1
  | plain quote backslash feed => exact quote (List.cons.inj heq).1
  | point => cases (List.cons.inj heq).1

/-- There is no line feed inside quotes. -/
theorem feed_not_mem (h : Escaped c xs) : '\n' ∉ xs := by
  intro hmem
  cases h with
  | short letter h =>
      have hall : ∀ e ∈ shortEscapes, '\n' ∉ ['\\', e.2] := by decide
      exact hall _ h hmem
  | plain quote backslash feed => exact feed (List.mem_singleton.mp hmem).symm
  | point => simp [not_mem_hexDigits (by decide : ∀ d < 16, '\n' ≠ hexDigit d)] at hmem

/-- None of the forms is the beginning of another. -/
theorem eq_of_append (hc : Escaped c xs) (hd : Escaped d ys) (h : xs ++ s = ys ++ t) :
    c = d ∧ s = t := by
  have hshort : ∀ e ∈ shortEscapes, ∀ e' ∈ shortEscapes, e.2 = e'.2 → e.1 = e'.1 := by decide
  have hpoint : ∀ e ∈ shortEscapes, e.2 ≠ 'u' := by decide
  cases hc with
  | short letter hletter =>
      cases hd with
      | short letter' hletter' =>
          obtain ⟨-, h⟩ := List.cons.inj h
          obtain ⟨heq, rfl⟩ := List.cons.inj h
          exact ⟨hshort _ hletter _ hletter' heq, rfl⟩
      | plain quote backslash feed => exact absurd (List.cons.inj h).1.symm backslash
      | point =>
          obtain ⟨-, h⟩ := List.cons.inj h
          exact absurd (List.cons.inj h).1 (hpoint _ hletter)
  | plain quote backslash feed =>
      cases hd with
      | short letter' hletter' => exact absurd (List.cons.inj h).1 backslash
      | plain quote' backslash' feed' => exact List.cons.inj h
      | point => exact absurd (List.cons.inj h).1 backslash
  | point =>
      cases hd with
      | short letter' hletter' =>
          obtain ⟨-, h⟩ := List.cons.inj h
          exact absurd (List.cons.inj h).1.symm (hpoint _ hletter')
      | plain quote' backslash' feed' => exact absurd (List.cons.inj h).1.symm backslash'
      | point =>
          simp only [List.cons_append, List.append_assoc, List.nil_append, List.cons.injEq,
            true_and] at h
          have hstop : ∀ n, '\x7d' ∉ hexDigits n := fun n => not_mem_hexDigits (by decide)
          obtain ⟨hdigits, hst⟩ := eq_of_append_stop (hstop _) (hstop _) h
          exact ⟨Char.toNat_inj.mp (hexDigits_inj hdigits), hst⟩

end Escaped

/-! ## Quoted texts -/

theorem escapeBy_delimited (visible : Char → Bool) :
    Delimited (fun _ => True) (escapeBy visible) :=
  fun c d _ _ _ _ => (escaped_escapeBy visible c).eq_of_append (escaped_escapeBy visible d)

/-- A quoted text ends where it seems to, and no other text is quoted like it. -/
theorem quoteBy_delimited (visible : Char → Bool) :
    Delimited (fun _ => True) fun text => (quoteBy visible text).toList := by
  intro a b s t _ _ h
  simp only [quoteBy, String.toList_ofList, List.cons_append, List.append_assoc,
    List.nil_append, List.cons.injEq, true_and] at h
  have hclosed : ∀ c r u, True → escapeBy visible c ++ r ≠ '"' :: u :=
    fun c r u _ => (escaped_escapeBy visible c).ne_quote
  obtain ⟨htexts, hrest⟩ := (escapeBy_delimited visible).eq_of_flatMap (fun _ _ => trivial)
    (fun _ _ => trivial) (fun c r => hclosed c r s) (fun c r => hclosed c r t) h
  exact ⟨String.toList_inj.mp htexts, (List.cons.inj hrest).2⟩

theorem feed_not_mem_quoteBy (visible : Char → Bool) (text : String) :
    '\n' ∉ (quoteBy visible text).toList := by
  simp only [quoteBy, String.toList_ofList, List.cons_append, List.mem_cons, List.mem_append,
    List.mem_flatMap, List.not_mem_nil, or_false]
  rintro (h | ⟨c, -, hc⟩ | h)
  · exact absurd h (by decide)
  · exact (escaped_escapeBy visible c).feed_not_mem hc
  · exact absurd h (by decide)

end SessionControl.Text
