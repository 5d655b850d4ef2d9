import SessionControl.Proofs.Quoting
import SessionControl.Proofs.Rundown

set_option autoImplicit false

/-! # The text of a listing can be read back

The listing of inhibitors is read by people, and by programs that take it apart. Who added an
inhibitor, and why, may be any text. Yet the text of a listing determines what it lists, and has a
line for each inhibitor and no others, as long as the identifiers are words
(`listingText_legible`). -/

namespace SessionControl.Command

open Client (Inhibitor Journal World)
open Text (quoteBy)

variable {σ : Type}

/-! ## Lines -/

/-- A text without spaces and line feeds. -/
structure IsWord (text : String) : Prop where
  space : ' ' ∉ text.toList
  feed : '\n' ∉ text.toList

/-- The line that tells an inhibitor, by what is taken for visible. -/
def lineBy (visible : Char → Bool) (e : String × Inhibitor) : String :=
  e.1 ++ " " ++ Decimal.natText e.2.createdAt.toNat ++ " who=" ++ quoteBy visible e.2.who ++
    " why=" ++ quoteBy visible e.2.why

theorem line_eq (id : String) (i : Inhibitor) :
    Inhibitor.line id i = lineBy Text.isVisible (id, i) := by
  simp only [Inhibitor.line, lineBy, Text.quote_eq]

/-- The text of a listing, by what is taken for visible. -/
def listingText (visible : Char → Bool) (es : List (String × Inhibitor)) : String :=
  String.join (es.map fun e => lineBy visible e ++ "\n")

theorem toList_listingText (visible : Char → Bool) (es : List (String × Inhibitor)) :
    (listingText visible es).toList = es.flatMap fun e => (lineBy visible e).toList ++ ['\n'] := by
  rw [listingText, String.toList_join, List.flatMap_map]
  simp

/-- The parts of a line, with its line feed and whatever follows. -/
theorem toList_lineBy (visible : Char → Bool) (e : String × Inhibitor) (s : List Char) :
    (lineBy visible e).toList ++ '\n' :: s =
      e.1.toList ++ ' ' :: (Decimal.digits e.2.createdAt.toNat ++ ' ' :: ("who=".toList ++
        ((quoteBy visible e.2.who).toList ++ (" why=".toList ++
          ((quoteBy visible e.2.why).toList ++ '\n' :: s))))) := by
  simp [lineBy, Decimal.natText]

theorem not_mem_digits {c : Char} (h : Decimal.isDigit c = false) (n : Nat) :
    c ∉ Decimal.digits n := by
  intro hmem
  have hdigit := List.all_eq_true.mp (Decimal.all_isDigit_digits n) c hmem
  rw [h] at hdigit
  cases hdigit

/-- A line tells its inhibitor, and where it ends. -/
theorem lineBy_delimited (visible : Char → Bool) :
    Text.Delimited (fun e : String × Inhibitor => IsWord e.1)
      fun e => (lineBy visible e).toList ++ ['\n'] := by
  intro e e' s t hword hword' h
  simp only [List.append_assoc, List.singleton_append] at h
  rw [toList_lineBy, toList_lineBy] at h
  -- the parts are taken off from the left, each up to where it is seen to end
  obtain ⟨hid, h⟩ := Text.eq_of_append_stop hword.space hword'.space h
  have hspace : ∀ n, ' ' ∉ Decimal.digits n := not_mem_digits (by decide)
  obtain ⟨htime, h⟩ := Text.eq_of_append_stop (hspace _) (hspace _) h
  obtain ⟨hwho, h⟩ := Text.quoteBy_delimited visible _ _ _ _ trivial trivial
    (List.append_cancel_left h)
  obtain ⟨hwhy, h⟩ := Text.quoteBy_delimited visible _ _ _ _ trivial trivial
    (List.append_cancel_left h)
  have hage : e.2.createdAt.toNat = e'.2.createdAt.toNat := by
    rw [← Decimal.ofDigits_digits e.2.createdAt.toNat, htime, Decimal.ofDigits_digits]
  refine ⟨?_, (List.cons.inj h).2⟩
  obtain ⟨id, createdAt, who, why⟩ := e
  obtain ⟨id', createdAt', who', why'⟩ := e'
  cases String.toList_inj.mp hid
  cases UInt64.toNat_inj.mp hage
  cases hwho
  cases hwhy
  rfl

/-- The only line feed of a line is the one at its end. -/
theorem feed_not_mem_lineBy (visible : Char → Bool) {e : String × Inhibitor}
    (h : '\n' ∉ e.1.toList) : '\n' ∉ (lineBy visible e).toList := by
  have hdigits : '\n' ∉ Decimal.digits e.2.createdAt.toNat := not_mem_digits (by decide) _
  have hwho := Text.feed_not_mem_quoteBy visible e.2.who
  have hwhy := Text.feed_not_mem_quoteBy visible e.2.why
  simp [lineBy, Decimal.natText, h, hdigits, hwho, hwhy]

theorem count_feed_listingText (visible : Char → Bool) {es : List (String × Inhibitor)}
    (h : ∀ e ∈ es, '\n' ∉ e.1.toList) :
    (listingText visible es).toList.count '\n' = es.length := by
  rw [toList_listingText]
  induction es with
  | nil => rfl
  | cons e rest ih =>
      have hline := feed_not_mem_lineBy visible (h e List.mem_cons_self)
      rw [List.flatMap_cons, List.count_append, List.count_append, List.count_eq_zero.mpr hline,
        ih fun e he => h e (.tail _ he), List.length_cons]
      simp [Nat.add_comm]

/-! ## Listings -/

@[simp, grind =] theorem output_append (j k : Journal) :
    Journal.output (j ++ k) = j.output ++ k.output := by
  unfold Journal.output
  rw [List.map_append, String.join_append]

/-- Records for debugging do not show on standard output. -/
@[simp, grind =] theorem output_deeds (j : Journal) : Journal.output j.deeds = j.output := by
  induction j with
  | nil => rfl
  | cons e j ih =>
      have hcons : ∀ k : Journal, Journal.output (e :: k) = e.output ++ k.output :=
        fun k => String.join_cons
      rw [hcons, Journal.deeds, List.filter_cons]
      split
      · rw [hcons]
        exact congrArg (e.output ++ ·) ih
      · next hdebug =>
          cases e with
          | logged severity text => exact ih.trans String.empty_append.symm
          | _ => exact absurd rfl hdebug

/-- What a listing shows is the text of what it lists. -/
theorem Lists.output {x : Except Trouble Exit × World σ} {w : World σ}
    {es : List (String × Inhibitor)} (h : Lists x w es) :
    x.2.journal.output = w.journal.output ++ listingText Text.isVisible es := by
  have hprinted : Journal.output ((es.map fun e => Inhibitor.line e.1 e.2).map
      fun line => .printed (line ++ "\n")) = listingText Text.isVisible es := by
    simp only [line_eq]
    rw [Journal.output, List.map_map, List.map_map]
    rfl
  have hcall : Journal.output [.called listCall] = "" := rfl
  rw [← output_deeds, h.2, ← List.singleton_append, output_append, output_append, output_deeds,
    hprinted, hcall, String.empty_append]

/-- Listings with the same text list the same, whatever the texts in them are and whatever is taken
    for visible, and a text has one line for each inhibitor. -/
theorem listingText_legible (visible : Char → Bool) {es es' : List (String × Inhibitor)}
    (hwords : ∀ e ∈ es, IsWord e.1) (hwords' : ∀ e ∈ es', IsWord e.1) :
    (listingText visible es = listingText visible es' → es = es') ∧
      (listingText visible es).toList.count '\n' = es.length ∧
      ∀ {σ : Type} (x : Except Trouble Exit × World σ) (w : World σ), Lists x w es →
        x.2.journal.output = w.journal.output ++ listingText Text.isVisible es := by
  refine ⟨fun htext => ?_, count_feed_listingText visible fun e he => (hwords e he).feed,
    fun x w h => h.output⟩
  have hlines := congrArg String.toList htext
  rw [toList_listingText, toList_listingText, ← List.append_nil (es.flatMap _),
    ← List.append_nil (es'.flatMap _)] at hlines
  have hend : ∀ (e : String × Inhibitor) (r : List Char), IsWord e.1 →
      (lineBy visible e).toList ++ ['\n'] ++ r ≠ [] := by
    intro e r _ hnil
    simp at hnil
  exact ((lineBy_delimited visible).eq_of_flatMap hwords hwords' hend hend hlines).1

/-- A text that imitates what stands around it is told apart, and one with line feeds stays on its
    line. -/
theorem listingText_legible_imitation :
    let early : List (String × Inhibitor) := [("7", ⟨5, "a\" why=\"b", "c\n8 9 who=\"\" why=\"\""⟩)]
    let late : List (String × Inhibitor) := [("7", ⟨5, "a", "b\" why=\"c\n8 9 who=\"\" why=\"\""⟩)]
    (∀ e ∈ early, IsWord e.1) ∧ (∀ e ∈ late, IsWord e.1) ∧
      listingText Text.isVisible early ≠ listingText Text.isVisible late ∧
      (listingText Text.isVisible early).toList.count '\n' = 1 := by
  intro early late
  have hearly : ∀ e ∈ early, IsWord e.1 := List.forall_mem_singleton.mpr ⟨by decide, by decide⟩
  have hlate : ∀ e ∈ late, IsWord e.1 := List.forall_mem_singleton.mpr ⟨by decide, by decide⟩
  obtain ⟨hsame, hfeeds, -⟩ := listingText_legible Text.isVisible hearly hlate
  exact ⟨hearly, hlate, fun htext => absurd (hsame htext) (by decide), hfeeds⟩

end SessionControl.Command
