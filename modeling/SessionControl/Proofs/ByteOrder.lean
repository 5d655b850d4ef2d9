import Mathlib.Algebra.Group.Nat.Defs

set_option autoImplicit false

/-! # The order of the bytes of texts

Texts are compared by their code points, and what encodes them by bytes. The two orders are the
same: of two characters the one with the smaller code point also comes first by its bytes, whatever
follows the two (`precedes_utf8EncodeChar`), so texts part in the same way at the first character in
which they differ. -/

namespace SessionControl.Text

/-! ## Bytes of a character -/

/-- The last bytes of a code point that takes several, six bits in each. -/
def trail : Nat → Nat → List UInt8
  | 0, _ => []
  | k + 1, v => UInt8.ofNat (v / 64 ^ k % 64 + 128) :: trail k v

/-- How many bytes follow the first one of a code point. -/
def trailLength (v : Nat) : Nat :=
  if v ≤ 127 then 0 else if v ≤ 2047 then 1 else if v ≤ 65535 then 2 else 3

/-- The first byte of a code point, from which it can be seen how many follow. -/
def lead (v : Nat) : Nat :=
  if v ≤ 127 then v
  else if v ≤ 2047 then v / 64 + 192
  else if v ≤ 65535 then v / 4096 + 224
  else v / 262144 + 240

theorem lead_cases (v : Nat) :
    (v ≤ 127 ∧ lead v = v ∧ trailLength v = 0) ∨
    (127 < v ∧ v ≤ 2047 ∧ lead v = v / 64 + 192 ∧ trailLength v = 1) ∨
    (2047 < v ∧ v ≤ 65535 ∧ lead v = v / 4096 + 224 ∧ trailLength v = 2) ∨
    (65535 < v ∧ lead v = v / 262144 + 240 ∧ trailLength v = 3) := by
  unfold lead trailLength
  by_cases h : v ≤ 127
  · exact .inl ⟨h, if_pos h, if_pos h⟩
  · rw [if_neg h, if_neg h]
    by_cases h' : v ≤ 2047
    · exact .inr (.inl ⟨Nat.lt_of_not_le h, h', if_pos h', if_pos h'⟩)
    · rw [if_neg h', if_neg h']
      by_cases h'' : v ≤ 65535
      · exact .inr (.inr (.inl ⟨Nat.lt_of_not_le h', h'', if_pos h'', if_pos h''⟩))
      · exact .inr (.inr (.inr ⟨Nat.lt_of_not_le h'', if_neg h'', if_neg h''⟩))

theorem toNat_lt (c : Char) : c.toNat < 1114112 := by
  have hvalid := c.valid
  unfold UInt32.isValidChar Nat.isValidChar at hvalid
  rw [Char.toNat]
  omega

theorem utf8EncodeChar_eq (c : Char) : String.utf8EncodeChar c =
    UInt8.ofNat (lead c.toNat) :: trail (trailLength c.toNat) c.toNat := by
  have hlt := toNat_lt c
  unfold String.utf8EncodeChar
  simp only [show c.val.toNat = c.toNat from rfl]
  generalize c.toNat = v at hlt
  rcases lead_cases v with ⟨h, hlead, hlength⟩ | ⟨h, h', hlead, hlength⟩ |
    ⟨h, h', hlead, hlength⟩ | ⟨h, hlead, hlength⟩
  · rw [hlead, hlength, if_pos h]
    rfl
  · rw [hlead, hlength, if_neg (by omega), if_pos h', Nat.mod_eq_of_lt (by omega : v / 64 < 32)]
    simp [trail]
  · rw [hlead, hlength, if_neg (by omega), if_neg (by omega), if_pos h',
      Nat.mod_eq_of_lt (by omega : v / 4096 < 16)]
    simp [trail]
  · rw [hlead, hlength, if_neg (by omega), if_neg (by omega), if_neg (by omega),
      Nat.mod_eq_of_lt (by omega : v / 262144 < 8)]
    simp [trail]

theorem lead_lt {v : Nat} (h : v < 1114112) : lead v < 256 := by
  have hcases := lead_cases v
  omega

/-- Either the first bytes decide, or the same number of bytes follows. -/
theorem lead_lt_or {v w : Nat} (h : v < w) (hw : w < 1114112) :
    lead v < lead w ∨ lead v = lead w ∧ trailLength v = trailLength w ∧
      v % 64 ^ trailLength v < w % 64 ^ trailLength v := by
  -- first bytes of different lengths lie in different ranges, in the order of the lengths
  rcases lead_cases v with ⟨hv, hlead, hlength⟩ | ⟨hv, hv', hlead, hlength⟩ |
      ⟨hv, hv', hlead, hlength⟩ | ⟨hv, hlead, hlength⟩ <;>
    rcases lead_cases w with ⟨hw, hlead', hlength'⟩ | ⟨hw, hw', hlead', hlength'⟩ |
      ⟨hw, hw', hlead', hlength'⟩ | ⟨hw, hlead', hlength'⟩ <;>
    rw [hlead, hlead', hlength, hlength'] <;> omega

/-! ## The order of characters -/

/-- However the two are continued, the first one stays before the second one. -/
def Precedes (xs ys : List UInt8) : Prop := ∀ s t, xs ++ s < ys ++ t

namespace Precedes

theorem head {m n : Nat} (h : m < n) (hn : n < 256) (xs ys : List UInt8) :
    Precedes (UInt8.ofNat m :: xs) (UInt8.ofNat n :: ys) := by
  intro s t
  refine List.cons_lt_cons_iff.mpr (.inl ?_)
  exact (UInt8.ofNat_lt_iff_lt (Nat.lt_trans h hn) hn).mpr h

theorem tail (b : UInt8) {xs ys : List UInt8} (h : Precedes xs ys) :
    Precedes (b :: xs) (b :: ys) :=
  fun s t => List.cons_lt_cons_iff.mpr (.inr ⟨rfl, h s t⟩)

end Precedes

theorem precedes_trail {k v w : Nat} (h : v % 64 ^ k < w % 64 ^ k) :
    Precedes (trail k v) (trail k w) := by
  induction k with
  | zero => omega
  | succ k ih =>
      rw [Nat.pow_succ, Nat.mod_mul, Nat.mod_mul] at h
      have hdigit : ∀ u, u / 64 ^ k % 64 < 64 := fun u => Nat.mod_lt _ (by decide)
      rcases Nat.lt_trichotomy (v / 64 ^ k % 64) (w / 64 ^ k % 64) with hlt | heq | hgt
      · have hw := hdigit w
        exact .head (by omega) (by omega) _ _
      · rw [heq] at h
        simp only [trail, heq]
        exact (ih (by omega)).tail _
      · -- the higher digit counts for more than all digits below it
        have hbelow : w % 64 ^ k < 64 ^ k := Nat.mod_lt _ (Nat.pow_pos (by decide))
        have habove := Nat.mul_le_mul_left (64 ^ k) hgt
        rw [Nat.mul_succ] at habove
        omega

theorem precedes_utf8EncodeChar {c d : Char} (h : c < d) :
    Precedes (String.utf8EncodeChar c) (String.utf8EncodeChar d) := by
  rw [utf8EncodeChar_eq, utf8EncodeChar_eq]
  rcases lead_lt_or (show c.toNat < d.toNat from h) (toNat_lt d) with
    hlead | ⟨hlead, hlength, hrest⟩
  · exact .head hlead (lead_lt (toNat_lt d)) _ _
  · rw [hlead, ← hlength]
    exact (precedes_trail hrest).tail _

/-! ## The order of texts -/

/-- The bytes of a text. -/
def bytes (text : String) : List UInt8 := text.toUTF8.data.toList

theorem bytes_eq (text : String) : bytes text = text.toList.flatMap String.utf8EncodeChar := by
  rw [bytes, String.toUTF8, ← String.utf8Encode_toList, List.utf8Encode]
  simp

theorem append_lt_append (xs : List UInt8) {s t : List UInt8} (h : s < t) : xs ++ s < xs ++ t := by
  induction xs with
  | nil => exact h
  | cons x xs ih => exact List.cons_lt_cons_iff.mpr (.inr ⟨rfl, ih⟩)

/-- A text that comes before another one does so by its bytes. -/
theorem bytes_lt_bytes {a b : String} (h : a < b) : bytes a < bytes b := by
  rw [String.lt_iff] at h
  rw [bytes_eq, bytes_eq]
  generalize a.toList = cs at h
  generalize b.toList = ds at h
  -- up to the first character in which they differ, the bytes are the same
  induction cs generalizing ds with
  | nil =>
      cases ds with
      | nil => exact absurd h (List.lt_irrefl _)
      | cons d ds =>
          rw [List.flatMap_cons, utf8EncodeChar_eq]
          exact List.nil_lt_cons _ _
  | cons c cs ih =>
      cases ds with
      | nil => exact absurd h (List.not_lt_nil _)
      | cons d ds =>
          rw [List.flatMap_cons, List.flatMap_cons]
          rcases List.cons_lt_cons_iff.mp h with hlt | ⟨rfl, hrest⟩
          · exact precedes_utf8EncodeChar hlt _ _
          · exact append_lt_append _ (ih ds hrest)

end SessionControl.Text
