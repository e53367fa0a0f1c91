import Mathlib.Algebra.Group.Nat.Defs
import BadgeEntry.Text.Utf8

/-!
# The order of texts and the order of their bytes

Texts are compared character by character, their bytes one by one, and both orders are
the same.  The first byte of a character shows how many bytes follow it, and more bytes
are announced by a larger first byte.  Characters with the same number of bytes are
compared digit by digit in base sixty-four, from the highest digit on.

## Main definitions

* `laterCount`, `firstByte`, `laterBytes` — how many bytes follow the first one of a
  character, that first byte, and those that follow.

## Main results

* `utf8EncodeChar_eq` — a character is its first byte and those that follow.
* `encode_lt_encode_iff` — **texts are in the order of their bytes.**
-/

namespace BadgeEntry.Utf8

/-! ### Characters -/

/-- How many bytes follow the first one of the character with a number. -/
def laterCount (v : Nat) : Nat :=
  if v ≤ 0x7F then 0 else if v ≤ 0x7FF then 1 else if v ≤ 0xFFFF then 2 else 3

/-- The first byte of the character with a number: its highest digit, and a mark that
shows how many bytes follow. -/
def firstByte (v : Nat) : Nat :=
  v / 64 ^ laterCount v + [0, 0xC0, 0xE0, 0xF0].getD (laterCount v) 0

/-- The `k` lowest digits of a number in base sixty-four, each in a byte of its own. -/
def laterBytes : Nat → Nat → List UInt8
  | 0, _ => []
  | k + 1, v => UInt8.ofNat (v / 64 ^ k % 64 + 0x80) :: laterBytes k v

theorem toNat_lt (c : Char) : c.toNat < 0x110000 := by
  have hvalid : c.toNat < 0xD800 ∨ (0xDFFF < c.toNat ∧ c.toNat < 0x110000) := c.valid
  omega

/-- The four lengths of a character. -/
theorem laterCount_cases (v : Nat) :
    (v ≤ 0x7F ∧ laterCount v = 0 ∧ firstByte v = v) ∨
    (0x7F < v ∧ v ≤ 0x7FF ∧ laterCount v = 1 ∧ firstByte v = v / 64 + 0xC0) ∨
    (0x7FF < v ∧ v ≤ 0xFFFF ∧ laterCount v = 2 ∧ firstByte v = v / 4096 + 0xE0) ∨
    (0xFFFF < v ∧ laterCount v = 3 ∧ firstByte v = v / 262144 + 0xF0) := by
  by_cases h₁ : v ≤ 0x7F
  · have hcount : laterCount v = 0 := if_pos h₁
    exact Or.inl ⟨h₁, hcount, by simp [firstByte, hcount]⟩
  by_cases h₂ : v ≤ 0x7FF
  · have hcount : laterCount v = 1 := by simp [laterCount, h₁, h₂]
    exact Or.inr (Or.inl ⟨by omega, h₂, hcount, by simp [firstByte, hcount]⟩)
  by_cases h₃ : v ≤ 0xFFFF
  · have hcount : laterCount v = 2 := by simp [laterCount, h₁, h₂, h₃]
    exact Or.inr (Or.inr (Or.inl ⟨by omega, h₃, hcount, by simp [firstByte, hcount]⟩))
  · have hcount : laterCount v = 3 := by simp [laterCount, h₁, h₂, h₃]
    exact Or.inr (Or.inr (Or.inr ⟨by omega, hcount, by simp [firstByte, hcount]⟩))

theorem firstByte_lt {v : Nat} (h : v < 0x110000) : firstByte v < 256 := by
  rcases laterCount_cases v with ⟨_, -, hfirst⟩ | ⟨_, _, -, hfirst⟩ | ⟨_, _, -, hfirst⟩ |
    ⟨_, -, hfirst⟩ <;> rw [hfirst] <;> omega

/-- A character is its first byte and those that follow. -/
theorem utf8EncodeChar_eq (c : Char) :
    String.utf8EncodeChar c =
      UInt8.ofNat (firstByte c.toNat) :: laterBytes (laterCount c.toNat) c.toNat := by
  have hlt := toNat_lt c
  have hval : c.val.toNat = c.toNat := rfl
  simp only [String.utf8EncodeChar, hval]
  generalize c.toNat = v at hlt
  rcases laterCount_cases v with ⟨h, hcount, hfirst⟩ | ⟨h, h', hcount, hfirst⟩ |
    ⟨h, h', hcount, hfirst⟩ | ⟨h, hcount, hfirst⟩
  · rw [if_pos h, hcount, hfirst]
    rfl
  · rw [if_neg (by omega), if_pos h', hcount, hfirst, Nat.mod_eq_of_lt (by omega : v / 64 < 32)]
    simp [laterBytes]
  · rw [if_neg (by omega), if_neg (by omega), if_pos h', hcount, hfirst,
      Nat.mod_eq_of_lt (by omega : v / 4096 < 16)]
    simp [laterBytes]
  · rw [if_neg (by omega), if_neg (by omega), if_neg (by omega), hcount, hfirst,
      Nat.mod_eq_of_lt (by omega : v / 262144 < 8)]
    simp [laterBytes]

/-- A larger number has a larger first byte, or the same one and as many that follow. -/
theorem firstByte_lt_or_eq {v w : Nat} (hlt : v < w) (hw : w < 0x110000) :
    firstByte v < firstByte w ∨ firstByte v = firstByte w ∧ laterCount v = laterCount w ∧
      v / 64 ^ laterCount v = w / 64 ^ laterCount v := by
  rcases laterCount_cases v with ⟨h, hcount, hfirst⟩ | ⟨h, h', hcount, hfirst⟩ |
    ⟨h, h', hcount, hfirst⟩ | ⟨h, hcount, hfirst⟩ <;>
  rcases laterCount_cases w with ⟨k, hcount', hfirst'⟩ | ⟨k, k', hcount', hfirst'⟩ |
    ⟨k, k', hcount', hfirst'⟩ | ⟨k, hcount', hfirst'⟩ <;>
  rw [hcount, hcount', hfirst, hfirst'] <;> simp <;> omega

/-! ### Bytes -/

/-- Numbers below 256 are compared as bytes as they are compared as numbers. -/
theorem cons_ofNat_lt {m n : Nat} {xs ys : List UInt8} (hm : m < 256) (hn : n < 256)
    (h : m < n ∨ m = n ∧ xs < ys) : UInt8.ofNat m :: xs < UInt8.ofNat n :: ys := by
  rw [List.cons_lt_cons_iff, UInt8.lt_iff_toNat_lt, UInt8.toNat_ofNat_of_lt' hm,
    UInt8.toNat_ofNat_of_lt' hn]
  rcases h with hlt | ⟨heq, hrest⟩
  · exact Or.inl hlt
  · exact Or.inr ⟨by rw [heq], hrest⟩

/-- Numbers that agree above their lowest digits are compared by these. -/
theorem laterBytes_append_lt {k v w : Nat} (hlt : v < w) (hhigh : v / 64 ^ k = w / 64 ^ k)
    (xs ys : List UInt8) : laterBytes k v ++ xs < laterBytes k w ++ ys := by
  induction k with
  | zero =>
    simp only [Nat.pow_zero, Nat.div_one] at hhigh
    omega
  | succ k ih =>
    rw [Nat.pow_succ, ← Nat.div_div_eq_div_mul, ← Nat.div_div_eq_div_mul] at hhigh
    have hle : v / 64 ^ k ≤ w / 64 ^ k := Nat.div_le_div_right (Nat.le_of_lt hlt)
    refine cons_ofNat_lt (by omega) (by omega) ?_
    rcases Nat.lt_or_eq_of_le hle with hdigit | hdigit
    · exact Or.inl (by omega)
    · exact Or.inr ⟨by rw [hdigit], ih hdigit⟩

/-- The bytes of a smaller character come first, whatever follows them. -/
theorem utf8EncodeChar_append_lt {c d : Char} (h : c < d) (xs ys : List UInt8) :
    String.utf8EncodeChar c ++ xs < String.utf8EncodeChar d ++ ys := by
  have hlt : c.toNat < d.toNat := h
  rw [utf8EncodeChar_eq, utf8EncodeChar_eq]
  refine cons_ofNat_lt (firstByte_lt (toNat_lt c)) (firstByte_lt (toNat_lt d)) ?_
  rcases firstByte_lt_or_eq hlt (toNat_lt d) with hfirst | ⟨hfirst, hcount, hhigh⟩
  · exact Or.inl hfirst
  · rw [← hcount]
    exact Or.inr ⟨hfirst, laterBytes_append_lt hlt hhigh xs ys⟩

theorem encode_lt_encode {cs ds : List Char} (h : cs < ds) : encode cs < encode ds := by
  induction cs generalizing ds with
  | nil =>
    cases ds with
    | nil => exact absurd h (List.lt_irrefl _)
    | cons d ds =>
      rw [encode_cons, utf8EncodeChar_eq]
      exact List.nil_lt_cons _ _
  | cons c cs ih =>
    cases ds with
    | nil => exact absurd h (List.not_lt_nil _)
    | cons d ds =>
      rw [encode_cons, encode_cons]
      rcases List.cons_lt_cons_iff.mp h with hchar | ⟨rfl, hrest⟩
      · exact utf8EncodeChar_append_lt hchar _ _
      · exact List.append_left_lt (ih hrest)

/-- **Texts are in the order of their bytes.** -/
theorem encode_lt_encode_iff {cs ds : List Char} : encode cs < encode ds ↔ cs < ds := by
  refine ⟨fun h => ?_, encode_lt_encode⟩
  -- otherwise the texts are equal or in the opposite order, and so are their bytes
  by_cases hlt : cs < ds
  · exact hlt
  by_cases hgt : ds < cs
  · exact absurd h (List.lt_asymm (encode_lt_encode hgt))
  · have heq : cs = ds := List.le_antisymm (List.not_lt.mp hgt) (List.not_lt.mp hlt)
    rw [heq] at h
    exact absurd h (List.lt_irrefl _)

end BadgeEntry.Utf8
