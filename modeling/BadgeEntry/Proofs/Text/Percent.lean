import BadgeEntry.Text.Percent
import Mathlib.Tactic.Common

/-!
# What percent codes leave

After a text was coded no character is left in it that would be coded again, provided that
the percent sign and the digits of codes stand for themselves.  So coding a text that was
coded before changes nothing.

## Main definitions

* `IsUncoded` — the characters that stand for themselves.
* `KeepsCodes` — the sets that leave codes alone.

## Main results

* `isUncoded_of_mem_percentEncode` — **nothing that would be coded is left.**
* `percentEncode_eq_self` — a text without such characters is not changed.
-/

namespace BadgeEntry.Text

/-- Whether `c` stands for itself. -/
def IsUncoded (coded : Char → Bool) (c : Char) : Prop :=
  c.toNat < 0x80 ∧ coded c = false

/-- Whether the sign and the digits of codes stand for themselves. -/
structure KeepsCodes (coded : Char → Bool) : Prop where
  percent : coded '%' = false
  digit : ∀ n : Fin 16, coded (upperHexDigit n) = false

variable {coded : Char → Bool}

theorem percentEncode_append (cs ds : List Char) :
    percentEncode coded (cs ++ ds) = percentEncode coded cs ++ percentEncode coded ds :=
  List.flatMap_append

theorem percentChar_of_isUncoded {c : Char} (h : IsUncoded coded c) :
    percentChar coded c = [c] := by
  unfold percentChar
  rw [if_pos]
  simp [h.1, h.2]

/-- A text in which all characters stand for themselves is not changed. -/
theorem percentEncode_eq_self {cs : List Char} (h : ∀ c ∈ cs, IsUncoded coded c) :
    percentEncode coded cs = cs := by
  induction cs with
  | nil => rfl
  | cons c cs ih =>
    rw [List.forall_mem_cons] at h
    rw [percentEncode_cons, percentChar_of_isUncoded h.1, ih h.2, List.singleton_append]

theorem upperHexDigit_lt {n : Nat} (h : n < 16) : (upperHexDigit n).toNat < 0x80 := by
  have hall : ∀ n : Fin 16, (upperHexDigit n).toNat < 0x80 := by decide
  exact hall ⟨n, h⟩

theorem isUncoded_of_mem_percentByte (hkeeps : KeepsCodes coded) {b : UInt8} {c : Char}
    (h : c ∈ percentByte b) : IsUncoded coded c := by
  have hb : b.toNat < 256 := b.toNat_lt
  have hhigh : b.toNat / 16 < 16 := by omega
  have hlow : b.toNat % 16 < 16 := by omega
  simp only [percentByte, List.mem_cons, List.not_mem_nil, or_false] at h
  rcases h with rfl | rfl | rfl
  · exact ⟨by decide, hkeeps.percent⟩
  · exact ⟨upperHexDigit_lt hhigh, hkeeps.digit ⟨_, hhigh⟩⟩
  · exact ⟨upperHexDigit_lt hlow, hkeeps.digit ⟨_, hlow⟩⟩

/-- A character that does not stand for itself is written in codes. -/
theorem percentChar_of_not_isUncoded {c : Char} (h : ¬IsUncoded coded c) :
    percentChar coded c = (String.utf8EncodeChar c).flatMap percentByte := by
  unfold percentChar
  rw [if_neg]
  rw [Bool.and_eq_true, decide_eq_true_eq, Bool.not_eq_true']
  exact h

/-- What is written was there before, or belongs to a code. -/
theorem mem_or_of_mem_percentEncode {cs : List Char} {c : Char} (h : c ∈ percentEncode coded cs) :
    c ∈ cs ∨ ∃ b, c ∈ percentByte b := by
  obtain ⟨d, hd, hc⟩ := List.mem_flatMap.mp h
  by_cases hself : IsUncoded coded d
  · rw [percentChar_of_isUncoded hself, List.mem_singleton] at hc
    exact Or.inl (hc ▸ hd)
  · rw [percentChar_of_not_isUncoded hself] at hc
    obtain ⟨b, -, hb⟩ := List.mem_flatMap.mp hc
    exact Or.inr ⟨b, hb⟩

/-- **Nothing that would be coded is left.** -/
theorem isUncoded_of_mem_percentEncode (hkeeps : KeepsCodes coded) {cs : List Char} :
    ∀ c ∈ percentEncode coded cs, IsUncoded coded c := by
  intro c hc
  obtain ⟨d, -, hd⟩ := List.mem_flatMap.mp hc
  by_cases hself : IsUncoded coded d
  · rw [percentChar_of_isUncoded hself] at hd
    rw [List.mem_singleton.mp hd]
    exact hself
  · rw [percentChar_of_not_isUncoded hself] at hd
    obtain ⟨b, -, hb⟩ := List.mem_flatMap.mp hd
    exact isUncoded_of_mem_percentByte hkeeps hb

/-! ### ASCII -/

/-- What holds of the ASCII characters one by one. -/
theorem of_ascii {P : Char → Prop} (hall : ∀ n : Fin 128, P (Char.ofNat n)) {c : Char}
    (h : c.toNat < 0x80) : P c := by
  have hc := hall ⟨c.toNat, h⟩
  rwa [Char.ofNat_toNat] at hc

/-- An ASCII text is as many bytes long as characters. -/
theorem encode_of_ascii {cs : List Char} (h : ∀ c ∈ cs, c.toNat < 0x80) :
    Utf8.encode cs = cs.map fun c => UInt8.ofNat c.toNat := by
  induction cs with
  | nil => rfl
  | cons c cs ih =>
    rw [List.forall_mem_cons] at h
    have hchar : String.utf8EncodeChar c = [UInt8.ofNat c.toNat] :=
      if_pos (Nat.le_of_lt_succ h.1)
    rw [Utf8.encode_cons, ih h.2, hchar, List.map_cons, List.singleton_append]

/-- Bytes without a percent sign stand for themselves. -/
theorem percentDecode_eq_self {bytes : List UInt8} (h : ∀ b ∈ bytes, b ≠ 0x25) :
    percentDecode bytes = bytes := by
  induction bytes with
  | nil => rfl
  | cons b bytes ih =>
    rw [List.forall_mem_cons] at h
    rw [percentDecode_cons_of_ne h.1, ih h.2]

end BadgeEntry.Text
