import BadgeEntry.Proofs.Decimal.Nearest
import Mathlib.Data.Int.Log
import Mathlib.Data.Rat.Floor

/-!
# Rounding in steps

Rounding does not go past a number: what is rounded to a number that is above a fraction is no
more than any number above it, and the same downwards.  So a bound that is a number itself goes
through any chain of products and quotients, whatever each of them is rounded to.  Only what is
at least half a step beyond the greatest number is taken for too large.

## Main definitions

* `Binary64.magnitude` — a number without its sign, as a fraction.
* `Binary64.limit` — where the numbers end.

## Main results

* `Binary64.weight_spec` — the weight of the last digit of any fraction.
* `Binary64.exists_nearest?_of_lt` — **a fraction below the limit is rounded to a number.**
* `Binary64.magnitude_le_of_nearest?` — **rounding does not go past a number.**
* `Binary64.exists_times?_of_lt`, `Binary64.exists_over?_of_le` — products below the limit and
  quotients by numbers that are at least one.
* `Binary64.exists_ofDecimal?_of_neg` — **a decimal with a fraction is read as a number.**
-/

namespace BadgeEntry.Decimal.Binary64

/-- A number without its sign. -/
def magnitude (x : Binary64) : ℚ :=
  x.significand * 2 ^ x.exponent

/-- Half a step beyond the greatest number, `(2 ^ 53 - 1 / 2) · 2 ^ 971`. -/
def limit : ℕ := 0x3FFFFFFFFFFFFF * 2 ^ 970

theorem magnitude_nonneg (x : Binary64) : 0 ≤ x.magnitude :=
  mul_nonneg (Nat.cast_nonneg _) (two_zpow_pos _).le

theorem limit_eq : (limit : ℚ) = (2 ^ 53 - 1 / 2) * 2 ^ greatestExponent := by
  have hpow : (2 : ℚ) ^ greatestExponent = 2 ^ 970 * 2 :=
    (zpow_natCast 2 971).trans (pow_succ 2 970)
  rw [hpow, limit, Nat.cast_mul, Nat.cast_pow]
  generalize ((2 : ℕ) : ℚ) ^ 970 = p
  norm_num
  ring

theorem limit_lt : (limit : ℚ) < 2 ^ (1024 : ℤ) := by
  have hpow : limit < 2 ^ 1024 := by decide +kernel
  exact_mod_cast hpow

theorem Canonical.magnitude_lt {x : Binary64} (h : x.Canonical) : x.magnitude < limit := by
  obtain ⟨hsmall, -, hgreatest, -⟩ := h
  have hdigits : x.significand + 1 ≤ 2 ^ 53 := hsmall
  have hcast : (x.significand : ℚ) + 1 ≤ 2 ^ 53 := by exact_mod_cast hdigits
  rw [limit_eq]
  calc x.magnitude ≤ x.significand * 2 ^ greatestExponent :=
        mul_le_mul_of_nonneg_left (zpow_le_zpow_right₀ (by norm_num) hgreatest) (Nat.cast_nonneg _)
    _ < (2 ^ 53 - 1 / 2) * 2 ^ greatestExponent :=
        mul_lt_mul_of_pos_right (by linarith) (two_zpow_pos _)

theorem Canonical.magnitude_lt_two_zpow {x : Binary64} (h : x.Canonical) :
    x.magnitude < 2 ^ (x.exponent + 53) := by
  have hcast : (x.significand : ℚ) < 2 ^ (53 : ℤ) := by exact_mod_cast h.1
  rw [add_comm, two_zpow_add]
  exact mul_lt_mul_of_pos_right hcast (two_zpow_pos _)

/-- In units of the weight of its last digit, or of a lower one, a number is a natural number. -/
theorem exists_magnitude_eq {x : Binary64} {e : ℤ} (h : e ≤ x.exponent) :
    ∃ n : ℕ, x.magnitude = n * 2 ^ e := by
  obtain ⟨s, hs⟩ := Int.eq_ofNat_of_zero_le (sub_nonneg.mpr h)
  have hsum : x.exponent = s + e := by omega
  refine ⟨x.significand * 2 ^ s, ?_⟩
  rw [magnitude, hsum, two_zpow_add, zpow_natCast]
  push_cast
  ring

/-- Natural numbers of at most fifty-three digits are numbers, and so are their products with
powers of two that are not too large. -/
theorem exists_canonical {n s : ℕ} (hn : 0 < n) (hsmall : n < 2 ^ 53) (hs : s ≤ 970) :
    ∃ x : Binary64, x.Canonical ∧ x.magnitude = n * 2 ^ s := by
  have hlog : n.log2 < 53 := (Nat.log2_lt hn.ne').mpr hsmall
  have hlow := Nat.log2_self_le hn.ne'
  have hhigh := Nat.lt_log2_self (n := n)
  have hfull : n.log2 + (52 - n.log2) = 52 := by omega
  refine ⟨⟨false, n * 2 ^ (52 - n.log2), s - (52 - n.log2 : ℕ)⟩, ⟨?_, ?_, ?_, Or.inl ?_⟩, ?_⟩
  · calc n * 2 ^ (52 - n.log2) < 2 ^ (n.log2 + 1) * 2 ^ (52 - n.log2) :=
          Nat.mul_lt_mul_of_pos_right hhigh (Nat.pow_pos (by decide))
      _ = 2 * fullSignificand := by
          rw [pow_succ', mul_assoc, ← pow_add, hfull]
          rfl
  · unfold leastExponent
    dsimp only
    omega
  · unfold greatestExponent
    dsimp only
    omega
  · calc fullSignificand = 2 ^ n.log2 * 2 ^ (52 - n.log2) := by
          rw [← pow_add, hfull]
          rfl
      _ ≤ n * 2 ^ (52 - n.log2) := Nat.mul_le_mul_right _ hlow
  · have hpow : (2 : ℚ) ^ ((s : ℤ) - (52 - n.log2 : ℕ)) = 2 ^ s / 2 ^ (52 - n.log2) := by
      rw [zpow_sub₀ (by norm_num), zpow_natCast, zpow_natCast]
    rw [magnitude, hpow]
    push_cast
    field_simp

/-! ### One rounding -/

section
variable {num den : ℕ} (hden : 0 < den)
include hden

/-- A quotient that is less than a half above a natural number is rounded to it or below. -/
theorem roundDiv_le {n : ℕ} (h : (num / den : ℚ) < n + 1 / 2) : roundDiv num den ≤ n := by
  have hpos : (0 : ℚ) < den := by exact_mod_cast hden
  rw [div_lt_iff₀ hpos] at h
  have hcast : (2 * num : ℚ) < (2 * n + 1) * den := by linarith
  have hless : 2 * num < (2 * n + 1) * den := by exact_mod_cast hcast
  have hsplit := Nat.div_add_mod num den
  have hrest := Nat.mod_lt num hden
  unfold roundDiv
  generalize num / den = low at hsplit ⊢
  generalize num % den = rest at hsplit hrest ⊢
  dsimp only
  have hlow : low ≤ n := by
    by_contra hbeyond
    nlinarith
  split
  · exact hlow
  · next hhalf =>
    -- the quotient is not rounded up from the number itself
    have hbelow : low < n := by
      refine lt_of_le_of_ne hlow ?_
      rintro rfl
      nlinarith
    split
    · exact hbelow
    · split
      · exact hlow
      · exact hbelow

/-- A quotient is not rounded past a natural number below it. -/
theorem le_roundDiv {n : ℕ} (h : (n : ℚ) ≤ num / den) : n ≤ roundDiv num den := by
  have hpos : (0 : ℚ) < den := by exact_mod_cast hden
  rw [le_div_iff₀ hpos] at h
  have hless : n * den ≤ num := by exact_mod_cast h
  have hlow := (Nat.le_div_iff_mul_le hden).mpr hless
  unfold roundDiv
  dsimp only
  split
  · exact hlow
  · split
    · exact hlow.trans (Nat.le_succ _)
    · split
      · exact hlow
      · exact hlow.trans (Nat.le_succ _)

section
variable (hnum : 0 < num)
include hnum

/-- **The weight of the last digit** is the least one with which all digits are kept, up to
fifty-three. -/
theorem weight_spec : leastExponent ≤ weight num den ∧ (num / den : ℚ) < 2 ^ (weight num den + 53) ∧
    ((2 : ℚ) ^ (weight num den + 52) ≤ num / den ∨ weight num den = leastExponent) := by
  have hpos : (0 : ℚ) < num / den := by
    have hnum' : (0 : ℚ) < num := by exact_mod_cast hnum
    have hden' : (0 : ℚ) < den := by exact_mod_cast hden
    exact div_pos hnum' hden'
  have hlow := Int.zpow_log_le_self (b := 2) (by decide) hpos
  have hhigh := Int.lt_zpow_succ_log_self (b := 2) (by decide) (num / den : ℚ)
  rw [Nat.cast_ofNat] at hlow hhigh
  generalize hlog : Int.log 2 (num / den : ℚ) = l at hlow hhigh
  have hbelow : (num / den : ℚ) < 2 ^ (max (l - 52) leastExponent + 53) :=
    hhigh.trans_le (zpow_le_zpow_right₀ (by norm_num) (by omega))
  have habove : (2 : ℚ) ^ (max (l - 52) leastExponent + 52) ≤ num / den ∨
      max (l - 52) leastExponent = leastExponent := by
    rcases le_total (l - 52) leastExponent with hle | hge
    · exact Or.inr (max_eq_right hle)
    · rw [max_eq_left hge, sub_add_cancel]
      exact Or.inl hlow
  rw [weight_eq hnum hden (le_max_right _ _) hbelow habove]
  exact ⟨le_max_right _ _, hbelow, habove⟩

omit hden in
/-- What a fraction is rounded to, with the weight of its last digit. -/
theorem magnitude_of_nearest? {negative : Bool} {y : Binary64}
    (h : nearest? negative num den = some y) :
    y.magnitude = roundDiv (scaled num den (weight num den)).1 (scaled num den (weight num den)).2 *
      2 ^ weight num den := by
  rw [nearest?_eq_of_weight hnum rfl rfl] at h
  generalize weight num den = e at h ⊢
  generalize roundDiv _ _ = m at h ⊢
  split at h
  · next hcarry =>
    split at h
    · obtain rfl := Option.some.inj h
      rw [hcarry, magnitude, two_zpow_add]
      push_cast
      ring
    · cases h
  · split at h
    · obtain rfl := Option.some.inj h
      rfl
    · cases h

end

/-- **A fraction below the limit is rounded to a number.** -/
theorem exists_nearest?_of_lt (negative : Bool) (h : (num / den : ℚ) < limit) :
    ∃ y, nearest? negative num den = some y := by
  rcases Nat.eq_zero_or_pos num with rfl | hnum
  · exact ⟨zero negative, rfl⟩
  obtain ⟨-, -, hlow⟩ := weight_spec hden hnum
  rw [nearest?_eq_of_weight hnum rfl rfl]
  have hunits := scaled_div num den (weight num den)
  have hpos := scaled_snd_pos hden num (weight num den)
  generalize weight num den = e at hlow hunits hpos ⊢
  have hexponent : e ≤ greatestExponent := by
    rcases hlow with hlow | hleast
    · have hless := two_zpow_lt_iff.mp ((hlow.trans_lt h).trans limit_lt)
      unfold greatestExponent
      omega
    · rw [hleast]
      decide
  split
  · next hcarry =>
    -- what is rounded up to the next weight is not of the greatest one
    have hless : e ≠ greatestExponent := by
      rintro rfl
      have hround : roundDiv (scaled num den greatestExponent).1
          (scaled num den greatestExponent).2 ≤ 2 * fullSignificand - 1 := by
        refine roundDiv_le hpos ?_
        rw [hunits, div_lt_iff₀ (two_zpow_pos _)]
        refine h.trans_eq (limit_eq.trans (congrArg (· * 2 ^ greatestExponent) ?_))
        norm_num [fullSignificand]
      rw [hcarry] at hround
      exact absurd hround (by decide)
    rw [if_pos (by omega)]
    exact ⟨_, rfl⟩
  · exact ⟨_, rfl⟩

variable {negative : Bool} {y bound : Binary64} (hround : nearest? negative num den = some y)
  (hbound : bound.Canonical)
include hround hbound

/-- **Rounding does not go past a number** above the fraction. -/
theorem magnitude_le_of_nearest? (h : (num / den : ℚ) ≤ bound.magnitude) :
    y.magnitude ≤ bound.magnitude := by
  rcases Nat.eq_zero_or_pos num with rfl | hnum
  · obtain rfl : zero negative = y := Option.some.inj hround
    rw [magnitude, zero, Nat.cast_zero, zero_mul]
    exact bound.magnitude_nonneg
  obtain ⟨-, -, hlow⟩ := weight_spec hden hnum
  rw [magnitude_of_nearest? hnum hround]
  have hunits := scaled_div num den (weight num den)
  have hpos := scaled_snd_pos hden num (weight num den)
  generalize weight num den = e at hlow hunits hpos ⊢
  have hexponent : e ≤ bound.exponent := by
    rcases hlow with hlow | heq
    · have hless := two_zpow_lt_iff.mp ((hlow.trans h).trans_lt hbound.magnitude_lt_two_zpow)
      omega
    · rw [heq]
      exact hbound.2.1
  -- in units of the last digit the bound is a natural number
  obtain ⟨n, hn⟩ := exists_magnitude_eq hexponent
  rw [hn] at h ⊢
  refine mul_le_mul_of_nonneg_right ?_ (two_zpow_pos e).le
  refine Nat.cast_le.mpr (roundDiv_le hpos ?_)
  rw [hunits, div_lt_iff₀ (two_zpow_pos e)]
  refine h.trans_lt (mul_lt_mul_of_pos_right ?_ (two_zpow_pos e))
  linarith

/-- **Rounding does not go past a number** below the fraction. -/
theorem le_magnitude_of_nearest? (h : bound.magnitude ≤ num / den) :
    bound.magnitude ≤ y.magnitude := by
  rcases Nat.eq_zero_or_pos num with rfl | hnum
  · rw [Nat.cast_zero, zero_div] at h
    exact h.trans y.magnitude_nonneg
  obtain ⟨-, -, hlow⟩ := weight_spec hden hnum
  rw [magnitude_of_nearest? hnum hround]
  have hunits := scaled_div num den (weight num den)
  have hpos := scaled_snd_pos hden num (weight num den)
  generalize weight num den = e at hlow hunits hpos ⊢
  rcases le_or_gt e bound.exponent with hle | hgt
  · obtain ⟨s, hs⟩ := exists_magnitude_eq hle
    rw [hs] at h ⊢
    refine mul_le_mul_of_nonneg_right ?_ (two_zpow_pos e).le
    refine Nat.cast_le.mpr (le_roundDiv hpos ?_)
    rwa [hunits, le_div_iff₀ (two_zpow_pos e)]
  · -- the fraction has all fifty-three digits, and the number is of a lower order
    have hfull : (2 : ℚ) ^ (e + 52) ≤ num / den := by
      refine hlow.resolve_right fun hleast => ?_
      have := hbound.2.1
      omega
    have hdigits : 2 ^ 52 ≤ roundDiv (scaled num den e).1 (scaled num den e).2 := by
      refine le_roundDiv hpos ?_
      rw [hunits, le_div_iff₀ (two_zpow_pos e), Nat.cast_pow, Nat.cast_ofNat, ← zpow_natCast,
        ← two_zpow_add, add_comm]
      exact hfull
    have hcast : (2 ^ 52 : ℚ) ≤ roundDiv (scaled num den e).1 (scaled num den e).2 := by
      exact_mod_cast hdigits
    calc bound.magnitude ≤ 2 ^ (bound.exponent + 53) := hbound.magnitude_lt_two_zpow.le
      _ ≤ 2 ^ (52 + e) := zpow_le_zpow_right₀ (by norm_num) (by omega)
      _ = 2 ^ 52 * 2 ^ e := two_zpow_add 52 e
      _ ≤ _ := mul_le_mul_of_nonneg_right hcast (two_zpow_pos e).le

/-- A fraction that is a number is not changed. -/
theorem magnitude_eq_of_nearest? (h : (num / den : ℚ) = bound.magnitude) :
    y.magnitude = bound.magnitude :=
  le_antisymm (magnitude_le_of_nearest? hden hround hbound h.le)
    (le_magnitude_of_nearest? hden hround hbound h.ge)

end

/-- Rounding keeps the sign. -/
theorem negative_of_nearest? {negative : Bool} {num den : ℕ} {y : Binary64}
    (h : nearest? negative num den = some y) : y.negative = negative := by
  rcases Nat.eq_zero_or_pos num with rfl | hnum
  · obtain rfl : zero negative = y := Option.some.inj h
    rfl
  · rw [nearest?_eq_of_weight hnum rfl rfl] at h
    split at h
    · split at h
      · obtain rfl := Option.some.inj h
        rfl
      · cases h
    · split at h
      · obtain rfl := Option.some.inj h
        rfl
      · cases h

/-! ### Products and quotients -/

variable {x y bound : Binary64}

/-- The fraction that a product is rounded from. -/
theorem exists_times?_eq (x y : Binary64) : ∃ num den : ℕ, 0 < den ∧
    (num / den : ℚ) = x.magnitude * y.magnitude ∧
      x.times? y = nearest? (x.negative != y.negative) num den := by
  refine ⟨_, _, Nat.pow_pos (by decide), ?_, rfl⟩
  have hpow := pow_toNat_div (b := 2) (by norm_num) (x.exponent + y.exponent)
  simp only [Nat.pow_eq]
  push_cast
  rw [mul_div_assoc, hpow, two_zpow_add, magnitude, magnitude]
  ring

/-- The fraction that a quotient is rounded from. -/
theorem exists_over?_eq (x : Binary64) (hy : 0 < y.magnitude) : ∃ num den : ℕ, 0 < den ∧
    (num / den : ℚ) = x.magnitude / y.magnitude ∧
      x.over? y = nearest? (x.negative != y.negative) num den := by
  have hsome : 0 < y.significand := by
    refine Nat.pos_of_ne_zero fun hzero => hy.ne' ?_
    rw [magnitude, hzero, Nat.cast_zero, zero_mul]
  refine ⟨_, _, Nat.mul_pos hsome (Nat.pow_pos (by decide)), ?_, rfl⟩
  have hpow := pow_toNat_div (b := 2) (by norm_num) (x.exponent - y.exponent)
  simp only [Nat.pow_eq]
  push_cast
  rw [mul_div_mul_comm, hpow, zpow_sub₀ (by norm_num), magnitude, magnitude, mul_div_mul_comm]

/-- A product below the limit is a number. -/
theorem exists_times?_of_lt (h : x.magnitude * y.magnitude < limit) :
    ∃ z, x.times? y = some z := by
  obtain ⟨num, den, hden, hvalue, hproduct⟩ := exists_times?_eq x y
  rw [← hvalue] at h
  rw [hproduct]
  exact exists_nearest?_of_lt hden _ h

/-- A quotient by a number that is at least one is a number, and is no further from zero. -/
theorem exists_over?_of_le (hbound : bound.Canonical) (hx : x.magnitude ≤ bound.magnitude)
    (hy : 1 ≤ y.magnitude) : ∃ z, x.over? y = some z ∧ z.magnitude ≤ bound.magnitude := by
  obtain ⟨num, den, hden, hvalue, hquotient⟩ := exists_over?_eq x (zero_lt_one.trans_le hy)
  have hle : (num / den : ℚ) ≤ bound.magnitude := by
    rw [hvalue]
    exact (div_le_self x.magnitude_nonneg hy).trans hx
  obtain ⟨z, hz⟩ := exists_nearest?_of_lt hden (x.negative != y.negative)
    (hle.trans_lt hbound.magnitude_lt)
  rw [hquotient]
  exact ⟨z, hz, magnitude_le_of_nearest? hden hz hbound hle⟩

/-! ### Powers of ten -/

/-- **The powers of ten**: each of them is a number that is at least one, and those that leave
room for seventeen digits are below `2 ^ 967`. -/
theorem exists_tenPower? {k : ℕ} (hk : k ≤ greatestPower) :
    ∃ p, tenPower? k = some p ∧ 1 ≤ p.magnitude ∧ (k ≤ 291 → p.magnitude ≤ 2 ^ 967) := by
  have hfraction : ((Nat.pow 10 k : ℕ) / (1 : ℕ) : ℚ) = (10 ^ k : ℕ) := by
    rw [Nat.pow_eq, Nat.cast_one, div_one]
  have hlimit : 10 ^ k < limit := by
    have hlast : 10 ^ greatestPower < limit := by decide +kernel
    exact (Nat.pow_le_pow_right (by decide) hk).trans_lt hlast
  obtain ⟨p, hp⟩ : ∃ p, tenPower? k = some p :=
    exists_nearest?_of_lt Nat.one_pos false (hfraction.trans_lt (Nat.cast_lt.mpr hlimit))
  -- both bounds are numbers, and rounding does not go past a number
  refine ⟨p, hp, ?_, fun hfew => ?_⟩
  · obtain ⟨one, hone, hvalue⟩ :=
      exists_canonical (n := 1) (s := 0) (by decide) (by decide) (by decide)
    rw [Nat.cast_one, pow_zero, mul_one] at hvalue
    have hle := le_magnitude_of_nearest? Nat.one_pos hp hone
    rw [hvalue, hfraction] at hle
    exact hle (Nat.one_le_cast.mpr (Nat.one_le_pow k 10 (by decide)))
  · obtain ⟨bound, hbound, hvalue⟩ :=
      exists_canonical (n := 1) (s := 967) (by decide) (by decide) (by decide)
    rw [Nat.cast_one, one_mul] at hvalue
    have hle := magnitude_le_of_nearest? Nat.one_pos hp hbound
    rw [hvalue, hfraction] at hle
    have hpow : 10 ^ k ≤ 2 ^ 967 := ten_pow_le_two_pow (by omega)
    exact hle (by exact_mod_cast hpow)

/-- Dividing by powers of ten leads no further from zero. -/
theorem exists_shrink? (hbound : bound.Canonical) (hx : x.magnitude ≤ bound.magnitude) (n : ℕ) :
    ∃ z, x.shrink? n = some z ∧ z.magnitude ≤ bound.magnitude := by
  induction n generalizing x with
  | zero => exact ⟨x, rfl, hx⟩
  | succ n ih =>
    rw [shrink?]
    split
    · exact ⟨x, rfl, hx⟩
    · obtain ⟨p, hp, hone, -⟩ := exists_tenPower? (le_refl greatestPower)
      obtain ⟨y, hy, hle⟩ := exists_over?_of_le hbound hx hone
      rw [hp, Option.bind_some, hy, Option.bind_some]
      exact ih hle

theorem exists_lower? (hbound : bound.Canonical) (hx : x.magnitude ≤ bound.magnitude) (k : ℕ) :
    ∃ z, x.lower? k = some z := by
  have hrest : k - (k - 1) / greatestPower * greatestPower ≤ greatestPower := by
    unfold greatestPower
    omega
  obtain ⟨y, hy, hle⟩ := exists_shrink? hbound hx ((k - 1) / greatestPower)
  obtain ⟨p, hp, hone, -⟩ := exists_tenPower? hrest
  obtain ⟨z, hz, -⟩ := exists_over?_of_le hbound hle hone
  unfold lower?
  dsimp only
  rw [hy, Option.bind_some, hp, Option.bind_some]
  exact ⟨z, hz⟩

/-! ### Decimals -/

/-- Digits are rounded to a number that is no more than any number above them. -/
theorem exists_nearest?_digits (hbound : bound.Canonical) {digits : ℕ}
    (h : (digits : ℚ) ≤ bound.magnitude) (negative : Bool) :
    ∃ x, nearest? negative digits 1 = some x ∧ x.magnitude ≤ bound.magnitude := by
  have hle : (digits / (1 : ℕ) : ℚ) ≤ bound.magnitude := by rwa [Nat.cast_one, div_one]
  obtain ⟨x, hx⟩ := exists_nearest?_of_lt Nat.one_pos negative (hle.trans_lt hbound.magnitude_lt)
  exact ⟨x, hx, magnitude_le_of_nearest? Nat.one_pos hx hbound hle⟩

/-- **A decimal with a fraction is read as a number**, if sixty-four bits hold its digits. -/
theorem exists_ofDecimal?_of_neg (negative : Bool) {digits : ℕ} (hdigits : digits < 2 ^ 64)
    {scale : ℤ} (hscale : scale < 0) : ∃ x, ofDecimal? negative digits scale = some x := by
  obtain ⟨bound, hbound, hvalue⟩ :=
    exists_canonical (n := 1) (s := 64) Nat.one_pos (by decide) (by decide)
  have hle : (digits : ℚ) ≤ bound.magnitude := by
    rw [hvalue, Nat.cast_one, one_mul]
    exact_mod_cast hdigits.le
  obtain ⟨x, hx, hsmall⟩ := exists_nearest?_digits hbound hle negative
  unfold ofDecimal?
  rw [hx, Option.bind_some, if_neg (not_le.mpr hscale)]
  exact exists_lower? hbound hsmall _

end BadgeEntry.Decimal.Binary64
