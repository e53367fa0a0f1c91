import BadgeEntry.Proofs.Decimal.Rounding
import BadgeEntry.Proofs.Decimal.Shortest

/-!
# Shortest decimals are within reach

The digits of a decimal are rounded, and so is the power of ten that they are multiplied by.
Together this may lead past the greatest number from a decimal that does not lie past it.  No
shortest decimal is one of these.  Those with a fraction are far from the limit, and so are those
with fewer than 292 zeros, which have hardly more than sixteen digits.  For each of the other powers
of ten there is a greatest product that has to be looked at: that with the last number below the
upper end of the interval before the greatest number.  The greatest number itself has one decimal.

## Main definitions

* `Binary64.greatest` — the greatest number.
* `Binary64.reach` — the upper end of the interval before it.

## Main results

* `Binary64.exists_ofDecimal?_of_le_reach` — few digits below that end are read as a number.
* `Binary64.exists_ofDecimal?_shortest` — **a shortest decimal is read as a number.**
-/

namespace BadgeEntry.Decimal.Binary64

/-- The greatest number. -/
def greatest (negative : Bool) : Binary64 :=
  ⟨negative, 2 * fullSignificand - 1, greatestExponent⟩

/-- The upper end of the interval of the number before the greatest one,
`(2 ^ 53 - 3 / 2) · 2 ^ 971`. -/
def reach : ℕ := 0x3FFFFFFFFFFFFD * 2 ^ 970

theorem reach_eq : (reach : ℚ) = (2 ^ 56 - 12) * 2 ^ (968 : ℤ) := by
  have hpow : (2 : ℚ) ^ 970 = 2 ^ (968 : ℤ) * 4 := (pow_add 2 968 2).trans (by norm_num)
  rw [reach, Nat.cast_mul, Nat.cast_pow, Nat.cast_ofNat, Nat.cast_ofNat, hpow]
  generalize (2 : ℚ) ^ (968 : ℤ) = p
  norm_num
  ring

/-- A product of rounded digits with a power of ten below the limit is read as a number. -/
theorem exists_ofDecimal?_of_lt (negative : Bool) {bound p : Binary64} {digits k : ℕ}
    (hbound : bound.Canonical) (hdigits : (digits : ℚ) ≤ bound.magnitude)
    (hk : k ≤ greatestPower) (hp : tenPower? k = some p)
    (hlimit : bound.magnitude * p.magnitude < limit) :
    ∃ y, ofDecimal? negative digits k = some y := by
  obtain ⟨x, hx, hsmall⟩ := exists_nearest?_digits hbound hdigits negative
  have hproduct : x.magnitude * p.magnitude < limit :=
    (mul_le_mul_of_nonneg_right hsmall p.magnitude_nonneg).trans_lt hlimit
  unfold ofDecimal?
  rw [hx, Option.bind_some, if_pos (Int.natCast_nonneg k), Int.toNat_natCast, raise?, if_pos hk, hp,
    Option.bind_some]
  exact exists_times?_of_lt hproduct

/-- **The last products before the limit**: for each of the great powers of ten, the natural numbers
whose products with it are within reach are no more than a number whose product is still below the
limit. -/
theorem exists_bound_of_reach {k : ℕ} (hlow : 292 ≤ k) (hhigh : k ≤ greatestPower) :
    ∃ bound p : Binary64, bound.Canonical ∧ ((reach / 10 ^ k : ℕ) : ℚ) = bound.magnitude ∧
      tenPower? k = some p ∧ bound.magnitude * p.magnitude < limit := by
  have hall : ∀ i : Fin 17, 0 < reach / 10 ^ (292 + i : ℕ) ∧
      (reach / 10 ^ (292 + i : ℕ) < 2 ^ 53 ∨
        2 ∣ reach / 10 ^ (292 + i : ℕ) ∧ reach / 10 ^ (292 + i : ℕ) < 2 ^ 54) ∧
      (tenPower? (292 + i)).any (fun p => 0 ≤ p.exponent ∧
        reach / 10 ^ (292 + i : ℕ) * (p.significand * 2 ^ p.exponent.toNat) < limit) = true := by
    decide +kernel
  obtain ⟨i, rfl⟩ := Nat.exists_eq_add_of_le hlow
  unfold greatestPower at hhigh
  obtain ⟨hpos, hform, hpower⟩ := hall ⟨i, by omega⟩
  generalize reach / 10 ^ (292 + i) = n at hpos hform hpower ⊢
  cases hp : tenPower? (292 + i) with
  | none => simp [hp] at hpower
  | some p =>
    rw [hp, Option.any_some, decide_eq_true_eq] at hpower
    obtain ⟨hwhole, hproduct⟩ := hpower
    obtain ⟨bound, hbound, hvalue⟩ :
        ∃ bound : Binary64, bound.Canonical ∧ (n : ℚ) = bound.magnitude := by
      rcases hform with hsmall | ⟨⟨m, rfl⟩, hsmall⟩
      · obtain ⟨bound, hbound, hvalue⟩ := exists_canonical hpos hsmall (Nat.zero_le 970)
        exact ⟨bound, hbound, by rw [hvalue, pow_zero, mul_one]⟩
      · obtain ⟨bound, hbound, hvalue⟩ :=
          exists_canonical (n := m) (s := 1) (by omega) (by omega) (by decide)
        exact ⟨bound, hbound, by rw [hvalue, pow_one, Nat.cast_mul, Nat.cast_ofNat, mul_comm]⟩
    refine ⟨bound, p, hbound, hvalue, rfl, ?_⟩
    obtain ⟨e, he⟩ := Int.eq_ofNat_of_zero_le hwhole
    rw [he, Int.toNat_natCast] at hproduct
    rw [← hvalue, magnitude, he, zpow_natCast]
    exact_mod_cast hproduct

/-- **Few digits within reach are read as a number.** -/
theorem exists_ofDecimal?_of_le_reach (negative : Bool) {digits k : ℕ} (hpos : 0 < digits)
    (hfew : digits ≤ 15 * 2 ^ 53) (hreach : digits * 10 ^ k ≤ reach) :
    ∃ y, ofDecimal? negative digits k = some y := by
  have hpower : k ≤ greatestPower := by
    have hends : reach < 10 ^ (greatestPower + 1) := by decide +kernel
    have hpow : 10 ^ k < 10 ^ (greatestPower + 1) := by
      generalize 10 ^ (greatestPower + 1) = m at hends
      exact (Nat.le_mul_of_pos_left _ hpos).trans_lt (hreach.trans_lt hends)
    rw [Nat.pow_lt_pow_iff_right (by decide)] at hpow
    exact Nat.le_of_lt_succ hpow
  rcases Nat.lt_or_ge k 292 with hfar | hnear
  · -- seventeen digits leave room for all these powers
    obtain ⟨p, hp, -, hp'⟩ := exists_tenPower? hpower
    obtain ⟨bound, hbound, hvalue⟩ :=
      exists_canonical (n := 15) (s := 53) (by decide) (by decide) (by decide)
    refine exists_ofDecimal?_of_lt negative hbound ?_ hpower hp ?_
    · rw [hvalue]
      exact_mod_cast hfew
    · have hroom : 15 * 2 ^ 53 * 2 ^ 967 < limit := by decide +kernel
      rw [hvalue]
      refine (mul_le_mul_of_nonneg_left (hp' (Nat.le_of_lt_succ hfar)) (by positivity)).trans_lt ?_
      exact_mod_cast hroom
  · obtain ⟨bound, p, hbound, hvalue, hp, hlimit⟩ := exists_bound_of_reach hnear hpower
    refine exists_ofDecimal?_of_lt negative hbound ?_ hpower hp hlimit
    rw [← hvalue]
    exact_mod_cast (Nat.le_div_iff_mul_le (Nat.pow_pos (by decide))).mpr hreach

/-- What a number that is not the greatest one stands for is within reach. -/
theorem Covers.le_reach {x : Binary64} (hx : x.Canonical) (hpos : 0 < x.significand)
    (hless : x ≠ greatest x.negative) {q : ℚ} (h : x.Covers q) : q ≤ reach := by
  obtain ⟨hsmall, -, hgreatest, -⟩ := hx
  have hdigits : x.significand + 1 ≤ 2 ^ 53 := hsmall
  have hcast : (x.significand : ℚ) + 1 ≤ 2 ^ 53 := by exact_mod_cast hdigits
  refine (h.le hpos).trans ?_
  rw [reach_eq]
  rcases hgreatest.eq_or_lt with hlast | hbelow
  · have hother : x.significand + 2 ≤ 2 ^ 53 := by
      refine Nat.succ_le_of_lt (lt_of_le_of_ne hdigits fun hfull => hless ?_)
      have hsignificand : x.significand = 2 * fullSignificand - 1 := Nat.eq_sub_of_add_eq hfull
      rw [greatest, ← hsignificand, ← hlast]
    have hcast' : (x.significand : ℚ) + 2 ≤ 2 ^ 53 := by exact_mod_cast hother
    have hexponent : x.exponent - 2 = 968 + 1 := by rw [hlast]; rfl
    rw [hexponent, two_zpow_add, zpow_one, mul_left_comm, mul_comm]
    refine mul_le_mul_of_nonneg_right ?_ (two_zpow_pos _).le
    linarith
  · have hexponent : (2 : ℚ) ^ (x.exponent - 2) ≤ 2 ^ (968 : ℤ) := by
      refine zpow_le_zpow_right₀ (by norm_num) ?_
      unfold greatestExponent at hbelow
      omega
    refine (mul_le_mul_of_nonneg_left hexponent (by positivity)).trans ?_
    refine mul_le_mul_of_nonneg_right ?_ (two_zpow_pos _).le
    linarith

/-- **A shortest decimal is read as a number**, if it has no fraction. -/
theorem exists_ofDecimal?_shortest {x : Binary64} (hx : x.Canonical) (hpos : 0 < x.significand)
    (hwhole : 0 ≤ x.shortest.exponent) :
    ∃ y, ofDecimal? x.negative x.shortest.coefficient x.shortest.exponent = some y := by
  by_cases hgreatest : x = greatest x.negative
  · -- its interval ends beyond the reach, but there is one decimal only
    have hall : ∀ negative : Bool, (ofDecimal? negative (greatest negative).shortest.coefficient
        (greatest negative).shortest.exponent).isSome = true := by decide +kernel
    have hsome := hall x.negative
    rw [← hgreatest] at hsome
    exact Option.isSome_iff_exists.mp hsome
  · have hcovers := covers_shortest hx hpos
    have hle := hcovers.le_reach hx hpos hgreatest
    obtain ⟨k, hk⟩ := Int.eq_ofNat_of_zero_le hwhole
    rw [hk] at hle ⊢
    rw [zpow_natCast] at hle
    exact exists_ofDecimal?_of_le_reach x.negative (shortest_coefficient_pos hx hpos)
      (shortest_coefficient_le hx hpos) (by exact_mod_cast hle)

end BadgeEntry.Decimal.Binary64
