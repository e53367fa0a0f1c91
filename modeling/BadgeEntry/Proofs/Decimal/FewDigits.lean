import BadgeEntry.Proofs.Decimal.Rounding

/-!
# Few digits and small powers of ten

Digits below `2 ^ 53` are a number, and so are the powers of ten up to `10 ^ 22`, since `5 ^ 22` is
below `2 ^ 53` as well.  A decimal of such digits and such a power is rounded only once, and so it
is read as the number that stands for it.

## Main results

* `Binary64.exists_nearest?_eq` — natural numbers that are numbers are not changed.
* `Binary64.Covers.ofDecimal?_eq` — **few digits are read as the number that stands for them.**
-/

namespace BadgeEntry.Decimal.Binary64

/-- A natural number that is a number is not changed. -/
theorem exists_nearest?_eq (negative : Bool) {bound : Binary64} (hbound : bound.Canonical) {n : ℕ}
    (h : (n : ℚ) = bound.magnitude) :
    ∃ y, nearest? negative n 1 = some y ∧ y.negative = negative ∧ y.magnitude = n := by
  have hvalue : (n / (1 : ℕ) : ℚ) = bound.magnitude := by rwa [Nat.cast_one, div_one]
  obtain ⟨y, hy⟩ := exists_nearest?_of_lt Nat.one_pos negative (hvalue.trans_lt hbound.magnitude_lt)
  refine ⟨y, hy, negative_of_nearest? hy, ?_⟩
  rw [magnitude_eq_of_nearest? Nat.one_pos hy hbound hvalue, h]

/-- Small powers of ten are numbers. -/
theorem exists_tenPower?_eq {k : ℕ} (hk : k ≤ 22) :
    ∃ p, tenPower? k = some p ∧ p.negative = false ∧ p.magnitude = 10 ^ k := by
  have hsmall : 5 ^ k < 2 ^ 53 :=
    (Nat.pow_le_pow_right (by decide) hk).trans_lt (by decide : 5 ^ 22 < 2 ^ 53)
  obtain ⟨bound, hbound, hvalue⟩ :=
    exists_canonical (Nat.pow_pos (by decide)) hsmall (by omega : k ≤ 970)
  have hten : ((10 ^ k : ℕ) : ℚ) = bound.magnitude := by
    rw [hvalue, show 10 = 5 * 2 from rfl, Nat.mul_pow, Nat.cast_mul, Nat.cast_pow 2, Nat.cast_ofNat]
  obtain ⟨p, hp, hsign, hpower⟩ := exists_nearest?_eq false hbound hten
  exact ⟨p, hp, hsign, by rw [hpower, Nat.cast_pow, Nat.cast_ofNat]⟩

/-- **Few digits are read as the number that stands for them**, with a small power of ten: nothing
is rounded but their product or quotient. -/
theorem Covers.ofDecimal?_eq {x : Binary64} (hx : x.Canonical) (hpos : 0 < x.significand)
    {digits : ℕ} {scale : ℤ} (hfew : digits < 2 ^ 53) (hscale : scale.natAbs ≤ 22)
    (h : x.Covers (digits * 10 ^ scale)) : ofDecimal? x.negative digits scale = some x := by
  have hdigits := Nat.pos_of_ne_zero (h.digits_ne_zero hx hpos)
  obtain ⟨bound, hbound, hvalue⟩ := exists_canonical hdigits hfew (Nat.zero_le 970)
  rw [pow_zero, mul_one] at hvalue
  obtain ⟨y, hy, hsign, hread⟩ := exists_nearest?_eq x.negative hbound hvalue.symm
  unfold ofDecimal?
  rw [hy, Option.bind_some]
  rcases le_or_gt 0 scale with hup | hdown
  · obtain ⟨k, rfl⟩ := Int.eq_ofNat_of_zero_le hup
    obtain ⟨p, hp, hplus, hpower⟩ := exists_tenPower?_eq (k := k) (by omega)
    obtain ⟨num, den, hden, hfraction, hproduct⟩ := exists_times?_eq y p
    rw [if_pos hup, Int.toNat_natCast, raise?, if_pos (by unfold greatestPower; omega), hp,
      Option.bind_some, hproduct, hsign, hplus, Bool.bne_false]
    refine Covers.nearest?_eq hx hpos hden ?_
    rwa [hfraction, hread, hpower, ← zpow_natCast]
  · obtain ⟨k, hk⟩ := Int.eq_ofNat_of_zero_le (show 0 ≤ -scale by omega)
    obtain rfl : scale = -(k : ℤ) := by omega
    obtain ⟨p, hp, hplus, hpower⟩ := exists_tenPower?_eq (k := k) (by omega)
    have hone : 0 < p.magnitude := by
      rw [hpower]
      positivity
    obtain ⟨num, den, hden, hfraction, hquotient⟩ := exists_over?_eq y hone
    have hsteps : (k - 1) / greatestPower = 0 := by
      unfold greatestPower
      omega
    rw [if_neg (not_le.mpr hdown), neg_neg, Int.toNat_natCast, lower?, hsteps, Nat.zero_mul,
      Nat.sub_zero, shrink?, Option.bind_some, hp, Option.bind_some, hquotient, hsign, hplus,
      Bool.bne_false]
    refine Covers.nearest?_eq hx hpos hden ?_
    rw [hfraction, hread, hpower, div_eq_mul_inv, ← zpow_natCast, ← zpow_neg]
    exact h

end BadgeEntry.Decimal.Binary64
