import BadgeEntry.Proofs.Decimal.Nearest

/-!
# The shortest decimal stands for its number

The search for the shortest decimal of a number tries finer and finer grids, and takes a point
that the number stands for.  It finds one at the latest on the first grid that is finer than three
quarters of the last binary digit.  So the decimal is one that is rounded to the number, and it has
no more digits than are needed for that.

## Main definitions

* `Binary64.hits` — whether a point of a grid is rounded to a number.

## Main results

* `Binary64.hits_iff_covers` — the test of the search, in terms of fractions.
* `Binary64.covers_shortest` — **the shortest decimal is one that the number stands for.**
* `Binary64.shortest_coefficient_le` — **its digits are few.**
-/

namespace BadgeEntry.Decimal.Binary64

/-! ### Points of a grid -/

/-- The numerator of a quarter of the last binary digit in units of a grid. -/
def gridNum (x : Binary64) (k : ℤ) : ℕ :=
  Nat.pow 2 (x.exponent - 2).toNat * Nat.pow 10 (-k).toNat

/-- The denominator of it. -/
def gridDen (x : Binary64) (k : ℤ) : ℕ :=
  Nat.pow 2 (2 - x.exponent).toNat * Nat.pow 10 k.toNat

/-- Whether a point of a grid is rounded to a number. -/
def hits (x : Binary64) (k : ℤ) (c : ℕ) : Bool :=
  if x.significand % 2 = 0 then
    x.ends.1 * x.gridNum k ≤ c * x.gridDen k && c * x.gridDen k ≤ x.ends.2.2 * x.gridNum k
  else x.ends.1 * x.gridNum k < c * x.gridDen k && c * x.gridDen k < x.ends.2.2 * x.gridNum k

/-- The point of a grid that is not above a number. -/
def gridBelow (x : Binary64) (k : ℤ) : ℕ :=
  x.ends.2.1 * x.gridNum k / x.gridDen k

variable {x : Binary64} {k : ℤ} {c : ℕ}

theorem gridDen_pos (x : Binary64) (k : ℤ) : 0 < x.gridDen k :=
  Nat.mul_pos (Nat.pow_pos (by decide)) (Nat.pow_pos (by decide))

theorem gridNum_div_gridDen (x : Binary64) (k : ℤ) :
    (x.gridNum k : ℚ) / x.gridDen k = 2 ^ (x.exponent - 2) / 10 ^ k := by
  have hneg : 2 - x.exponent = -(x.exponent - 2) := by ring
  rw [← pow_toNat_div (by norm_num) (x.exponent - 2), ← pow_toNat_div (by norm_num) k, ← hneg,
    div_div_div_eq]
  simp only [gridNum, gridDen, Nat.pow_eq, Nat.cast_mul, Nat.cast_pow, Nat.cast_ofNat]

/-- A point is compared with an end of an interval as a fraction. -/
theorem mul_gridNum_le_iff {a : ℕ} : a * x.gridNum k ≤ c * x.gridDen k ↔
    (a : ℚ) * 2 ^ (x.exponent - 2) ≤ c * 10 ^ k := by
  have hden : (0 : ℚ) < x.gridDen k := by exact_mod_cast x.gridDen_pos k
  rw [← Nat.cast_le (α := ℚ), Nat.cast_mul, Nat.cast_mul, ← div_le_iff₀ hden, mul_div_assoc,
    gridNum_div_gridDen, mul_div_assoc', div_le_iff₀ (ten_zpow_pos k)]

theorem le_mul_gridNum_iff {a : ℕ} : c * x.gridDen k ≤ a * x.gridNum k ↔
    (c : ℚ) * 10 ^ k ≤ a * 2 ^ (x.exponent - 2) := by
  have hden : (0 : ℚ) < x.gridDen k := by exact_mod_cast x.gridDen_pos k
  rw [← Nat.cast_le (α := ℚ), Nat.cast_mul, Nat.cast_mul, ← le_div_iff₀ hden, mul_div_assoc,
    gridNum_div_gridDen, mul_div_assoc', le_div_iff₀ (ten_zpow_pos k)]

/-- **The test of the search** tells whether the number stands for a point. -/
theorem hits_iff_covers : x.hits k c = true ↔ x.Covers (c * 10 ^ k) := by
  unfold hits
  split
  · next heven =>
    rw [Bool.and_eq_true, decide_eq_true_eq, decide_eq_true_eq, mul_gridNum_le_iff,
      le_mul_gridNum_iff]
    exact ⟨fun ⟨hlow, hhigh⟩ => ⟨hlow, hhigh, fun hodd => by omega⟩, fun h => ⟨h.low, h.high⟩⟩
  · next hodd =>
    rw [Bool.and_eq_true, decide_eq_true_eq, decide_eq_true_eq, ← not_le, ← not_le (b := c * _),
      mul_gridNum_le_iff, le_mul_gridNum_iff, not_le, not_le]
    exact ⟨fun ⟨hlow, hhigh⟩ => ⟨hlow.le, hhigh.le, fun _ => ⟨hlow, hhigh⟩⟩,
      fun h => h.inside (by omega)⟩

/-! ### The search -/

theorem onGrid_eq (x : Binary64) (k : ℤ) : x.onGrid k =
    match x.hits k (x.gridBelow k), x.hits k (x.gridBelow k + 1) with
    | true, false => some (x.gridBelow k)
    | false, true => some (x.gridBelow k + 1)
    | false, false => none
    | true, true =>
      if 2 * (x.ends.2.1 * x.gridNum k - x.gridBelow k * x.gridDen k) < x.gridDen k then
        some (x.gridBelow k)
      else if x.gridDen k < 2 * (x.ends.2.1 * x.gridNum k - x.gridBelow k * x.gridDen k) then
        some (x.gridBelow k + 1)
      else if x.gridBelow k % 2 = 0 then some (x.gridBelow k) else some (x.gridBelow k + 1) := rfl

/-- What is found on a grid is one of the two neighbours that the number stands for. -/
theorem hits_of_onGrid (h : x.onGrid k = some c) : x.hits k c = true := by
  rw [onGrid_eq] at h
  cases hbelow : x.hits k (x.gridBelow k) with
  | false =>
    cases habove : x.hits k (x.gridBelow k + 1) with
    | false => simp [hbelow, habove] at h
    | true =>
      simp only [hbelow, habove, Option.some_inj] at h
      rw [← h, habove]
  | true =>
    cases habove : x.hits k (x.gridBelow k + 1) with
    | false =>
      simp only [hbelow, habove, Option.some_inj] at h
      rw [← h, hbelow]
    | true =>
      simp only [hbelow, habove] at h
      split at h
      · rw [← Option.some_inj.mp h, hbelow]
      · split at h
        · rw [← Option.some_inj.mp h, habove]
        · split at h
          · rw [← Option.some_inj.mp h, hbelow]
          · rw [← Option.some_inj.mp h, habove]

theorem exists_onGrid_of_hits
    (h : x.hits k (x.gridBelow k) = true ∨ x.hits k (x.gridBelow k + 1) = true) :
    ∃ c, x.onGrid k = some c := by
  rw [onGrid_eq]
  cases hbelow : x.hits k (x.gridBelow k) with
  | false =>
    rw [h.resolve_left (by rw [hbelow]; decide)]
    exact ⟨_, rfl⟩
  | true =>
    cases x.hits k (x.gridBelow k + 1) with
    | false => exact ⟨_, rfl⟩
    | true =>
      dsimp only
      split
      · exact ⟨_, rfl⟩
      · split
        · exact ⟨_, rfl⟩
        · split <;> exact ⟨_, rfl⟩

/-- An interval is at least three quarters of the last digit wide, two of them above its number. -/
theorem ends_lt (hpos : 0 < x.significand) :
    x.ends.1 + 1 ≤ x.ends.2.1 ∧ x.ends.2.1 + 2 = x.ends.2.2 := by
  unfold ends
  dsimp only
  split <;> omega

/-- A point strictly between the ends of an interval is rounded to its number. -/
theorem hits_of_lt (hlow : x.ends.1 * x.gridNum k < c * x.gridDen k)
    (hhigh : c * x.gridDen k < x.ends.2.2 * x.gridNum k) : x.hits k c = true := by
  unfold hits
  split
  · simp [hlow.le, hhigh.le]
  · simp [hlow, hhigh]

/-- **Something is found on a grid that is finer than three quarters of the last digit**: of the
two neighbours of the number, one lies in the interval, since they cannot stand on both sides
of it. -/
theorem exists_onGrid_of_lt (hpos : 0 < x.significand) (h : x.gridDen k < 3 * x.gridNum k) :
    ∃ c, x.onGrid k = some c := by
  obtain ⟨hlow, hhigh⟩ := ends_lt hpos
  have hden := x.gridDen_pos k
  have hle : x.gridBelow k * x.gridDen k ≤ x.ends.2.1 * x.gridNum k := Nat.div_mul_le_self _ _
  have hlt : x.ends.2.1 * x.gridNum k < (x.gridBelow k + 1) * x.gridDen k :=
    (Nat.div_lt_iff_lt_mul hden).mp (Nat.lt_succ_self _)
  have hlower : x.ends.1 * x.gridNum k + x.gridNum k ≤ x.ends.2.1 * x.gridNum k := by
    rw [← Nat.succ_mul]
    exact Nat.mul_le_mul_right _ hlow
  have hupper : x.ends.2.1 * x.gridNum k + 2 * x.gridNum k = x.ends.2.2 * x.gridNum k := by
    rw [← Nat.add_mul, hhigh]
  refine exists_onGrid_of_hits ?_
  by_cases hbelow : x.ends.1 * x.gridNum k < x.gridBelow k * x.gridDen k
  · exact Or.inl (hits_of_lt hbelow (by omega))
  · refine Or.inr (hits_of_lt (by omega) ?_)
    rw [Nat.succ_mul]
    omega

/-- **A search that reaches a grid with something on it finds something**, on the first grid or on
one behind a grid with nothing on it. -/
theorem exists_search {fuel : ℕ} {j : ℕ} (hj : j < fuel) (h : ∃ c, x.onGrid (k - j) = some c) :
    ∃ c k', search x fuel k = ⟨c, k'⟩ ∧ x.Covers (c * 10 ^ k') ∧
      (k' = k ∨ x.onGrid (k' + 1) = none) := by
  induction fuel generalizing k j with
  | zero => exact absurd hj (Nat.not_lt_zero j)
  | succ fuel ih =>
    rw [search]
    cases hfound : x.onGrid k with
    | some c => exact ⟨c, k, rfl, hits_iff_covers.mp (hits_of_onGrid hfound), Or.inl rfl⟩
    | none =>
      cases j with
      | zero =>
        obtain ⟨c, hc⟩ := h
        rw [Nat.cast_zero, sub_zero, hfound] at hc
        cases hc
      | succ j =>
        have hshift : k - 1 - j = k - (j + 1 : ℕ) := by push_cast; ring
        rw [← hshift] at h
        obtain ⟨c, k', hsearch, hcovers, hplace⟩ := ih (Nat.lt_of_succ_lt_succ hj) h
        refine ⟨c, k', hsearch, hcovers, Or.inr ?_⟩
        rcases hplace with rfl | hnone
        · rwa [sub_add_cancel]
        · exact hnone

/-- The weight of the first grid that is tried. -/
def firstGrid (x : Binary64) : ℤ :=
  (x.significand.log2 + x.exponent + 1) * 30103 / 100000 + 1

/-- The last grid that is tried is finer than a quarter of the last digit. -/
theorem gridDen_le_gridNum (hx : x.Canonical) :
    x.gridDen (x.firstGrid - 19) ≤ x.gridNum (x.firstGrid - 19) := by
  obtain ⟨hbound, hleast, hgreatest, -⟩ := hx
  have hlog : x.significand.log2 ≤ 52 := by
    by_cases hzero : x.significand = 0
    · rw [hzero]
      decide
    · exact Nat.le_of_lt_succ ((Nat.log2_lt hzero).mpr hbound)
  unfold leastExponent at hleast
  unfold greatestExponent at hgreatest
  unfold gridDen gridNum firstGrid
  generalize hk : (x.significand.log2 + x.exponent + 1) * 30103 / 100000 + 1 - 19 = k
  simp only [Nat.pow_eq]
  rcases Int.le_total 0 k with hpos | hneg
  · have htwo : (2 - x.exponent).toNat = 0 := by omega
    have hten : (-k).toNat = 0 := by omega
    rw [htwo, hten, pow_zero, pow_zero, one_mul, mul_one]
    exact ten_pow_le_two_pow (by omega)
  · have hten : k.toNat = 0 := by omega
    rw [hten, pow_zero, mul_one]
    calc 2 ^ (2 - x.exponent).toNat ≤ 10 ^ (-k).toNat := two_pow_le_ten_pow (by omega)
      _ ≤ 2 ^ (x.exponent - 2).toNat * 10 ^ (-k).toNat :=
          Nat.le_mul_of_pos_left _ (Nat.pow_pos (by decide))

/-! ### The shortest decimal -/

/-- The upper end of an interval, as a fraction. -/
theorem Covers.le (hpos : 0 < x.significand) {q : ℚ} (h : x.Covers q) :
    q ≤ (4 * x.significand + 2) * 2 ^ (x.exponent - 2) := by
  rw [← (ends_cast hpos).2]
  exact h.high

section
variable (hx : x.Canonical) (hpos : 0 < x.significand)
include hx hpos

theorem shortest_spec : x.Covers (x.shortest.coefficient * 10 ^ x.shortest.exponent) ∧
    (x.shortest.exponent = x.firstGrid ∨ x.onGrid (x.shortest.exponent + 1) = none) := by
  have hfine := gridDen_le_gridNum hx
  have hden := x.gridDen_pos (x.firstGrid - 19)
  have hlast := exists_onGrid_of_lt (k := x.firstGrid - 19) hpos (by omega)
  obtain ⟨c, k, hsearch, hspec⟩ := exists_search (k := x.firstGrid) (by decide : 19 < 20) hlast
  have hshortest : x.shortest = ⟨c, k⟩ := hsearch
  rw [hshortest]
  exact hspec

/-- **The shortest decimal is one that the number stands for.** -/
theorem covers_shortest : x.Covers (x.shortest.coefficient * 10 ^ x.shortest.exponent) :=
  (shortest_spec hx hpos).1

/-- The shortest decimal has a digit. -/
theorem shortest_coefficient_pos : 0 < x.shortest.coefficient :=
  Nat.pos_of_ne_zero ((covers_shortest hx hpos).digits_ne_zero hx hpos)

omit hpos in
/-- The first grid is hardly finer than the number is large. -/
theorem two_zpow_le_firstGrid :
    (2 : ℚ) ^ (x.significand.log2 + x.exponent + 1) ≤ 2 ^ 53 * 10 ^ x.firstGrid := by
  have hleast : -1074 ≤ x.exponent := hx.2.1
  unfold firstGrid
  generalize hbits : (x.significand.log2 + x.exponent + 1 : ℤ) = bits
  generalize hk : bits * 30103 / 100000 + 1 = k
  rcases Int.le_total 0 bits with hlarge | hsmall
  · obtain ⟨n, rfl⟩ := Int.eq_ofNat_of_zero_le hlarge
    obtain ⟨j, rfl⟩ := Int.eq_ofNat_of_zero_le (show 0 ≤ k by omega)
    have hpow : (2 : ℚ) ^ n ≤ 10 ^ j := by
      exact_mod_cast two_pow_le_ten_pow (n := n) (j := j) (by omega)
    rw [zpow_natCast, zpow_natCast]
    exact hpow.trans (le_mul_of_one_le_left (by positivity) (by norm_num))
  · obtain ⟨n, hn⟩ := Int.eq_ofNat_of_zero_le (show 0 ≤ -bits by omega)
    obtain ⟨j, hj⟩ := Int.eq_ofNat_of_zero_le (show 0 ≤ 1 - k by omega)
    have hpow : (10 : ℚ) ^ j ≤ 2 ^ (50 + n) := by
      exact_mod_cast ten_pow_le_two_pow (j := j) (b := 50 + n) (by omega)
    have hbits' : bits = -(n : ℤ) := by omega
    have hk' : k = 1 - (j : ℤ) := by omega
    rw [hbits', hk', zpow_sub₀ (by norm_num), zpow_neg, zpow_natCast, zpow_natCast, zpow_one,
      inv_eq_one_div, mul_div_assoc', div_le_div_iff₀ (by positivity) (by positivity), one_mul]
    calc (10 : ℚ) ^ j ≤ 2 ^ (50 + n) := hpow
      _ = 2 ^ 50 * 2 ^ n := pow_add _ _ _
      _ ≤ 2 ^ 53 * 10 * 2 ^ n := mul_le_mul_of_nonneg_right (by norm_num) (by positivity)

/-- **The digits of the shortest decimal are few**: on a grid that is ten times as coarse there is
no point that the number stands for, so the last digit has at least a tenth of the weight of three
quarters of the last binary one. -/
theorem shortest_coefficient_le : x.shortest.coefficient ≤ 15 * 2 ^ 53 := by
  obtain ⟨hcovers, hplace⟩ := shortest_spec hx hpos
  have hhigh := hcovers.le hpos
  generalize x.shortest.coefficient = c at hhigh ⊢
  generalize x.shortest.exponent = k at hhigh hplace
  have hten := ten_zpow_pos k
  suffices h : (c : ℚ) ≤ 15 * 2 ^ 53 by exact_mod_cast h
  rcases hplace with rfl | hnone
  · have hdigits : x.significand + 1 ≤ 2 ^ (x.significand.log2 + 1) := Nat.lt_log2_self
    have hcast : (x.significand : ℚ) + 1 ≤ 2 ^ (x.significand.log2 + 1 : ℤ) := by
      have hexponent : (x.significand.log2 + 1 : ℤ) = (x.significand.log2 + 1 : ℕ) := rfl
      rw [hexponent, zpow_natCast]
      exact_mod_cast hdigits
    have hbits : (x.significand.log2 + x.exponent + 1 : ℤ) =
        x.significand.log2 + 1 + 2 + (x.exponent - 2) := by ring
    have hle : (c * 10 ^ x.firstGrid : ℚ) ≤ 2 ^ 53 * 10 ^ x.firstGrid := by
      refine (hhigh.trans ?_).trans (two_zpow_le_firstGrid hx)
      rw [hbits, two_zpow_add (_ + 2), two_zpow_add _ 2]
      refine mul_le_mul_of_nonneg_right ?_ (two_zpow_pos _).le
      norm_num
      linarith
    exact (le_of_mul_le_mul_right hle hten).trans (by norm_num)
  · have hcoarse : ¬x.gridDen (k + 1) < 3 * x.gridNum (k + 1) := by
      intro hfine
      obtain ⟨d, hd⟩ := exists_onGrid_of_lt hpos hfine
      rw [hnone] at hd
      cases hd
    have hweight : (3 : ℕ) * 2 ^ (x.exponent - 2) ≤ ((1 : ℕ) : ℚ) * 10 ^ (k + 1) := by
      rw [← mul_gridNum_le_iff, one_mul]
      exact not_lt.mp hcoarse
    rw [zpow_add_one₀ (by norm_num)] at hweight
    push_cast at hweight
    have hdigits : x.significand + 1 ≤ 2 ^ 53 := hx.1
    have hcast : (x.significand : ℚ) + 1 ≤ 2 ^ 53 := by exact_mod_cast hdigits
    have hle : (3 * c * 10 ^ k : ℚ) ≤ 3 * (15 * 2 ^ 53) * 10 ^ k := by
      calc (3 * c * 10 ^ k : ℚ) = 3 * (c * 10 ^ k) := by ring
        _ ≤ (4 * x.significand + 2) * (3 * 2 ^ (x.exponent - 2)) := by linarith
        _ ≤ (4 * x.significand + 2) * (10 * 10 ^ k) := by
            refine mul_le_mul_of_nonneg_left ?_ (by positivity)
            linarith
        _ ≤ 3 * (15 * 2 ^ 53) * 10 ^ k := by
            rw [← mul_assoc]
            refine mul_le_mul_of_nonneg_right ?_ hten.le
            linarith
    have := le_of_mul_le_mul_right hle hten
    linarith

end

end BadgeEntry.Decimal.Binary64
