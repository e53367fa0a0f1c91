import BadgeEntry.Decimal.Shortest
import Mathlib.Algebra.Order.Field.Power
import Mathlib.Data.Rat.Cast.Order
import Mathlib.Tactic.FieldSimp
import Mathlib.Tactic.Linarith
import Mathlib.Tactic.NormNum
import Mathlib.Tactic.Ring

/-!
# The nearest binary number

A binary number stands for an interval of reals: those that are nearer to it than to any other
one, and the ends of the interval if its significand is even.  Whatever fraction lies in the
interval, the computation of the nearest number comes to that number.  Fractions are compared
as rational numbers here; the computation itself stays with natural numbers.

## Main definitions

* `Binary64.Covers` — the fractions that a binary number stands for.

## Main results

* `weight_eq` — the weight of the last binary digit.
* `roundDiv_eq` — a quotient is rounded to the nearest number, a half to the even one.
* `Binary64.Covers.nearest?_eq` — **a fraction is rounded to the number that stands for it.**
-/

namespace BadgeEntry.Decimal

/-! ### Powers -/

/-- A power with any exponent as a fraction of natural powers. -/
theorem pow_toNat_div {b : ℚ} (hb : b ≠ 0) (e : ℤ) : b ^ e.toNat / b ^ (-e).toNat = b ^ e := by
  rw [← zpow_natCast, ← zpow_natCast, ← zpow_sub₀ hb, Int.toNat_sub_toNat_neg]

theorem two_zpow_pos (e : ℤ) : (0 : ℚ) < 2 ^ e :=
  zpow_pos (by norm_num) e

theorem ten_zpow_pos (e : ℤ) : (0 : ℚ) < 10 ^ e :=
  zpow_pos (by norm_num) e

theorem two_zpow_lt_iff {e f : ℤ} : (2 : ℚ) ^ e < 2 ^ f ↔ e < f :=
  zpow_lt_zpow_iff_right₀ (by norm_num)

theorem two_zpow_add (e f : ℤ) : (2 : ℚ) ^ (e + f) = 2 ^ e * 2 ^ f :=
  zpow_add₀ (by norm_num) e f

/-- Powers are compared by way of two of them. -/
theorem pow_le_pow_of_ratio {a b p r m n : ℕ} (hp : p ≠ 0) (hb : 0 < b) (h : a ^ p ≤ b ^ r)
    (hmn : r * m ≤ p * n) : a ^ m ≤ b ^ n := by
  refine (Nat.pow_le_pow_iff_left hp).mp ?_
  calc (a ^ m) ^ p = (a ^ p) ^ m := Nat.pow_right_comm a m p
    _ ≤ (b ^ r) ^ m := Nat.pow_le_pow_left h m
    _ = b ^ (r * m) := (Nat.pow_mul b r m).symm
    _ ≤ b ^ (p * n) := Nat.pow_le_pow_right hb hmn
    _ = (b ^ n) ^ p := by rw [Nat.mul_comm, Nat.pow_mul]

/-- A power of ten below a power of two. -/
theorem ten_pow_le_two_pow {j b : ℕ} (h : j * 100000 ≤ b * 30102) : 10 ^ j ≤ 2 ^ b := by
  have hpow : 10 ^ 59 ≤ 2 ^ 196 := by norm_num
  exact pow_le_pow_of_ratio (by decide) (by decide) hpow (by omega)

/-- A power of two below a power of ten. -/
theorem two_pow_le_ten_pow {n j : ℕ} (h : n * 30103 ≤ j * 100000) : 2 ^ n ≤ 10 ^ j := by
  have hpow : 2 ^ 13301 ≤ 10 ^ 4004 := by decide +kernel
  exact pow_le_pow_of_ratio (by decide) (by decide) hpow (by omega)

namespace Binary64

theorem fullSignificand_eq : fullSignificand = 2 ^ 52 := rfl

/-- A fraction in units of a binary weight. -/
theorem scaled_div (num den : ℕ) (e : ℤ) :
    ((scaled num den e).1 : ℚ) / (scaled num den e).2 = num / den / 2 ^ e := by
  rw [← pow_toNat_div (by norm_num) e, div_div_div_eq]
  simp only [scaled, Nat.pow_eq, Nat.cast_mul, Nat.cast_pow, Nat.cast_ofNat]

theorem scaled_snd_pos {den : ℕ} (hden : 0 < den) (num : ℕ) (e : ℤ) :
    0 < (scaled num den e).2 :=
  Nat.mul_pos hden (Nat.pow_pos (by decide))

/-! ### The weight of the last digit -/

section
variable {num den : ℕ} (hnum : 0 < num) (hden : 0 < den)
include hnum hden

/-- The difference of the binary logarithms is near the logarithm of the quotient. -/
theorem div_mem_of_log2 : (2 : ℚ) ^ ((num.log2 : ℤ) - den.log2 - 1) < num / den ∧
    (num / den : ℚ) < 2 ^ ((num.log2 : ℤ) - den.log2 + 1) := by
  have hlow : (2 : ℚ) ^ (num.log2 : ℤ) ≤ num := by
    rw [zpow_natCast]
    exact_mod_cast Nat.log2_self_le hnum.ne'
  have hhigh : (num : ℚ) < 2 ^ ((num.log2 : ℤ) + 1) := by
    rw [← Nat.cast_succ, zpow_natCast]
    exact_mod_cast Nat.lt_log2_self
  have hdlow : (2 : ℚ) ^ (den.log2 : ℤ) ≤ den := by
    rw [zpow_natCast]
    exact_mod_cast Nat.log2_self_le hden.ne'
  have hdhigh : (den : ℚ) < 2 ^ ((den.log2 : ℤ) + 1) := by
    rw [← Nat.cast_succ, zpow_natCast]
    exact_mod_cast Nat.lt_log2_self
  have hpos : (0 : ℚ) < den := by exact_mod_cast hden
  constructor
  · rw [lt_div_iff₀ hpos]
    calc (2 : ℚ) ^ ((num.log2 : ℤ) - den.log2 - 1) * den
        < 2 ^ ((num.log2 : ℤ) - den.log2 - 1) * 2 ^ ((den.log2 : ℤ) + 1) :=
          mul_lt_mul_of_pos_left hdhigh (two_zpow_pos _)
      _ = 2 ^ (num.log2 : ℤ) := by rw [← two_zpow_add]; congr 1; ring
      _ ≤ num := hlow
  · rw [div_lt_iff₀ hpos]
    calc (num : ℚ) < 2 ^ ((num.log2 : ℤ) + 1) := hhigh
      _ = 2 ^ ((num.log2 : ℤ) - den.log2 + 1) * 2 ^ (den.log2 : ℤ) := by
          rw [← two_zpow_add]; congr 1; ring
      _ ≤ 2 ^ ((num.log2 : ℤ) - den.log2 + 1) * den :=
          mul_le_mul_of_nonneg_left hdlow (two_zpow_pos _).le

/-- **The weight of the last digit** is that with which there are fifty-three digits, or the
least one. -/
theorem weight_eq {e : ℤ} (hleast : leastExponent ≤ e) (hhigh : (num / den : ℚ) < 2 ^ (e + 53))
    (hlow : (2 : ℚ) ^ (e + 52) ≤ num / den ∨ e = leastExponent) : weight num den = e := by
  obtain ⟨hbelow, habove⟩ := div_mem_of_log2 hnum hden
  have hdiv := scaled_div num den ((num.log2 : ℤ) - den.log2 - 52)
  have hpos := scaled_snd_pos hden num ((num.log2 : ℤ) - den.log2 - 52)
  unfold weight
  generalize hguess : (num.log2 : ℤ) - den.log2 - 52 = g at hdiv hpos
  dsimp only
  have hlogs : (num.log2 : ℤ) - den.log2 = g + 52 := by omega
  have hnext : g + 52 + 1 = g + 53 := by omega
  rw [hlogs] at hbelow habove
  rw [hnext] at habove
  have hsmall : (scaled num den g).1 / (scaled num den g).2 < fullSignificand ↔
      (num / den : ℚ) < 2 ^ (g + 52) := by
    have hcast : (0 : ℚ) < (scaled num den g).2 := by exact_mod_cast hpos
    rw [Nat.div_lt_iff_lt_mul hpos, ← Nat.cast_lt (α := ℚ), Nat.cast_mul, ← div_lt_iff₀ hcast, hdiv,
      div_lt_iff₀ (two_zpow_pos g), add_comm, two_zpow_add]
    norm_num [fullSignificand]
  -- one of the two candidates has all fifty-three digits
  have hdigits : ∀ f : ℤ, (2 : ℚ) ^ (f + 52) ≤ num / den → (num / den : ℚ) < 2 ^ (f + 53) →
      max f leastExponent = e := by
    intro f hf hf'
    rcases hlow with hlow | rfl
    · have hle := two_zpow_lt_iff.mp (hf.trans_lt hhigh)
      have hge := two_zpow_lt_iff.mp (hlow.trans_lt hf')
      omega
    · have hle := two_zpow_lt_iff.mp (hf.trans_lt hhigh)
      omega
  split
  · next hfew =>
    have hlower : g - 1 + 52 = g + 52 - 1 := by omega
    have hupper : g - 1 + 53 = g + 52 := by omega
    refine hdigits (g - 1) ?_ ?_
    · rw [hlower]
      exact hbelow.le
    · rw [hupper]
      exact hsmall.mp hfew
  · next hfull => exact hdigits g (not_lt.mp (hsmall.not.mp hfull)) habove

end

/-! ### Rounding -/

/-- A quotient is rounded to the number that is no more than a half away, and less than a half
if that number is odd. -/
theorem roundDiv_eq_of_le {num den r : ℕ} (hden : 0 < den) (hlow : 2 * r * den ≤ 2 * num + den)
    (hhigh : 2 * num ≤ 2 * r * den + den)
    (hodd : r % 2 = 1 → 2 * r * den < 2 * num + den ∧ 2 * num < 2 * r * den + den) :
    roundDiv num den = r := by
  have hsplit := Nat.div_add_mod num den
  have hrest := Nat.mod_lt num hden
  unfold roundDiv
  generalize num / den = low at hsplit ⊢
  generalize num % den = rest at hsplit hrest ⊢
  -- the rounded number is the quotient or the next one
  have hnear : r = low ∨ r = low + 1 := by
    have hupper : r < low + 2 := by nlinarith
    have hlower : low < r + 1 := by nlinarith
    omega
  dsimp only
  rcases hnear with rfl | rfl
  · have hhalf : ¬den < 2 * rest := by nlinarith
    rw [if_neg hhalf]
    split
    · rfl
    · split
      · rfl
      · have := hodd (by omega)
        nlinarith
  · have hhalf : ¬2 * rest < den := by nlinarith
    rw [if_neg hhalf]
    split
    · rfl
    · split
      · have := hodd (by omega)
        nlinarith
      · rfl

/-- **A quotient is rounded to the nearest number**, a half to the even one. -/
theorem roundDiv_eq {num den r : ℕ} (hden : 0 < den) (hlow : (r : ℚ) - 1 / 2 ≤ num / den)
    (hhigh : (num / den : ℚ) ≤ r + 1 / 2)
    (hinside : r % 2 = 1 → (r : ℚ) - 1 / 2 < num / den ∧ (num / den : ℚ) < r + 1 / 2) :
    roundDiv num den = r := by
  have hpos : (0 : ℚ) < den := by exact_mod_cast hden
  refine roundDiv_eq_of_le hden ?_ ?_ fun hr => ?_
  · rw [le_div_iff₀ hpos] at hlow
    have hcast : (2 * r * den : ℚ) ≤ 2 * num + den := by linarith
    exact_mod_cast hcast
  · rw [div_le_iff₀ hpos] at hhigh
    have hcast : (2 * num : ℚ) ≤ 2 * r * den + den := by linarith
    exact_mod_cast hcast
  · obtain ⟨hlow, hhigh⟩ := hinside hr
    rw [lt_div_iff₀ hpos] at hlow
    rw [div_lt_iff₀ hpos] at hhigh
    have hcast : (2 * r * den : ℚ) < 2 * num + den := by linarith
    have hcast' : (2 * num : ℚ) < 2 * r * den + den := by linarith
    exact ⟨by exact_mod_cast hcast, by exact_mod_cast hcast'⟩

/-! ### The interval of a number -/

/-- Whether a fraction is rounded to a number: it lies between the ends of its interval, or at
an end if the significand is even. -/
structure Covers (x : Binary64) (q : ℚ) : Prop where
  low : x.ends.1 * 2 ^ (x.exponent - 2) ≤ q
  high : q ≤ x.ends.2.2 * 2 ^ (x.exponent - 2)
  inside : x.significand % 2 = 1 →
    x.ends.1 * 2 ^ (x.exponent - 2) < q ∧ q < x.ends.2.2 * 2 ^ (x.exponent - 2)

section
variable {x : Binary64}

/-- Whether a number is the least one of its binary order, and not of the lowest one. -/
def IsOrderLeast (x : Binary64) : Prop :=
  x.significand = fullSignificand ∧ leastExponent < x.exponent

/-- The ends of the interval, in quarters of the last digit. -/
theorem ends_cast (hpos : 0 < x.significand) :
    ((x.IsOrderLeast → (x.ends.1 : ℚ) = 4 * x.significand - 1) ∧
      (¬x.IsOrderLeast → (x.ends.1 : ℚ) = 4 * x.significand - 2)) ∧
        (x.ends.2.2 : ℚ) = 4 * x.significand + 2 := by
  have hone : 1 ≤ 4 * x.significand := by omega
  have htwo : 2 ≤ 4 * x.significand := by omega
  unfold ends IsOrderLeast
  refine ⟨⟨fun hleast => ?_, fun hleast => ?_⟩, ?_⟩
  · dsimp only
    rw [if_pos hleast, Nat.cast_sub hone]
    push_cast
    ring
  · dsimp only
    rw [if_neg hleast, Nat.cast_sub htwo]
    push_cast
    ring
  · push_cast
    ring

/-- A fraction that is rounded to a number, in units of the last digit. -/
structure Near (x : Binary64) (t : ℚ) : Prop where
  low : (x.significand : ℚ) - 1 / 2 ≤ t
  high : t ≤ x.significand + 1 / 2
  inside : x.significand % 2 = 1 → (x.significand : ℚ) - 1 / 2 < t ∧ t < x.significand + 1 / 2
  least : x.IsOrderLeast → (x.significand : ℚ) - 1 / 4 ≤ t

theorem Covers.near {q : ℚ} (h : x.Covers q) (hpos : 0 < x.significand) :
    x.Near (q / 2 ^ x.exponent) := by
  obtain ⟨⟨hleast, hother⟩, hhigh⟩ := ends_cast hpos
  have hunit : (2 : ℚ) ^ (x.exponent - 2) = 2 ^ x.exponent / 4 := by
    rw [zpow_sub₀ (by norm_num)]
    norm_num
  have hlow : 4 * (x.significand : ℚ) - 2 ≤ x.ends.1 := by
    by_cases hx : x.IsOrderLeast
    · rw [hleast hx]
      linarith
    · rw [hother hx]
  have hu := two_zpow_pos x.exponent
  obtain ⟨hl, hh, hinside⟩ := h
  rw [hunit] at hl hh hinside
  rw [hhigh] at hh hinside
  generalize (2 : ℚ) ^ x.exponent = u at hl hh hinside hu ⊢
  refine ⟨?_, ?_, fun hodd => ⟨?_, ?_⟩, fun hx => ?_⟩
  · rw [le_div_iff₀ hu]
    nlinarith
  · rw [div_le_iff₀ hu]
    linarith
  · rw [lt_div_iff₀ hu]
    nlinarith [(hinside hodd).1]
  · rw [div_lt_iff₀ hu]
    linarith [(hinside hodd).2]
  · rw [le_div_iff₀ hu]
    rw [hleast hx] at hl
    linarith

/-- What the computation comes to, with the weight and the rounded quotient. -/
theorem nearest?_eq_of_weight {negative : Bool} {num den m : ℕ} {e : ℤ} (hnum : 0 < num)
    (hweight : weight num den = e)
    (hround : roundDiv (scaled num den e).1 (scaled num den e).2 = m) :
    nearest? negative num den =
      if m = 2 * fullSignificand then
        if e + 1 ≤ greatestExponent then some ⟨negative, fullSignificand, e + 1⟩ else none
      else if e ≤ greatestExponent then some ⟨negative, m, e⟩ else none := by
  unfold nearest?
  rw [if_neg hnum.ne', hweight]
  dsimp only
  rw [hround]
  by_cases hcarry : m = 2 * fullSignificand
  · simp only [if_pos hcarry]
  · simp only [if_neg hcarry]

section
variable {num den : ℕ} (hpos : 0 < x.significand) (hnear : x.Near (num / den / 2 ^ x.exponent))
include hpos hnear

theorem Near.num_pos : 0 < num := by
  refine Nat.pos_of_ne_zero ?_
  rintro rfl
  have hone : (1 : ℚ) ≤ x.significand := by exact_mod_cast hpos
  have hlow := hnear.low
  rw [Nat.cast_zero, zero_div, zero_div] at hlow
  linarith

variable (hx : x.Canonical) (hden : 0 < den)
include hx hden

/-- Fractions just below the least number of a binary order have one digit more, and are
rounded up to it. -/
theorem Near.nearest?_of_below (hleast : x.IsOrderLeast)
    (hbelow : (num / den / 2 ^ x.exponent : ℚ) < x.significand) :
    nearest? x.negative num den = some x := by
  have hnum := hnear.num_pos hpos
  have hlow := hnear.least hleast
  obtain ⟨hfull, hexponent⟩ := hleast
  have hu := two_zpow_pos (x.exponent - 1)
  have hhalf : (2 : ℚ) ^ x.exponent = 2 * 2 ^ (x.exponent - 1) := by
    rw [← zpow_one_add₀ (by norm_num)]
    congr 1
    ring
  have hcast : (x.significand : ℚ) = 2 ^ 52 := by
    rw [hfull, fullSignificand_eq]
    norm_num
  have hunits : (num / den / 2 ^ (x.exponent - 1) : ℚ) = 2 * (num / den / 2 ^ x.exponent) := by
    rw [hhalf]
    field_simp
  have hwide : (num / den : ℚ) = num / den / 2 ^ (x.exponent - 1) * 2 ^ (x.exponent - 1) :=
    (div_mul_cancel₀ _ hu.ne').symm
  have hweight : weight num den = x.exponent - 1 := by
    refine weight_eq hnum hden (by omega) ?_ (Or.inl ?_)
    · rw [hwide, hunits, add_comm, two_zpow_add]
      refine mul_lt_mul_of_pos_right ?_ hu
      rw [hcast] at hbelow
      norm_num
      linarith
    · rw [hwide, hunits, add_comm, two_zpow_add]
      refine mul_le_mul_of_nonneg_right ?_ hu.le
      rw [hcast] at hlow
      norm_num
      linarith
  have hround : roundDiv (scaled num den (x.exponent - 1)).1 (scaled num den (x.exponent - 1)).2 =
      2 * fullSignificand := by
    have hdouble : ((2 * fullSignificand : ℕ) : ℚ) = 2 * x.significand := by
      rw [hfull]
      push_cast
      ring
    refine roundDiv_eq (scaled_snd_pos hden _ _) ?_ ?_ ?_
    · rw [scaled_div, hunits, hdouble]
      linarith
    · rw [scaled_div, hunits, hdouble]
      linarith
    · intro hodd
      omega
  rw [nearest?_eq_of_weight hnum hweight hround, if_pos rfl, Int.sub_add_cancel, if_pos hx.2.2.1,
    ← hfull]

/-- Fractions with the digits of a number are rounded to it. -/
theorem Near.nearest?_of_not_below
    (hnot : ¬(x.IsOrderLeast ∧ (num / den / 2 ^ x.exponent : ℚ) < x.significand)) :
    nearest? x.negative num den = some x := by
  have hnum := hnear.num_pos hpos
  obtain ⟨hbound, hleast, hgreatest, hfull⟩ := hx
  have hu := two_zpow_pos x.exponent
  have hwide : (num / den : ℚ) = num / den / 2 ^ x.exponent * 2 ^ x.exponent :=
    (div_mul_cancel₀ _ hu.ne').symm
  have hweight : weight num den = x.exponent := by
    refine weight_eq hnum hden hleast ?_ ?_
    · rw [hwide, add_comm, two_zpow_add]
      refine mul_lt_mul_of_pos_right ?_ hu
      have hle : x.significand + 1 ≤ 2 ^ 53 := hbound
      have hcast : (x.significand : ℚ) + 1 ≤ 2 ^ 53 := by exact_mod_cast hle
      have hhigh := hnear.high
      norm_num
      linarith
    · by_cases hlowest : x.exponent = leastExponent
      · exact Or.inr hlowest
      refine Or.inl ?_
      rw [hwide, add_comm, two_zpow_add]
      refine mul_le_mul_of_nonneg_right ?_ hu.le
      have hge := hfull.resolve_right hlowest
      norm_num
      rcases Nat.lt_or_eq_of_le hge with hlt | heq
      · have hcast : (2 ^ 52 : ℚ) + 1 ≤ x.significand := by exact_mod_cast hlt
        have hlow := hnear.low
        linarith
      · have horder : x.IsOrderLeast := ⟨heq.symm, lt_of_le_of_ne hleast (Ne.symm hlowest)⟩
        have hnotBelow := not_lt.mp fun hbelow => hnot ⟨horder, hbelow⟩
        rw [← heq, fullSignificand_eq] at hnotBelow
        norm_num at hnotBelow
        exact hnotBelow
  have hround : roundDiv (scaled num den x.exponent).1 (scaled num den x.exponent).2 =
      x.significand := by
    refine roundDiv_eq (scaled_snd_pos hden _ _) ?_ ?_ ?_
    · rw [scaled_div]
      exact hnear.low
    · rw [scaled_div]
      exact hnear.high
    · rw [scaled_div]
      exact hnear.inside
  rw [nearest?_eq_of_weight hnum hweight hround, if_neg (Nat.ne_of_lt hbound), if_pos hgreatest]

end

/-- **A fraction is rounded to the number that stands for it.** -/
theorem Covers.nearest?_eq {num den : ℕ} (hx : x.Canonical) (hpos : 0 < x.significand)
    (hden : 0 < den) (h : x.Covers (num / den)) : nearest? x.negative num den = some x := by
  have hnear := h.near hpos
  by_cases hbelow : x.IsOrderLeast ∧ (num / den / 2 ^ x.exponent : ℚ) < x.significand
  · exact hnear.nearest?_of_below hpos hx hden hbelow.1 hbelow.2
  · exact hnear.nearest?_of_not_below hpos hx hden hbelow

/-! ### Decimals -/

/-- A fraction that a number stands for is neither too large nor too small. -/
theorem Covers.bounds {q : ℚ} (hx : x.Canonical) (hpos : 0 < x.significand) (h : x.Covers q) :
    (10 : ℚ) ^ (-324 : ℤ) ≤ q ∧ q < 10 ^ (309 : ℤ) := by
  have hnear := h.near hpos
  have hu := two_zpow_pos x.exponent
  have hq : q = q / 2 ^ x.exponent * 2 ^ x.exponent := (div_mul_cancel₀ _ hu.ne').symm
  obtain ⟨hbound, hleast, hgreatest, -⟩ := hx
  constructor
  · have hone : (1 : ℚ) ≤ x.significand := by exact_mod_cast hpos
    have hdigits : (1 / 2 : ℚ) ≤ q / 2 ^ x.exponent := by linarith [hnear.low]
    have hsmall : (2 : ℚ) ^ (-1074 : ℤ) ≤ 2 ^ x.exponent :=
      zpow_le_zpow_right₀ (by norm_num) hleast
    have hpow : 2 ^ 1075 ≤ 10 ^ 324 := two_pow_le_ten_pow (by decide)
    have hcast : (2 : ℚ) ^ (1075 : ℤ) ≤ 10 ^ (324 : ℤ) := by exact_mod_cast hpow
    calc (10 : ℚ) ^ (-324 : ℤ) ≤ 2 ^ (-1075 : ℤ) := by
          rw [zpow_neg, zpow_neg]
          exact inv_anti₀ (two_zpow_pos _) hcast
      _ = 2 ^ (-1 : ℤ) * 2 ^ (-1074 : ℤ) := by rw [← two_zpow_add]; rfl
      _ = 1 / 2 * 2 ^ (-1074 : ℤ) := by rw [zpow_neg_one, one_div]
      _ ≤ q / 2 ^ x.exponent * 2 ^ x.exponent :=
          mul_le_mul hdigits hsmall (two_zpow_pos _).le (le_trans (by norm_num) hdigits)
      _ = q := hq.symm
  · have hle : x.significand + 1 ≤ 2 ^ 53 := hbound
    have hcast : (x.significand : ℚ) + 1 ≤ 2 ^ 53 := by exact_mod_cast hle
    have hdigits : q / 2 ^ x.exponent < 2 ^ 53 := by linarith [hnear.high]
    have hlarge : (2 : ℚ) ^ x.exponent ≤ 2 ^ (971 : ℤ) :=
      zpow_le_zpow_right₀ (by norm_num) hgreatest
    have hpow : 2 ^ (53 + 971) ≤ 10 ^ 309 := two_pow_le_ten_pow (by decide)
    have hten : (2 : ℚ) ^ 53 * 2 ^ (971 : ℤ) ≤ 10 ^ (309 : ℤ) := by
      rw [pow_add] at hpow
      exact_mod_cast hpow
    calc q = q / 2 ^ x.exponent * 2 ^ x.exponent := hq
      _ < 2 ^ 53 * 2 ^ x.exponent := mul_lt_mul_of_pos_right hdigits hu
      _ ≤ 2 ^ 53 * 2 ^ (971 : ℤ) := mul_le_mul_of_nonneg_left hlarge (by norm_num)
      _ ≤ 10 ^ (309 : ℤ) := hten

/-- No number but zero stands for zero. -/
theorem Covers.digits_ne_zero {digits : ℕ} {scale : ℤ} (hx : x.Canonical)
    (hpos : 0 < x.significand) (h : x.Covers (digits * 10 ^ scale)) : digits ≠ 0 := by
  obtain ⟨hsmall, -⟩ := h.bounds hx hpos
  rintro rfl
  rw [Nat.cast_zero, zero_mul] at hsmall
  exact absurd hsmall (not_le.mpr (ten_zpow_pos _))

end

end Binary64

end BadgeEntry.Decimal
