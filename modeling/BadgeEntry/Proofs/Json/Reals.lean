import BadgeEntry.Proofs.Decimal.FewDigits
import BadgeEntry.Proofs.Decimal.Reach
import BadgeEntry.Proofs.Json.Exact

/-!
# The texts of binary numbers

The text of a binary number is its shortest decimal, with or without an exponent.  Either way it
is a number of the grammar: its digits are few enough to be kept, and what they are read as with
their power of ten is a number.  It need not be the number that was written, since a decimal is
read with more than one rounding; but numbers with few digits and few places are read back.

## Main definitions

* `SpellsDecimal` — a text that is read as a decimal.

## Main results

* `keepDigits_spec` — **as many digits are kept as sixty-four bits hold.**
* `spellsDecimal_render` — **the text of a decimal is read as that decimal.**
* `exists_spellsNumber_unsignedText` — **the text of a binary number is a number of the grammar.**
* `readsBack_real` — **binary numbers with few digits and few places are read back.**
-/

namespace BadgeEntry.Json

open Decimal

/-! ### Digits that are kept -/

/-- A number is no more than with digits behind it. -/
theorem le_ofDigitChars (n : ℕ) (ds : List Char) : n ≤ Nat.ofDigitChars 10 ds n := by
  rw [Nat.ofDigitChars_eq_ofDigitChars_zero]
  exact Nat.le_add_right_of_le (Nat.le_mul_of_pos_left _ (Nat.pow_pos (by decide)))

/-- **As many digits are kept as sixty-four bits hold.** -/
theorem keepDigits_spec {n : ℕ} (hn : n < 2 ^ 64) (ds : List Char) :
    (keepDigits n ds).2 ≤ ds.length ∧ (keepDigits n ds).1 < 2 ^ 64 ∧
      (keepDigits n ds).1 = Nat.ofDigitChars 10 (ds.take (keepDigits n ds).2) n ∧
        ((keepDigits n ds).2 < ds.length →
          2 ^ 64 ≤ Nat.ofDigitChars 10 (ds.take ((keepDigits n ds).2 + 1)) n) := by
  induction ds generalizing n with
  | nil => exact ⟨le_refl 0, hn, rfl, fun h => absurd h (Nat.lt_irrefl 0)⟩
  | cons d ds ih =>
    have hstep : 10 * n + (d.toNat - '0'.toNat) = n * 10 + (d.toNat - '0'.toNat) := by
      rw [Nat.mul_comm]
    rw [keepDigits]
    dsimp only
    split
    · next hfits =>
      obtain ⟨hle, hlt, hvalue, hnext⟩ := ih hfits
      dsimp only
      rw [List.length_cons, List.take_succ_cons, List.take_succ_cons, Nat.ofDigitChars_cons,
        Nat.ofDigitChars_cons, hstep]
      exact ⟨Nat.succ_le_succ hle, hlt, hvalue, fun h => hnext (Nat.lt_of_succ_lt_succ h)⟩
    · next hlarge =>
      refine ⟨Nat.zero_le _, hn, rfl, fun _ => ?_⟩
      rw [List.take_succ_cons, List.take_zero, Nat.ofDigitChars_cons, hstep]
      exact Nat.not_lt.mp hlarge

/-- Digits that sixty-four bits hold are all kept. -/
theorem keepDigits_eq {n : ℕ} {ds : List Char} (h : Nat.ofDigitChars 10 ds n < 2 ^ 64) :
    keepDigits n ds = (Nat.ofDigitChars 10 ds n, ds.length) := by
  obtain ⟨hle, -, hvalue, hnext⟩ := keepDigits_spec ((le_ofDigitChars n ds).trans_lt h) ds
  have hall : (keepDigits n ds).2 = ds.length := by
    refine hle.eq_of_not_lt fun hless => absurd (hnext hless) (Nat.not_le.mpr ?_)
    refine (le_ofDigitChars _ (ds.drop ((keepDigits n ds).2 + 1))).trans_lt ?_
    rwa [← Nat.ofDigitChars_append, List.take_append_drop]
  rw [hall, List.take_length] at hvalue
  exact Prod.ext hvalue hall

/-- A decimal that sixty-four bits hold is computed with as it stands. -/
theorem keptDecimal_eq {whole fraction : List Char} (h : value (whole ++ fraction) < 2 ^ 64) :
    keptDecimal whole fraction = ⟨value (whole ++ fraction), -fraction.length⟩ := by
  rw [value, Nat.ofDigitChars_append] at h ⊢
  have hwhole := keepDigits_eq ((le_ofDigitChars _ fraction).trans_lt h)
  unfold keptDecimal
  rw [hwhole]
  dsimp only
  rw [keepDigits_eq h, sub_self, zero_sub]

/-- A text that is read as a decimal, whatever its sign: it is a number of the grammar if the
decimal is read as a number at all. -/
def SpellsDecimal (cs : List Char) (d : Scaled) : Prop :=
  ∀ (negative : Bool) (x : Binary64),
    Binary64.ofDecimal? negative d.coefficient d.exponent = some x →
      SpellsNumber negative cs (.real x)

/-- Digits with a fraction or an exponent are read as a decimal, if sixty-four bits hold them. -/
theorem spellsDecimal_of_fits {ds fs fraction es : List Char} {e : ℤ} (hds : IsWhole ds)
    (hfs : IsFraction fs fraction) (hes : IsExponent es e) (hmore : fs ++ es ≠ [])
    (hlimit : e.natAbs ≤ exponentLimit) (hfits : value (ds ++ fraction) < 2 ^ 64) :
    SpellsDecimal (ds ++ (fs ++ es)) ⟨value (ds ++ fraction), e - fraction.length⟩ := by
  intro negative x hx
  refine .decimal hds hfs hes hmore ?_
  rw [keptDecimal_eq hfits, decimalNumber?, if_neg (Nat.not_lt.mpr hlimit), neg_add_eq_sub, hx]
  rfl

/-! ### Digits -/

section
variable {ds : List Char} (hds : IsDigits ds) (hfirst : ds.head? ≠ some '0')
include hds hfirst

theorem isWhole_take {n : ℕ} (hn : 0 < n) (more : List Char)
    (hmore : ∀ d ∈ more, d.isDigit = true) : IsWhole (ds.take n ++ more) := by
  obtain ⟨hne, hdigits⟩ := hds
  obtain ⟨d, ds, rfl⟩ := List.exists_cons_of_ne_nil hne
  obtain ⟨n, rfl⟩ := Nat.exists_eq_succ_of_ne_zero hn.ne'
  refine ⟨⟨?_, fun c hc => ?_⟩, fun hhead => ?_⟩
  · simp
  · rcases List.mem_append.mp hc with hc | hc
    · exact hdigits c (List.mem_of_mem_take hc)
    · exact hmore c hc
  · exact absurd hhead hfirst

end

theorem value_append_zeros (ds : List Char) (n : ℕ) :
    value (ds ++ List.replicate n '0') = value ds * 10 ^ n := by
  rw [value, Nat.ofDigitChars_append, Nat.ofDigitChars_replicate_zero, Nat.mul_comm]
  rfl

theorem value_zeros_append (n : ℕ) (ds : List Char) :
    value (List.replicate n '0' ++ ds) = value ds := by
  rw [value, Nat.ofDigitChars_append, Nat.ofDigitChars_replicate_zero, Nat.mul_zero]
  rfl

/-! ### Texts without an exponent -/

theorem isDigit_of_mem_zeros {n : ℕ} {c : Char} (h : c ∈ List.replicate n '0') :
    c.isDigit = true := by
  rw [List.eq_of_mem_replicate h]
  rfl

/-- Digits behind a decimal point and zeros. -/
theorem spellsDecimal_positional_small {ds : List Char} (hds : IsDigits ds)
    (hfits : value ds < 2 ^ 64) {top : ℤ} (htop : top < 0) :
    SpellsDecimal (positional ds top) ⟨value ds, top + 1 - ds.length⟩ := by
  have hfraction : IsDigits (List.replicate (-top - 1).toNat '0' ++ ds) := by
    refine ⟨List.append_ne_nil_of_right_ne_nil _ hds.1, fun d hd => ?_⟩
    exact (List.mem_append.mp hd).elim isDigit_of_mem_zeros (hds.2 d)
  have hvalue : value (['0'] ++ (List.replicate (-top - 1).toNat '0' ++ ds)) = value ds := by
    rw [← List.replicate_one, value_zeros_append, value_zeros_append]
  have hscale : (0 : ℤ) - (List.replicate (-top - 1).toNat '0' ++ ds).length =
      top + 1 - ds.length := by
    rw [List.length_append, List.length_replicate]
    omega
  have htext : positional ds top =
      ['0'] ++ ('.' :: (List.replicate (-top - 1).toNat '0' ++ ds) ++ []) := by
    rw [positional, if_pos htop, List.append_nil]
    rfl
  rw [htext, ← hscale, ← hvalue]
  exact spellsDecimal_of_fits isWhole_zero (.some hfraction) .none (List.cons_ne_nil _ _)
    (Nat.zero_le _) (hvalue.trans_lt hfits)

section
variable {ds : List Char} (hds : IsDigits ds) (hfirst : ds.head? ≠ some '0') {top : ℤ}
include hds hfirst

/-- Digits with a decimal point among them. -/
theorem spellsDecimal_positional_middle (hfits : value ds < 2 ^ 64) (htop : 0 ≤ top)
    (hshort : top + 1 < ds.length) :
    SpellsDecimal (positional ds top) ⟨value ds, top + 1 - ds.length⟩ := by
  have hsplit := List.take_append_drop (top.toNat + 1) ds
  have hfraction : IsDigits (ds.drop (top.toNat + 1)) := by
    refine ⟨fun hnone => ?_, fun d hd => hds.2 d (List.mem_of_mem_drop hd)⟩
    have hlength := List.drop_eq_nil_iff.mp hnone
    omega
  have hwhole : IsWhole (ds.take (top.toNat + 1)) := by
    rw [← List.append_nil (ds.take _)]
    exact isWhole_take hds hfirst (Nat.succ_pos _) [] (by simp)
  have hscale : (0 : ℤ) - (ds.drop (top.toNat + 1)).length = top + 1 - ds.length := by
    rw [List.length_drop]
    omega
  have htext : positional ds top =
      ds.take (top.toNat + 1) ++ ('.' :: ds.drop (top.toNat + 1) ++ []) := by
    have hnoZeros : top.toNat + 1 - ds.length = 0 := by omega
    have hsome : (ds.drop (top.toNat + 1)).isEmpty = false := by
      rw [Bool.eq_false_iff, ne_eq, List.isEmpty_iff]
      exact hfraction.1
    rw [positional, if_neg (not_lt.mpr htop)]
    simp [hnoZeros, hsome]
  have hspells := spellsDecimal_of_fits hwhole (.some hfraction) .none (List.cons_ne_nil _ _)
    (Nat.zero_le _) (by rwa [hsplit])
  rwa [hsplit, hscale, ← htext] at hspells

/-- Digits and zeros in front of a decimal point, and a zero behind it. -/
theorem spellsDecimal_positional_large {zeros : ℕ} (htop : top + 1 = ds.length + zeros)
    (hfits : value ds * 10 ^ (zeros + 1) < 2 ^ 64) :
    SpellsDecimal (positional ds top) ⟨value ds * 10 ^ (zeros + 1), -1⟩ := by
  have hlength := List.length_pos_of_ne_nil hds.1
  have hwhole : IsWhole (ds ++ List.replicate zeros '0') := by
    rw [← List.take_length (l := ds)]
    exact isWhole_take hds hfirst hlength _ fun _ => isDigit_of_mem_zeros
  have htext : positional ds top = ds ++ List.replicate zeros '0' ++ (['.', '0'] ++ []) := by
    have hall : ds.take (top.toNat + 1) = ds := List.take_of_length_le (by omega)
    have hnone : ds.drop (top.toNat + 1) = [] := List.drop_of_length_le (by omega)
    have hzeros : top.toNat + 1 - ds.length = zeros := by omega
    have hsome : ¬top < 0 := by omega
    rw [positional, if_neg hsome]
    simp [hall, hnone, hzeros]
  have hvalue : value (ds ++ List.replicate zeros '0' ++ ['0']) = value ds * 10 ^ (zeros + 1) := by
    rw [← List.replicate_one, value_append_zeros, value_append_zeros, pow_one, pow_succ,
      Nat.mul_assoc]
  rw [htext, ← hvalue]
  exact spellsDecimal_of_fits hwhole (.some isDigits_zero) .none (List.cons_ne_nil _ _)
    (Nat.zero_le _) (hvalue.trans_lt hfits)

end

/-! ### Texts with an exponent -/

theorem isDigits_digits (n : ℕ) : IsDigits (digits n) :=
  ⟨digits_ne_nil n, fun _ => isDigit_of_mem_digits⟩

/-- The exponent of a text, with its sign. -/
theorem isExponent_top (top : ℤ) :
    IsExponent ('e' :: (if top < 0 then '-' else '+') :: digits top.natAbs) top := by
  have hdigits := isDigits_digits top.natAbs
  split
  · next hneg =>
    have hvalue : top = -(value (digits top.natAbs) : ℤ) := by
      rw [value_digits]
      omega
    nth_rewrite 2 [hvalue]
    exact .down (Or.inl rfl) hdigits
  · next hpos =>
    have hvalue : top = (value (digits top.natAbs) : ℤ) := by
      rw [value_digits]
      omega
    nth_rewrite 2 [hvalue]
    exact .up (Or.inl rfl) hdigits

section
variable {ds : List Char} (hds : IsDigits ds) (hfirst : ds.head? ≠ some '0') {top : ℤ}
include hds hfirst

/-- A text with an exponent, if that is not beyond the limit. -/
theorem spellsDecimal_scientific (hfits : value ds < 2 ^ 64) (hlimit : top.natAbs ≤ exponentLimit) :
    SpellsDecimal (scientific ds top) ⟨value ds, top + 1 - ds.length⟩ := by
  obtain ⟨d, ds, rfl⟩ := List.exists_cons_of_ne_nil hds.1
  have hwhole : IsWhole [d] := by
    have htake := isWhole_take hds hfirst Nat.one_pos [] (by simp)
    simpa using htake
  have hexponent := isExponent_top top
  cases ds with
  | nil =>
    have hspells := spellsDecimal_of_fits hwhole .none hexponent (List.cons_ne_nil _ _) hlimit hfits
    simpa [scientific] using hspells
  | cons d' ds =>
    have hfraction : IsDigits (d' :: ds) :=
      ⟨List.cons_ne_nil _ _, fun c hc => hds.2 c (List.mem_cons_of_mem _ hc)⟩
    have hscale : top + 1 - ((d :: d' :: ds).length : ℤ) = top - ((d' :: ds).length : ℤ) := by
      simp only [List.length_cons]
      omega
    rw [hscale]
    exact spellsDecimal_of_fits hwhole (.some hfraction) hexponent (List.cons_ne_nil _ _) hlimit
      hfits

end

/-! ### Decimals -/

/-- The highest digit of a decimal that is neither too large nor too small has a small weight. -/
theorem natAbs_top_le {c : ℕ} {k : ℤ} (hc : 0 < c) (hlow : (10 : ℚ) ^ (-324 : ℤ) ≤ c * 10 ^ k)
    (hhigh : (c * 10 ^ k : ℚ) < 10 ^ (309 : ℤ)) :
    ((digits c).length - 1 + k : ℤ).natAbs ≤ exponentLimit := by
  have hlength : 0 < (digits c).length := Nat.length_toDigits_pos
  have hlower : (10 : ℚ) ^ (((digits c).length - 1 : ℕ) : ℤ) ≤ c := by
    rw [zpow_natCast]
    rcases Nat.eq_or_lt_of_le (Nat.succ_le_of_lt hlength) with hone | hmore
    · rw [← hone]
      exact_mod_cast Nat.succ_le_of_lt hc
    · have hnot : ¬(digits c).length ≤ (digits c).length - 1 := by omega
      have hpow := (Nat.length_toDigits_le_iff (by decide) (by omega)).not.mp hnot
      exact_mod_cast Nat.not_lt.mp hpow
  have hupper : (c : ℚ) < 10 ^ ((digits c).length : ℤ) := by
    rw [zpow_natCast]
    exact_mod_cast (Nat.length_toDigits_le_iff (by decide) hlength).mp le_rfl
  have htop : (((digits c).length - 1 : ℕ) : ℤ) + k < 309 := by
    refine (zpow_lt_zpow_iff_right₀ (by norm_num : (1 : ℚ) < 10)).mp ?_
    rw [zpow_add₀ (by norm_num)]
    exact (mul_le_mul_of_nonneg_right hlower (ten_zpow_pos k).le).trans_lt hhigh
  have hbottom : -324 < ((digits c).length : ℤ) + k := by
    refine (zpow_lt_zpow_iff_right₀ (by norm_num : (1 : ℚ) < 10)).mp ?_
    rw [zpow_add₀ (by norm_num)]
    exact hlow.trans_lt (mul_lt_mul_of_pos_right hupper (ten_zpow_pos k))
  unfold exponentLimit
  omega

/-- **The text of a decimal is read as that decimal**, or as one with a zero behind the decimal
point, if it is written without an exponent and has no fraction. -/
theorem spellsDecimal_render {d : Scaled} (hpos : 0 < d.coefficient)
    (hfits : d.coefficient < 2 ^ 64)
    (hlow : (10 : ℚ) ^ (-324 : ℤ) ≤ d.coefficient * 10 ^ d.exponent)
    (hhigh : (d.coefficient * 10 ^ d.exponent : ℚ) < 10 ^ (309 : ℤ)) :
    SpellsDecimal (layout.render d) d ∨ ∃ zeros : ℕ, d.exponent = zeros ∧
      d.coefficient * 10 ^ (zeros + 1) < 2 ^ 64 ∧
        SpellsDecimal (layout.render d) ⟨d.coefficient * 10 ^ (zeros + 1), -1⟩ := by
  obtain ⟨c, k⟩ := d
  dsimp only at hpos hfits hlow hhigh ⊢
  have hds := isDigits_digits c
  have hfirst : (digits c).head? ≠ some '0' := by
    obtain ⟨d, ds, hdigits, hd⟩ := exists_digits_eq_cons_of_pos hpos
    rw [hdigits]
    exact fun hhead => hd (Option.some.inj hhead)
  have hlength : 0 < (digits c).length := Nat.length_toDigits_pos
  have hscale : ((digits c).length - 1 + k : ℤ) + 1 - (digits c).length = k := by ring
  have hvalue := hfits
  rw [← value_digits c] at hvalue
  unfold Layout.render
  dsimp only
  split
  · next hplaces =>
    rcases lt_or_ge ((digits c).length - 1 + k : ℤ) 0 with hsmall | hlarge
    · have hspells := spellsDecimal_positional_small hds hvalue hsmall
      rw [value_digits, hscale] at hspells
      exact Or.inl hspells
    · rcases lt_or_ge ((digits c).length - 1 + k + 1 : ℤ) (digits c).length with hshort | hlong
      · have hspells := spellsDecimal_positional_middle hds hfirst hvalue hlarge hshort
        rw [value_digits, hscale] at hspells
        exact Or.inl hspells
      · obtain ⟨zeros, rfl⟩ := Int.eq_ofNat_of_zero_le (show 0 ≤ k by omega)
        -- at most sixteen digits stand in front of the point, and one behind it
        have hfew : (digits c).length + (zeros + 1) ≤ 17 := by
          have hgreatest : ((digits c).length - 1 + zeros : ℤ) ≤ 15 := hplaces.2
          omega
        have hroom : c * 10 ^ (zeros + 1) < 2 ^ 64 := by
          have hless : c < 10 ^ (digits c).length :=
            (Nat.length_toDigits_le_iff (by decide) hlength).mp le_rfl
          calc c * 10 ^ (zeros + 1) < 10 ^ (digits c).length * 10 ^ (zeros + 1) :=
                Nat.mul_lt_mul_of_pos_right hless (Nat.pow_pos (by decide))
            _ = 10 ^ ((digits c).length + (zeros + 1)) := (pow_add _ _ _).symm
            _ ≤ 10 ^ 17 := Nat.pow_le_pow_right (by decide) hfew
            _ ≤ 2 ^ 64 := by decide
        have htop : ((digits c).length - 1 + zeros : ℤ) + 1 = (digits c).length + zeros := by ring
        have hspells := spellsDecimal_positional_large hds hfirst htop (by rwa [value_digits])
        rw [value_digits] at hspells
        exact Or.inr ⟨zeros, rfl, hroom, hspells⟩
  · have hspells := spellsDecimal_scientific hds hfirst hvalue (natAbs_top_le hpos hlow hhigh)
    rw [value_digits, hscale] at hspells
    exact Or.inl hspells

/-! ### Binary numbers -/

/-- The text of a binary number without its sign. -/
def unsignedText (x : Binary64) : List Char :=
  if x.significand = 0 then ['0', '.', '0'] else layout.render x.shortest

theorem text_eq (x : Binary64) :
    x.text = (if x.negative then ['-'] else []) ++ unsignedText x := by
  unfold Binary64.text unsignedText
  dsimp only
  split <;> rfl

section
variable {x : Binary64} (hx : x.Canonical)
include hx

/-- Zero is written with its sign. -/
theorem spellsNumber_of_zero (hzero : x.significand = 0) :
    SpellsNumber x.negative (unsignedText x) (.real x) := by
  have hleast : x.exponent = Binary64.leastExponent := by
    refine hx.2.2.2.resolve_left ?_
    rw [hzero]
    decide
  have hself : Binary64.zero x.negative = x := by
    rw [Binary64.zero, ← hleast, ← hzero]
  have hread : Binary64.ofDecimal? x.negative 0 (-1) = some (Binary64.zero x.negative) := by
    cases x.negative <;> decide +kernel
  have hspells : SpellsDecimal (['0'] ++ (['.', '0'] ++ [])) ⟨0, -1⟩ :=
    spellsDecimal_of_fits isWhole_zero (.some isDigits_zero) .none (List.cons_ne_nil _ _)
      (Nat.zero_le _) (by decide)
  rw [unsignedText, if_pos hzero]
  exact hspells _ _ (hread.trans (congrArg some hself))

/-- The digits of a number that is not zero, as they are read. -/
theorem spellsDecimal_unsignedText (hpos : 0 < x.significand) :
    SpellsDecimal (unsignedText x) x.shortest ∨ ∃ zeros : ℕ, x.shortest.exponent = zeros ∧
      x.shortest.coefficient * 10 ^ (zeros + 1) < 2 ^ 64 ∧
        SpellsDecimal (unsignedText x) ⟨x.shortest.coefficient * 10 ^ (zeros + 1), -1⟩ := by
  obtain ⟨hlow, hhigh⟩ := (Binary64.covers_shortest hx hpos).bounds hx hpos
  have hfew := Binary64.shortest_coefficient_le hx hpos
  rw [unsignedText, if_neg hpos.ne']
  exact spellsDecimal_render (Binary64.shortest_coefficient_pos hx hpos)
    (hfew.trans_lt (by decide)) hlow hhigh

/-- **The text of a binary number is a number of the grammar.** -/
theorem exists_spellsNumber_unsignedText :
    ∃ y, SpellsNumber x.negative (unsignedText x) (.real y) := by
  rcases Nat.eq_zero_or_pos x.significand with hzero | hpos
  · exact ⟨x, spellsNumber_of_zero hx hzero⟩
  rcases spellsDecimal_unsignedText hx hpos with hspells | ⟨zeros, -, hfits, hspells⟩
  · rcases le_or_gt 0 x.shortest.exponent with hwhole | hfraction
    · obtain ⟨y, hy⟩ := Binary64.exists_ofDecimal?_shortest hx hpos hwhole
      exact ⟨y, hspells _ _ hy⟩
    · have hfew := (Binary64.shortest_coefficient_le hx hpos).trans_lt (by decide : _ < 2 ^ 64)
      obtain ⟨y, hy⟩ := Binary64.exists_ofDecimal?_of_neg x.negative hfew hfraction
      exact ⟨y, hspells _ _ hy⟩
  · obtain ⟨y, hy⟩ := Binary64.exists_ofDecimal?_of_neg x.negative hfits (by decide : (-1 : ℤ) < 0)
    exact ⟨y, hspells _ _ hy⟩

end

/-- A number is written with its sign in front. -/
theorem spellsFlat_text {x : Binary64} {n : Number}
    (h : SpellsNumber x.negative (unsignedText x) n) : SpellsFlat x.text (.number n) := by
  rw [text_eq]
  cases hsign : x.negative with
  | true =>
    rw [hsign] at h
    exact .negative h
  | false =>
    rw [hsign] at h
    exact .number h

/-- **Binary numbers with few digits and few places are read back**, in particular the decimals
of at most fourteen digits, up to twenty-two of them behind the point. -/
theorem readsBack_real {x : Binary64} (hx : x.Canonical)
    (hfew : x.shortest.coefficient * 10 < 2 ^ 53)
    (hplaces : -22 ≤ x.shortest.exponent ∧ x.shortest.exponent ≤ 0) :
    (Number.real x).ReadsBack := by
  have hspells : SpellsNumber x.negative (unsignedText x) (.real x) := by
    rcases Nat.eq_zero_or_pos x.significand with hzero | hpos
    · exact spellsNumber_of_zero hx hzero
    have hcovers := Binary64.covers_shortest hx hpos
    rcases spellsDecimal_unsignedText hx hpos with hspells | ⟨zeros, hzeros, -, hspells⟩
    · exact hspells _ _ (hcovers.ofDecimal?_eq hx hpos (by omega) (by omega))
    · obtain rfl : zeros = 0 := by omega
      have hvalue : ((x.shortest.coefficient * 10 ^ (0 + 1) : ℕ) : ℚ) * 10 ^ (-1 : ℤ) =
          x.shortest.coefficient * 10 ^ x.shortest.exponent := by
        rw [hzeros, zero_add, pow_one, zpow_neg_one, Nat.cast_zero, zpow_zero, mul_one,
          Nat.cast_mul, Nat.cast_ofNat, mul_inv_cancel_right₀ (by norm_num)]
      rw [← hvalue] at hcovers
      exact hspells _ _ (hcovers.ofDecimal?_eq hx hpos hfew (Nat.le_of_ble_eq_true rfl))
  have hread := (spellsFlat_text hspells).readValueWith none (Text.stops_nil isNumberChar)
  rw [List.append_nil] at hread
  exact hread

/-- The number nearest to `3e23` is the next one. -/
example : readNumber false "3e23".toList =
    .ok (.real ⟨false, 8940696716308593, 25⟩, []) := by decide +kernel

end BadgeEntry.Json
