import BadgeEntry.Proofs.Json.Exact
import Mathlib.Data.List.Induction

/-!
# Whole numbers as they are written

A whole number is written in one way: with digits, of which the first is no needless zero, and
perhaps a minus in front.  So it is written back as it was if it is kept as a whole number, and
that is so just if it has at most sixty-four bits and is not negative zero.  Every other one is read
as a binary number, whose text has a decimal point or an exponent, or is refused.

## Main definitions

* `IsInteger` — whole numbers as they are written, of any length.
* `IsKeptInteger` — those that are kept as whole numbers.

## Main results

* `digits_value` — digits are the digits of their value.
* `IsInteger.exists_of_readValue` — **a whole number is read to its end or not at all.**
* `IsInteger.text_eq_iff` — **just the whole numbers that are kept are written back.**
-/

namespace BadgeEntry.Decimal

open Json

/-- The value of some digits with another one behind them. -/
theorem value_concat (ds : List Char) (d : Char) :
    value (ds ++ [d]) = 10 * value ds + value [d] := by
  rw [value, Nat.ofDigitChars_append, Nat.ofDigitChars_eq_ofDigitChars_zero]
  simp [value]

/-- A digit has a value below ten and is its digit. -/
theorem digits_value_singleton {d : Char} (h : d.isDigit = true) :
    value [d] < 10 ∧ digits (value [d]) = [d] := by
  obtain ⟨hlow, hhigh⟩ := Char.isDigit_iff_toNat.mp h
  have hnine : '9'.toNat = '0'.toNat + 9 := rfl
  have hvalue : value [d] = d.toNat - '0'.toNat := by
    rw [value, Nat.ofDigitChars_cons, Nat.ofDigitChars_nil, Nat.mul_zero, Nat.zero_add]
  have hlt : value [d] < 10 := by omega
  have hchar : (value [d]).digitChar = d := by
    have hzero : '0'.toNat = 48 := rfl
    rw [← Char.toNat_inj, Nat.toNat_digitChar_of_lt_ten hlt]
    omega
  exact ⟨hlt, by rw [digits, Nat.toDigits_of_lt_base hlt, hchar]⟩

/-- Digits that begin with no zero have a value above zero, and are its digits. -/
theorem digits_value_of_head {ds : List Char} (hds : IsDigits ds) (hfirst : ds.head? ≠ some '0') :
    0 < value ds ∧ digits (value ds) = ds := by
  obtain ⟨hne, hdigits⟩ := hds
  induction ds using List.reverseRecOn with
  | nil => exact absurd rfl hne
  | append_singleton ds d ih =>
    obtain ⟨hlt, hlast⟩ :=
      digits_value_singleton (hdigits d (List.mem_append_right _ List.mem_cons_self))
    by_cases hnone : ds = []
    · subst hnone
      rw [List.nil_append] at hfirst ⊢
      refine ⟨Nat.pos_of_ne_zero fun hzero => hfirst ?_, hlast⟩
      rw [← hlast, hzero]
      rfl
    · have hhead : ds.head? ≠ some '0' := by
        obtain ⟨c, cs, rfl⟩ := List.exists_cons_of_ne_nil hnone
        exact hfirst
      obtain ⟨hpos, hrest⟩ := ih hhead hnone fun c hc => hdigits c (List.mem_append_left _ hc)
      rw [value_concat]
      refine ⟨by omega, ?_⟩
      rw [digits, ← Nat.toDigits_append_toDigits (by decide) hpos hlt]
      exact congrArg₂ (· ++ ·) hrest hlast

/-- **Digits are the digits of their value**, if no needless zero stands at their front. -/
theorem digits_value {ds : List Char} (h : IsWhole ds) : digits (value ds) = ds := by
  by_cases hfirst : ds.head? = some '0'
  · rw [h.2 hfirst]
    rfl
  · exact (digits_value_of_head h.1 hfirst).2

end BadgeEntry.Decimal

namespace BadgeEntry.Json

open Text Decimal

variable {ds cs rest last : List Char} {n : Number} {v : Value}

/-- Whole numbers as they are written: digits without a needless zero at their front, and perhaps
a minus before them. -/
inductive IsInteger : List Char → Prop
  | plain {ds : List Char} (whole : IsWhole ds) : IsInteger ds
  | minus {ds : List Char} (whole : IsWhole ds) : IsInteger ('-' :: ds)

/-- The whole numbers that are kept as such: they have at most sixty-four bits, with a sign if they
are negative, and are not negative zero. -/
inductive IsKeptInteger : List Char → Prop
  | plain {ds : List Char} (whole : IsWhole ds) (fits : value ds < 2 ^ 64) : IsKeptInteger ds
  | minus {ds : List Char} (whole : IsWhole ds) (some : 0 < value ds) (fits : value ds ≤ 2 ^ 63) :
    IsKeptInteger ('-' :: ds)

theorem IsKeptInteger.isInteger (h : IsKeptInteger cs) : IsInteger cs := by
  cases h with
  | plain hds => exact .plain hds
  | minus hds => exact .minus hds

/-! ### Reading -/

/-- Whole digits in front of what cannot go on a number are a whole number. -/
theorem readNumber_isWhole (negative : Bool) (hds : IsWhole ds) (hrest : Stops isNumberChar rest) :
    readNumber negative (ds ++ rest) = closeInteger negative ds rest := by
  rw [readNumber_append hds (stops_isDigit hrest)]
  cases rest with
  | nil => rfl
  | cons c rest =>
    obtain ⟨hpoint, he, hE⟩ := ne_of_stops hrest rfl
    rw [readAfterWhole_eq negative ds hpoint, readEnd_of_ne he hE]

theorem asValue_closeInteger_eq_ok_iff {negative : Bool} :
    asValue (closeInteger negative ds rest) = .ok (v, last) ↔
      (∃ n, v = .number n ∧ wholeNumber? negative ds = some n) ∧ last = rest := by
  constructor
  · intro h
    cases hclose : closeInteger negative ds rest with
    | error stop =>
      rw [hclose] at h
      cases h
    | ok found =>
      obtain ⟨n, tail⟩ := found
      rw [hclose] at h
      cases h
      obtain ⟨hmeant, rfl⟩ := closeInteger_eq_ok_iff.mp hclose
      exact ⟨⟨n, rfl, hmeant⟩, rfl⟩
  · rintro ⟨⟨n, rfl, hmeant⟩, rfl⟩
    exact asValue_eq_ok_iff.mpr (closeInteger_eq_ok_iff.mpr ⟨hmeant, rfl⟩)

section
variable (hrest : Stops isNumberChar rest) (hds : IsWhole ds) (inner : Option (Reader Value))
include hrest hds

theorem readValueWith_isWhole_eq_ok_iff : readValueWith inner (ds ++ rest) = .ok (v, last) ↔
    (∃ n, v = .number n ∧ wholeNumber? false ds = some n) ∧ last = rest := by
  obtain ⟨d, ds', rfl⟩ := List.exists_cons_of_ne_nil hds.1.1
  rw [List.cons_append, readValueWith_digit inner (hds.1.2 d List.mem_cons_self),
    ← List.cons_append, readNumber_isWhole false hds hrest, asValue_closeInteger_eq_ok_iff]

theorem readValueWith_minus_isWhole_eq_ok_iff :
    readValueWith inner ('-' :: ds ++ rest) = .ok (v, last) ↔
      (∃ n, v = .number n ∧ wholeNumber? true ds = some n) ∧ last = rest := by
  rw [List.cons_append, readValueWith_minus, readNumber_isWhole true hds hrest,
    asValue_closeInteger_eq_ok_iff]

end

theorem exists_readValue_eq (a : Nat) : ∃ inner, readValue a = readValueWith inner := by
  cases a with
  | zero => exact ⟨none, rfl⟩
  | succ a => exact ⟨some (readValue a), rfl⟩

/-- **A whole number is read to its end or not at all**, and as a number. -/
theorem IsInteger.exists_of_readValue (h : IsInteger cs) {a : Nat} (hrest : Stops isNumberChar rest)
    (hread : readValue a (cs ++ rest) = .ok (v, last)) :
    (∃ n, v = .number n ∧ SpellsFlat cs (.number n)) ∧ last = rest := by
  obtain ⟨inner, hinner⟩ := exists_readValue_eq a
  rw [hinner] at hread
  cases h with
  | plain hds =>
    obtain ⟨⟨n, rfl, hmeant⟩, hlast⟩ := (readValueWith_isWhole_eq_ok_iff hrest hds inner).mp hread
    exact ⟨⟨n, rfl, .number (.whole hds hmeant)⟩, hlast⟩
  | minus hds =>
    obtain ⟨⟨n, rfl, hmeant⟩, hlast⟩ :=
      (readValueWith_minus_isWhole_eq_ok_iff hrest hds inner).mp hread
    exact ⟨⟨n, rfl, .negative (.whole hds hmeant)⟩, hlast⟩

/-- A whole number stands for a number, if for anything. -/
theorem IsInteger.exists_of_spells (h : IsInteger cs) {a : Nat} (hspells : Spells a cs v) :
    ∃ n, v = .number n ∧ SpellsFlat cs (.number n) :=
  (h.exists_of_readValue (stops_nil isNumberChar)
    ((reads_readValue a).complete hspells (stops_nil isNumberChar))).1

/-! ### Writing back -/

/-- A binary number is written with a decimal point or an exponent. -/
theorem exists_mem_text (x : Binary64) : ∃ c ∈ x.text, c = '.' ∨ c = 'e' := by
  have hpositional (ds : List Char) (top : Int) : '.' ∈ positional ds top := by
    unfold positional
    split <;> simp
  have hscientific (ds : List Char) (top : Int) : 'e' ∈ scientific ds top := by
    unfold scientific
    exact List.mem_append_right _ List.mem_cons_self
  have hrender (form : Layout) (d : Scaled) : ∃ c ∈ form.render d, c = '.' ∨ c = 'e' := by
    unfold Layout.render
    dsimp only
    split
    · exact ⟨_, hpositional _ _, Or.inl rfl⟩
    · exact ⟨_, hscientific _ _, Or.inr rfl⟩
  unfold Binary64.text
  dsimp only
  split
  · exact ⟨'.', by simp, Or.inl rfl⟩
  · obtain ⟨c, hc, hkind⟩ := hrender layout x.shortest
    exact ⟨c, List.mem_append_right _ hc, hkind⟩

theorem IsInteger.eq_or_isDigit (h : IsInteger cs) {c : Char} (hc : c ∈ cs) :
    c = '-' ∨ c.isDigit = true := by
  cases h with
  | plain hds => exact Or.inr (hds.1.2 c hc)
  | minus hds => exact (List.mem_cons.mp hc).imp_right (hds.1.2 c)

/-- No whole number is written like a binary one. -/
theorem IsInteger.text_real_ne (h : IsInteger cs) (x : Binary64) : x.text ≠ cs := by
  intro heq
  obtain ⟨c, hc, hkind⟩ := exists_mem_text x
  rw [heq] at hc
  rcases h.eq_or_isDigit hc with rfl | hdigit
  · exact absurd hkind (by decide)
  · rcases hkind with rfl | rfl <;> exact absurd hdigit (by decide)

theorem wholeNumber?_false (ds : List Char) : wholeNumber? false ds =
    if value ds < 2 ^ 64 then some (.integer (value ds))
    else (Binary64.ofDecimal? false (keptDecimal ds []).coefficient
      (keptDecimal ds []).exponent).map .real := by
  have hkept : (false = true ∧ (value ds = 0 ∨ 2 ^ 63 < value ds) ∨
      false = false ∧ 2 ^ 64 ≤ value ds) ↔ ¬value ds < 2 ^ 64 := by
    simp
  unfold wholeNumber?
  dsimp only
  rw [if_congr hkept rfl rfl, ite_not]
  rfl

theorem wholeNumber?_true (ds : List Char) : wholeNumber? true ds =
    if 0 < value ds ∧ value ds ≤ 2 ^ 63 then some (.integer (-value ds))
    else (Binary64.ofDecimal? true (keptDecimal ds []).coefficient
      (keptDecimal ds []).exponent).map .real := by
  have hkept : (true = true ∧ (value ds = 0 ∨ 2 ^ 63 < value ds) ∨
      true = false ∧ 2 ^ 64 ≤ value ds) ↔ ¬(0 < value ds ∧ value ds ≤ 2 ^ 63) := by
    simp
    omega
  unfold wholeNumber?
  dsimp only
  rw [if_congr hkept rfl rfl, ite_not, if_pos rfl]

/-- A negative number is written with a minus in front of its digits. -/
theorem ofInt_neg {k : Nat} (h : 0 < k) : ofInt (-k) = '-' :: digits k := by
  obtain ⟨k, rfl⟩ := Nat.exists_eq_add_one_of_ne_zero h.ne'
  rfl

/-- A whole number that is kept stands for a number. -/
theorem IsKeptInteger.exists_spells (h : IsKeptInteger cs) (a : Nat) :
    ∃ n, Spells a cs (.number n) := by
  cases h with
  | plain hds hfits =>
    have hmeant := (wholeNumber?_false cs).trans (if_pos hfits)
    exact ⟨_, spells_of_spellsFlat (.number (.whole hds hmeant)) a⟩
  | minus hds hsome hfits =>
    have hmeant := (wholeNumber?_true _).trans (if_pos ⟨hsome, hfits⟩)
    exact ⟨_, spells_of_spellsFlat (.negative (.whole hds hmeant)) a⟩

/-- **Just the whole numbers that are kept are written back** as they were. -/
theorem IsInteger.text_eq_iff (h : IsInteger cs) (hspells : SpellsFlat cs (.number n)) :
    n.text = cs ↔ IsKeptInteger cs := by
  have hread := hspells.readValueWith none (stops_nil isNumberChar)
  have hreal {o : Option Binary64} (ho : o.map .real = some n) : n.text ≠ cs := by
    obtain ⟨x, -, rfl⟩ := Option.map_eq_some_iff.mp ho
    exact h.text_real_ne x
  cases h with
  | plain hds =>
    obtain ⟨⟨m, hm, hmeant⟩, -⟩ := (readValueWith_isWhole_eq_ok_iff (stops_nil _) hds none).mp hread
    obtain rfl : n = m := Value.number.inj hm
    rw [wholeNumber?_false] at hmeant
    split at hmeant
    · next hfits =>
      obtain rfl := Option.some.inj hmeant
      exact iff_of_true (digits_value hds) (.plain hds hfits)
    · next hlarge =>
      refine iff_of_false (hreal hmeant) fun hkept => ?_
      cases hkept with
      | plain _ hfits => exact hlarge hfits
      | minus => exact absurd (hds.1.2 '-' List.mem_cons_self) (by decide)
  | @minus ds hds =>
    obtain ⟨⟨m, hm, hmeant⟩, -⟩ :=
      (readValueWith_minus_isWhole_eq_ok_iff (stops_nil _) hds none).mp hread
    obtain rfl : n = m := Value.number.inj hm
    rw [wholeNumber?_true] at hmeant
    split at hmeant
    · next hfits =>
      obtain rfl := Option.some.inj hmeant
      have htext : ofInt (-(value ds : Int)) = '-' :: ds := by
        rw [ofInt_neg hfits.1, digits_value hds]
      exact iff_of_true htext (.minus hds hfits.1 hfits.2)
    · next hlarge =>
      refine iff_of_false (hreal hmeant) fun hkept => ?_
      cases hkept with
      | plain hwhole => exact absurd (hwhole.1.2 '-' List.mem_cons_self) (by decide)
      | minus _ hsome hfits => exact hlarge ⟨hsome, hfits⟩

end BadgeEntry.Json
