import BadgeEntry.Proofs.Json.Grammar
import BadgeEntry.Proofs.Json.Numbers

/-!
# Numbers are read exactly

The reader of numbers accepts the numbers of the grammar and nothing else, and reads each as
the number that it stands for.  It goes through a number in stages, which are told here from
the last one to the first: the digits of an exponent, the exponent, what may follow the whole
digits, and the number.

## Main results

* `SpellsNumber.readNumber` — **every number is read.**
* `exists_of_readNumber` — **only numbers are read.**
-/

namespace BadgeEntry.Json

open Text Decimal

variable {negative : Bool} {significand : Nat} {scale : Int} {n : Number} {cs rest : List Char}

/-! ### Ends of numbers -/

theorem closeReal_eq_ok_iff {m : Number} : closeReal negative significand scale cs = .ok (m, rest) ↔
    (Binary64.ofDecimal? negative significand scale).map .real = some m ∧ cs = rest := by
  unfold closeReal
  cases Binary64.ofDecimal? negative significand scale with
  | none => exact iff_of_false nofun nofun
  | some x => simp [Prod.ext_iff]

theorem closeInteger_eq_ok_iff {ds : List Char} {m : Number} :
    closeInteger negative ds cs = .ok (m, rest) ↔
      wholeNumber? negative ds = some m ∧ cs = rest := by
  have hkept {i : Int} : (Except.ok (.integer i, cs) : Except Stop _) = .ok (m, rest) ↔
      some (.integer i) = some m ∧ cs = rest := by
    simp [Prod.ext_iff]
  have hsize : UInt64.size = 2 ^ 64 := rfl
  unfold closeInteger wholeNumber?
  dsimp only
  generalize value ds = k
  cases negative with
  | true =>
    by_cases hfits : 0 < k ∧ k ≤ 0x8000000000000000
    · have hwhole : ¬(k = 0 ∨ 2 ^ 63 < k) := by omega
      simp only [hfits, hwhole, and_self, if_true, and_false, Bool.true_eq_false, false_and,
        or_self, if_false, hkept]
    · have hreal : k = 0 ∨ 2 ^ 63 < k := by omega
      simp only [hfits, hreal, and_self, if_true, true_or, if_false, closeReal_eq_ok_iff]
  | false =>
    by_cases hfits : k < UInt64.size
    · have hwhole : ¬2 ^ 64 ≤ k := by omega
      simp only [hfits, hwhole, if_true, and_false, Bool.false_eq_true, false_and, or_self,
        if_false, hkept]
    · have hreal : 2 ^ 64 ≤ k := by omega
      simp only [hfits, hreal, and_self, if_true, or_true, Bool.false_eq_true, if_false,
        closeReal_eq_ok_iff]

/-! ### Exponents -/

/-- Digits are read into a number beyond the limit just if the number is. -/
theorem beyond?_eq_none_iff {ds : List Char} (hds : ∀ d ∈ ds, d.isDigit = true)
    (hrest : Stops Char.isDigit rest) {n : Nat} (hn : n ≤ exponentLimit) :
    beyond? n (ds ++ rest) = none ↔ Nat.ofDigitChars 10 ds n ≤ exponentLimit := by
  induction ds generalizing n with
  | nil =>
    refine iff_of_true ?_ hn
    cases rest with
    | nil => rfl
    | cons c rest =>
      have hc : c.isDigit = false := (stops_cons _).mp hrest
      simp [beyond?, hc]
  | cons d ds ih =>
    rw [List.forall_mem_cons] at hds
    have hstep : 10 * n + (d.toNat - '0'.toNat) = n * 10 + (d.toNat - '0'.toNat) := by
      rw [Nat.mul_comm]
    rw [List.cons_append, beyond?, if_pos hds.1, Nat.ofDigitChars_cons, hstep]
    dsimp only
    split
    · next hlarge =>
      -- the digits that follow make it no smaller
      refine iff_of_false (Option.some_ne_none _) (Nat.not_le.mpr (Nat.lt_of_lt_of_le hlarge ?_))
      rw [Nat.ofDigitChars_eq_ofDigitChars_zero]
      exact Nat.le_add_right_of_le (Nat.le_mul_of_pos_left _ (Nat.pow_pos (by decide)))
    · next hsmall => exact ih hds.2 (Nat.not_lt.mp hsmall)

/-- The number of an exponent with its sign. -/
def signedExponent (down : Bool) (ds : List Char) : Int :=
  if down then -value ds else value ds

/-- **The digits of an exponent** are taken as far as they go. -/
theorem readExponentDigits_append {ds : List Char} (hds : IsDigits ds)
    (hrest : Stops Char.isDigit rest) (down : Bool) :
    readExponentDigits negative significand scale down (ds ++ rest) = .ok (n, cs) ↔
      decimalNumber? negative significand scale (signedExponent down ds) = some n ∧ rest = cs := by
  obtain ⟨hne, hdigits⟩ := hds
  obtain ⟨d, ds', rfl⟩ := List.exists_cons_of_ne_nil hne
  have hd : d.isDigit = true := hdigits d List.mem_cons_self
  have hbeyond := beyond?_eq_none_iff hdigits hrest (Nat.zero_le exponentLimit)
  have habs : (signedExponent down (d :: ds')).natAbs = value (d :: ds') := by
    cases down <;> simp [signedExponent]
  unfold readExponentDigits decimalNumber?
  rw [takeWhile_append_of_stop hdigits hrest, dropWhile_append_of_stop hdigits hrest, habs]
  rw [List.cons_append] at hbeyond ⊢
  simp only [hd, Bool.not_true, Bool.false_eq_true, if_false]
  cases hlimit : beyond? 0 (d :: (ds' ++ rest)) with
  | none =>
    have hsmall : ¬exponentLimit < value (d :: ds') := Nat.not_lt.mpr (hbeyond.mp hlimit)
    have hscale : (if down = true then scale - (value (d :: ds') : Int)
        else scale + value (d :: ds')) = scale + signedExponent down (d :: ds') := by
      cases down <;> rfl
    simp only [hscale, if_neg hsmall, closeReal_eq_ok_iff]
  | some left =>
    have hlarge : exponentLimit < value (d :: ds') := by
      refine Nat.not_le.mp fun hle => ?_
      rw [hbeyond.mpr hle] at hlimit
      cases hlimit
    have hsign : signedExponent down (d :: ds') < 0 ↔ down = true := by
      cases down <;> simp [signedExponent]
      omega
    simp only [if_pos hlarge, hsign]
    by_cases hzero : significand = 0 <;> cases down <;>
      simp [hzero, stopBefore, Prod.ext_iff]

theorem exists_of_readExponentDigits {down : Bool}
    (h : readExponentDigits negative significand scale down cs = .ok (n, rest)) :
    ∃ ds, cs = ds ++ rest ∧ IsDigits ds ∧
      decimalNumber? negative significand scale (signedExponent down ds) = some n := by
  have hsplit := List.takeWhile_append_dropWhile (p := Char.isDigit) (l := cs)
  have hstops : Stops Char.isDigit (cs.dropWhile Char.isDigit) := by
    intro c hc
    have hhead := List.head?_dropWhile_not Char.isDigit cs
    rw [Option.mem_def.mp hc] at hhead
    exact hhead
  have hdigits : IsDigits (cs.takeWhile Char.isDigit) := by
    refine ⟨fun hnone => ?_, fun c hc => List.mem_takeWhile_imp hc⟩
    cases cs with
    | nil => cases h
    | cons c cs =>
      have hc : ¬c.isDigit = true := by
        intro hc
        rw [List.takeWhile_cons_of_pos hc] at hnone
        cases hnone
      simp [readExponentDigits, hc, stopWithin] at h
  rw [← hsplit, readExponentDigits_append hdigits hstops] at h
  exact ⟨_, by rw [← h.2, hsplit], hdigits, h.1⟩

/-- An exponent without a sign. -/
theorem readExponent_of_isDigit {c : Char} (hc : c.isDigit = true) (cs : List Char) :
    readExponent negative significand scale (c :: cs) =
      readExponentDigits negative significand scale false (c :: cs) := by
  unfold readExponent
  split
  · next heq =>
    obtain ⟨rfl, -⟩ := List.cons.inj heq
    exact absurd hc (by decide)
  · next heq =>
    obtain ⟨rfl, -⟩ := List.cons.inj heq
    exact absurd hc (by decide)
  · rfl

theorem exists_of_readExponent (h : readExponent negative significand scale cs = .ok (n, rest))
    {letter : Char} (hletter : IsExponentLetter letter) :
    ∃ es e, cs = es ++ rest ∧ IsExponent (letter :: es) e ∧
      decimalNumber? negative significand scale e = some n := by
  unfold readExponent at h
  split at h
  · obtain ⟨ds, rfl, hdigits, hmeant⟩ := exists_of_readExponentDigits h
    exact ⟨_, _, (List.cons_append ..).symm, .up hletter hdigits, hmeant⟩
  · obtain ⟨ds, rfl, hdigits, hmeant⟩ := exists_of_readExponentDigits h
    exact ⟨_, _, (List.cons_append ..).symm, .down hletter hdigits, hmeant⟩
  · obtain ⟨ds, rfl, hdigits, hmeant⟩ := exists_of_readExponentDigits h
    exact ⟨_, _, rfl, .plain hletter hdigits, hmeant⟩

section
variable {d : Scaled} {close : Reader Number} {es : List Char} {e : Int}

theorem readEnd_letter {letter : Char} (hletter : IsExponentLetter letter) (cs : List Char) :
    readEnd negative d close (letter :: cs) =
      readExponent negative d.coefficient d.exponent cs := by
  rcases hletter with rfl | rfl <;> rfl

/-- **An exponent is read.** -/
theorem IsExponent.readEnd (h : IsExponent es e) (hes : es ≠ []) (hrest : Stops Char.isDigit rest)
    (hmeant : decimalNumber? negative d.coefficient d.exponent e = some n) :
    readEnd negative d close (es ++ rest) = .ok (n, rest) := by
  cases h with
  | none => exact absurd rfl hes
  | @plain letter ds hletter hdigits =>
    obtain ⟨c, ds', rfl⟩ := List.exists_cons_of_ne_nil hdigits.1
    rw [List.cons_append, readEnd_letter hletter, List.cons_append,
      readExponent_of_isDigit (hdigits.2 c List.mem_cons_self), ← List.cons_append]
    exact (readExponentDigits_append hdigits hrest false).mpr ⟨hmeant, rfl⟩
  | up hletter hdigits =>
    rw [List.cons_append, readEnd_letter hletter]
    exact (readExponentDigits_append hdigits hrest false).mpr ⟨hmeant, rfl⟩
  | down hletter hdigits =>
    rw [List.cons_append, readEnd_letter hletter]
    exact (readExponentDigits_append hdigits hrest true).mpr ⟨hmeant, rfl⟩

theorem exists_of_readEnd (h : readEnd negative d close cs = .ok (n, rest)) :
    close cs = .ok (n, rest) ∨ ∃ es e, cs = es ++ rest ∧ es ≠ [] ∧ IsExponent es e ∧
      decimalNumber? negative d.coefficient d.exponent e = some n := by
  unfold readEnd at h
  split at h
  · obtain ⟨es, e, rfl, hexponent, hmeant⟩ := exists_of_readExponent h (Or.inl rfl)
    exact Or.inr ⟨_, e, rfl, List.cons_ne_nil _ _, hexponent, hmeant⟩
  · obtain ⟨es, e, rfl, hexponent, hmeant⟩ := exists_of_readExponent h (Or.inr rfl)
    exact Or.inr ⟨_, e, rfl, List.cons_ne_nil _ _, hexponent, hmeant⟩
  · exact Or.inl h

end

/-! ### Fractions -/

/-- Without an exponent the number is computed as it stands. -/
theorem decimalNumber?_zero : decimalNumber? negative significand scale 0 =
    (Binary64.ofDecimal? negative significand scale).map .real := by
  rw [decimalNumber?, if_neg (by decide), Int.add_zero]

theorem closeReal_eq_ok_iff_decimal : closeReal negative significand scale cs = .ok (n, rest) ↔
    decimalNumber? negative significand scale 0 = some n ∧ cs = rest := by
  rw [closeReal_eq_ok_iff, decimalNumber?_zero]

theorem stops_of_isExponent {es : List Char} {e : Int} (h : IsExponent es e) :
    Stops Char.isDigit es := by
  have hletter {c : Char} (hc : IsExponentLetter c) (cs : List Char) :
      Stops Char.isDigit (c :: cs) := by
    rcases hc with rfl | rfl <;> exact (stops_cons _).mpr rfl
  cases h with
  | none => exact stops_nil _
  | plain hbegins | up hbegins | down hbegins => exact hletter hbegins _

/-- A fraction is read, with the exponent behind it. -/
theorem readFraction_append {whole ds es : List Char} {e : Int} (hds : IsDigits ds)
    (hes : IsExponent es e)
    (hmeant : decimalNumber? negative (keptDecimal whole ds).coefficient
      (keptDecimal whole ds).exponent e = some n) :
    readFraction negative whole (ds ++ es) = .ok (n, []) := by
  have hstops := stops_of_isExponent hes
  rw [readFraction_eq, takeWhile_append_of_stop hds.2 hstops, dropWhile_append_of_stop hds.2 hstops,
    if_neg (by rw [List.isEmpty_iff]; exact hds.1)]
  by_cases hnone : es = []
  · subst hnone
    cases hes
    exact closeReal_eq_ok_iff_decimal.mpr ⟨hmeant, rfl⟩
  · rw [← List.append_nil es]
    exact hes.readEnd hnone (stops_nil _) hmeant

theorem exists_of_readFraction {whole : List Char}
    (h : readFraction negative whole cs = .ok (n, rest)) :
    ∃ ds es e, cs = ds ++ (es ++ rest) ∧ IsDigits ds ∧ IsExponent es e ∧
      decimalNumber? negative (keptDecimal whole ds).coefficient
        (keptDecimal whole ds).exponent e = some n := by
  have hsplit := List.takeWhile_append_dropWhile (p := Char.isDigit) (l := cs)
  rw [readFraction_eq] at h
  split at h
  · split at h <;> cases h
  · next hsome =>
    have hdigits : IsDigits (cs.takeWhile Char.isDigit) :=
      ⟨fun hnone => hsome (List.isEmpty_iff.mpr hnone), fun c hc => List.mem_takeWhile_imp hc⟩
    rcases exists_of_readEnd h with hclose | ⟨es, e, hes, -, hexponent, hmeant⟩
    · obtain ⟨hmeant, hrest⟩ := closeReal_eq_ok_iff_decimal.mp hclose
      refine ⟨_, [], 0, ?_, hdigits, .none, hmeant⟩
      rw [List.nil_append, ← hrest, hsplit]
    · refine ⟨_, es, e, ?_, hdigits, hexponent, hmeant⟩
      rw [← hes, hsplit]

/-! ### Numbers -/

/-- The whole digits are taken as far as they go. -/
theorem readNumber_append {ds : List Char} (hds : IsWhole ds) (hrest : Stops Char.isDigit rest) :
    readNumber negative (ds ++ rest) = readAfterWhole negative ds rest := by
  obtain ⟨⟨hne, hdigits⟩, hzero⟩ := hds
  obtain ⟨d, ds', rfl⟩ := List.exists_cons_of_ne_nil hne
  by_cases hd : d = '0'
  · subst hd
    obtain ⟨-, rfl⟩ := List.cons.inj (hzero rfl)
    exact readNumber_zero negative hrest
  · have htake := takeWhile_append_of_stop hdigits hrest
    have hdrop := dropWhile_append_of_stop hdigits hrest
    rw [List.cons_append] at htake hdrop ⊢
    rw [readNumber_digit negative hd (hdigits d List.mem_cons_self), htake, hdrop]

/-- **Every number is read.** -/
theorem SpellsNumber.readNumber (h : SpellsNumber negative cs n)
    (hrest : Stops isNumberChar rest) : readNumber negative (cs ++ rest) = .ok (n, rest) := by
  refine isLocal_readNumber negative cs n ?_ rest hrest
  cases h with
  | whole hdigits hmeant =>
    rw [← List.append_nil cs, readNumber_append hdigits (stops_nil _)]
    exact closeInteger_eq_ok_iff.mpr ⟨hmeant, rfl⟩
  | @decimal ds fs fraction es e _ hdigits hfraction hexponent hmore hmeant =>
    cases hfraction with
    | none =>
      rw [List.nil_append] at hmore ⊢
      obtain ⟨c, es', rfl⟩ := List.exists_cons_of_ne_nil hmore
      rw [readNumber_append hdigits (stops_of_isExponent hexponent)]
      have hpoint : c ≠ '.' := by
        rintro rfl
        cases hexponent with
        | plain hletter | up hletter | down hletter => simp [IsExponentLetter] at hletter
      rw [readAfterWhole_eq negative ds hpoint]
      rw [← List.append_nil (c :: es')]
      exact hexponent.readEnd hmore (stops_nil _) hmeant
    | @some fraction hfraction =>
      rw [List.cons_append, readNumber_append hdigits ((stops_cons _).mpr rfl)]
      exact readFraction_append hfraction hexponent hmeant

/-- What may follow whole digits goes on a number. -/
theorem exists_of_readAfterWhole {ds : List Char} (hds : IsWhole ds)
    (h : readAfterWhole negative ds cs = .ok (n, rest)) :
    ∃ tail, cs = tail ++ rest ∧ SpellsNumber negative (ds ++ tail) n := by
  have hwhole (h : closeInteger negative ds cs = .ok (n, rest)) :
      ∃ tail, cs = tail ++ rest ∧ SpellsNumber negative (ds ++ tail) n := by
    obtain ⟨hmeant, hrest⟩ := closeInteger_eq_ok_iff.mp h
    refine ⟨[], hrest, ?_⟩
    rw [List.append_nil]
    exact .whole hds hmeant
  cases cs with
  | nil => exact hwhole h
  | cons c cs =>
    by_cases hpoint : c = '.'
    · subst hpoint
      obtain ⟨fraction, es, e, rfl, hfraction, hexponent, hmeant⟩ := exists_of_readFraction h
      refine ⟨'.' :: fraction ++ es, ?_, .decimal hds (.some hfraction) hexponent
        (List.cons_ne_nil _ _) hmeant⟩
      rw [List.append_assoc, List.cons_append]
    · rw [readAfterWhole_eq negative ds hpoint] at h
      rcases exists_of_readEnd h with hclose | ⟨es, e, hes, hne, hexponent, hmeant⟩
      · exact hwhole hclose
      · exact ⟨es, hes, .decimal hds .none hexponent hne hmeant⟩

/-- **Only numbers are read.** -/
theorem exists_of_readNumber (h : readNumber negative cs = .ok (n, rest)) :
    ∃ mid, cs = mid ++ rest ∧ SpellsNumber negative mid n := by
  cases cs with
  | nil => cases h
  | cons c cs =>
    by_cases hzero : c = '0'
    · subst hzero
      have hstops : Stops Char.isDigit cs := by
        intro d hd
        obtain ⟨tail, rfl⟩ := List.head?_eq_some_iff.mp hd
        by_contra hdigit
        rw [Bool.not_eq_false] at hdigit
        simp [readNumber, hdigit, stopWithin] at h
      rw [readNumber_zero negative hstops] at h
      obtain ⟨tail, rfl, hspells⟩ := exists_of_readAfterWhole isWhole_zero h
      exact ⟨_, rfl, hspells⟩
    · by_cases hc : c.isDigit = true
      · rw [readNumber_digit negative hzero hc] at h
        have hsplit := List.takeWhile_append_dropWhile (p := Char.isDigit) (l := c :: cs)
        have hwhole : IsWhole ((c :: cs).takeWhile Char.isDigit) := by
          rw [List.takeWhile_cons_of_pos hc]
          refine ⟨⟨List.cons_ne_nil _ _, fun d hd => ?_⟩, fun hhead => ?_⟩
          · rcases List.mem_cons.mp hd with rfl | hd
            · exact hc
            · exact List.mem_takeWhile_imp hd
          · exact absurd (Option.some.inj hhead) hzero
        obtain ⟨tail, htail, hspells⟩ := exists_of_readAfterWhole hwhole h
        exact ⟨_, by rw [List.append_assoc, ← htail, hsplit], hspells⟩
      · simp [readNumber, hzero, hc, stopWithin] at h

end BadgeEntry.Json
