import BadgeEntry.Proofs.Json.Grammar
import BadgeEntry.Proofs.Json.Kept
import BadgeEntry.Proofs.Json.Texts

/-!
# Texts are read exactly

The reader of texts accepts what the grammar allows between two quotes and nothing else, and
reads it as the characters that it stands for.

## Main results

* `hexFour_eq_ok_iff`, `escape_eq_ok_iff` — four hexadecimal digits, and escapes.
* `readText_eq_ok_iff` — **texts are read exactly.**
-/

namespace BadgeEntry.Json

variable {cs rest : List Char}

/-! ### Numbers of characters -/

/-- Each character has a byte. -/
theorem length_le_size (cs : List Char) : cs.length ≤ Utf8.size cs := by
  suffices hfold : ∀ n, n + cs.length ≤ cs.foldl (fun n c => n + c.utf8Size) n by
    simpa [Utf8.size] using hfold 0
  induction cs with
  | nil => exact fun n => Nat.le_refl n
  | cons c cs ih =>
    intro n
    have hpos := c.utf8Size_pos
    have hrest := ih (n + c.utf8Size)
    rw [List.foldl_cons, List.length_cons]
    omega

theorem hexFour_eq_ok_iff {n : Nat} :
    hexFour cs = .ok n ↔ ∃ ds tail, cs = ds ++ tail ∧ IsHex ds n := by
  constructor
  · intro h
    unfold hexFour at h
    split at h
    · cases h
    · dsimp only at h
      split at h
      · next number hnumber =>
        cases h
        split at hnumber
        · next a b c d tail _ =>
          simp only [Option.bind_eq_bind, Option.bind_eq_some_iff, Option.pure_def,
            Option.some.injEq] at hnumber
          obtain ⟨i, hi, j, hj, k, hk, l, hl, hvalue⟩ := hnumber
          have hnum : n = ((i * 16 + j) * 16 + k) * 16 + l := by omega
          rw [hnum]
          exact ⟨[a, b, c, d], tail, rfl, .four hi hj hk hl⟩
        · cases hnumber
      · cases h
  · rintro ⟨_, tail, rfl, hex⟩
    cases hex with
    | @four a b c d i j k l hi hj hk hl =>
      have hsize : ¬Utf8.size [a, b, c, d] < 4 := Nat.not_lt.mpr (length_le_size [a, b, c, d])
      have hvalue : (i * 16 + j) * 256 + k * 16 + l = ((i * 16 + j) * 16 + k) * 16 + l := by omega
      unfold hexFour
      simp only [List.cons_append, List.nil_append, List.take, if_neg hsize, hi, hj, hk, hl,
        Option.bind_eq_bind, Option.bind_some, Option.pure_def, hvalue]

theorem IsHex.length_eq {ds : List Char} {n : Nat} (h : IsHex ds n) : ds.length = 4 := by
  cases h
  rfl

/-! ### Escapes -/

theorem exists_of_lowEscape {high taken : Nat} {c : Char}
    (h : lowEscape high cs = .ok (c, taken)) : ∃ es tail low, cs = '\\' :: 'u' :: (es ++ tail) ∧
      IsHex es low ∧ isLowSurrogate low = true ∧ taken = 11 ∧
        c = Char.ofNat (0x10000 + (high - 0xD800) * 0x400 + (low - 0xDC00)) := by
  unfold lowEscape at h
  split at h
  · cases h
  · cases h
  · obtain ⟨low, hhex, h⟩ := exists_of_bind_eq_ok h
    obtain ⟨es, tail, rfl, hes⟩ := hexFour_eq_ok_iff.mp hhex
    split at h
    · next hlow =>
      obtain ⟨hc, htaken⟩ := Prod.mk.inj (Except.ok.inj h)
      exact ⟨es, tail, low, rfl, hes, hlow, htaken.symm, hc.symm⟩
    · cases h
  · cases h
  · cases h

theorem lowEscape_append {es : List Char} {low : Nat} (h : IsHex es low)
    (hlow : isLowSurrogate low = true) (high : Nat) (tail : List Char) :
    lowEscape high ('\\' :: 'u' :: (es ++ tail)) =
      .ok (Char.ofNat (0x10000 + (high - 0xD800) * 0x400 + (low - 0xDC00)), 11) := by
  have hopen (cs : List Char) : lowEscape high ('\\' :: 'u' :: cs) = (do
      let low ← hexFour cs
      if isLowSurrogate low then
        return (Char.ofNat (0x10000 + (high - 0xD800) * 0x400 + (low - 0xDC00)), 11)
      else stopBefore .loneSurrogate (cs.drop 4)) := rfl
  have hfour : hexFour (es ++ tail) = .ok low := hexFour_eq_ok_iff.mpr ⟨es, tail, rfl, h⟩
  rw [hopen, hfour]
  change (if isLowSurrogate low = true then _ else _) = _
  rw [hlow]
  rfl

/-- What is read behind the letter of an escape by number. -/
theorem exists_of_numberEscape {c : Char} {taken : Nat} (h : numberEscape cs = .ok (c, taken)) :
    ∃ es tail, 'u' :: cs = es ++ tail ∧ SpellsEscape es c ∧ es.length = taken := by
  obtain ⟨n, hhex, h⟩ := exists_of_bind_eq_ok h
  obtain ⟨ds, tail, rfl, hds⟩ := hexFour_eq_ok_iff.mp hhex
  split at h
  · cases h
  · next hlow =>
    rw [Bool.not_eq_true] at hlow
    split at h
    · next hhigh =>
      rw [← hds.length_eq, List.drop_left] at h
      obtain ⟨es, tail, low, rfl, hes, hsecond, htaken, hc⟩ := exists_of_lowEscape h
      rw [hc, htaken]
      refine ⟨_, tail, ?_, .pair hds hes hhigh hsecond, ?_⟩
      · simp
      · simp [hds.length_eq, hes.length_eq]
    · next hhigh =>
      rw [Bool.not_eq_true] at hhigh
      cases h
      exact ⟨_, tail, rfl, .number hds hhigh hlow, by simp [hds.length_eq]⟩

/-- The number of a character. -/
theorem numberEscape_append {ds : List Char} {n : Nat} (h : IsHex ds n)
    (hhigh : isHighSurrogate n = false) (hlow : isLowSurrogate n = false) (tail : List Char) :
    numberEscape (ds ++ tail) = .ok (Char.ofNat n, 5) := by
  have hfour : hexFour (ds ++ tail) = .ok n := hexFour_eq_ok_iff.mpr ⟨ds, tail, rfl, h⟩
  unfold numberEscape
  rw [hfour]
  change (if isLowSurrogate n = true then _ else if isHighSurrogate n = true then _ else _) = _
  rw [hhigh, hlow]
  rfl

theorem isLowSurrogate_of_isHighSurrogate {n : Nat} (h : isHighSurrogate n = true) :
    isLowSurrogate n = false := by
  simp only [isHighSurrogate, Bool.and_eq_true, decide_eq_true_eq] at h
  rw [isLowSurrogate, Bool.and_eq_false_iff, decide_eq_false_iff_not]
  omega

/-- The number of the first half of a pair: the second half decides. -/
theorem numberEscape_append_high {ds : List Char} {high : Nat} (h : IsHex ds high)
    (hhigh : isHighSurrogate high = true) (tail : List Char) :
    numberEscape (ds ++ tail) = lowEscape high tail := by
  have hfour : hexFour (ds ++ tail) = .ok high := hexFour_eq_ok_iff.mpr ⟨ds, tail, rfl, h⟩
  unfold numberEscape
  rw [hfour]
  change (if isLowSurrogate high = true then _
    else if isHighSurrogate high = true then _ else _) = _
  rw [isLowSurrogate_of_isHighSurrogate hhigh, hhigh, ← h.length_eq, List.drop_left]
  rfl

theorem exists_of_escape {c : Char} {taken : Nat} (h : escape cs = .ok (c, taken)) :
    ∃ es tail, cs = es ++ tail ∧ SpellsEscape es c ∧ es.length = taken := by
  have hshort {letter meant : Char} {tail : List Char} (hlisted : (letter, meant) ∈ escapeLetters)
      (h : (Except.ok (meant, 1) : Except Stop (Char × Nat)) = .ok (c, taken)) :
      ∃ es rest, letter :: tail = es ++ rest ∧ SpellsEscape es c ∧ es.length = taken := by
    cases h
    exact ⟨[letter], tail, rfl, .short hlisted, rfl⟩
  unfold escape at h
  split at h
  · cases h
  · exact hshort (by decide) h
  · exact hshort (by decide) h
  · exact hshort (by decide) h
  · exact hshort (by decide) h
  · exact hshort (by decide) h
  · exact hshort (by decide) h
  · exact hshort (by decide) h
  · exact hshort (by decide) h
  · exact exists_of_numberEscape h
  · cases h

theorem SpellsEscape.escape_append {es : List Char} {c : Char} (h : SpellsEscape es c)
    (tail : List Char) : escape (es ++ tail) = .ok (c, es.length) := by
  cases h with
  | short hlisted =>
    simp only [escapeLetters, List.mem_cons, Prod.mk.injEq, List.not_mem_nil, or_false] at hlisted
    rcases hlisted with ⟨rfl, rfl⟩ | ⟨rfl, rfl⟩ | ⟨rfl, rfl⟩ | ⟨rfl, rfl⟩ | ⟨rfl, rfl⟩ |
      ⟨rfl, rfl⟩ | ⟨rfl, rfl⟩ | ⟨rfl, rfl⟩ <;> rfl
  | @number ds n hex notHigh notLow =>
    rw [List.length_cons, hex.length_eq]
    exact numberEscape_append hex notHigh notLow tail
  | @pair ds es high low first second isHigh isLow =>
    have hsplit : ds ++ '\\' :: 'u' :: es ++ tail = ds ++ ('\\' :: 'u' :: (es ++ tail)) := by simp
    change numberEscape (ds ++ '\\' :: 'u' :: es ++ tail) = _
    rw [hsplit, numberEscape_append_high first isHigh, lowEscape_append second isLow]
    simp [first.length_eq, second.length_eq]

/-- **Escapes are read exactly.** -/
theorem escape_eq_ok_iff {c : Char} {taken : Nat} : escape cs = .ok (c, taken) ↔
    ∃ es tail, cs = es ++ tail ∧ SpellsEscape es c ∧ es.length = taken := by
  refine ⟨exists_of_escape, ?_⟩
  rintro ⟨es, tail, rfl, hspells, rfl⟩
  exact hspells.escape_append tail

/-! ### Texts -/

/-- An escape in front of a text. -/
theorem readTextFrom_escape_append {es : List Char} {c : Char} (h : SpellsEscape es c)
    (cs : List Char) :
    readTextFrom 0 ('\\' :: (es ++ cs)) = pushChar c (readTextFrom 0 cs) := by
  rw [readTextFrom_escape (escape_eq_ok_iff.mpr ⟨es, cs, rfl, h, rfl⟩), readTextFrom_skip]

theorem pushChar_eq_ok_iff {c : Char} {result : Except Stop (List Char × List Char)}
    {chars : List Char} : pushChar c result = .ok (chars, rest) ↔
      ∃ others, chars = c :: others ∧ result = .ok (others, rest) := by
  cases result with
  | error stop => exact iff_of_false nofun nofun
  | ok found =>
    obtain ⟨others, tail⟩ := found
    simp only [pushChar, Except.map, Except.ok.injEq, Prod.mk.injEq]
    constructor
    · rintro ⟨rfl, rfl⟩
      exact ⟨others, rfl, rfl, rfl⟩
    · rintro ⟨_, rfl, rfl, rfl⟩
      exact ⟨rfl, rfl⟩

theorem exists_of_readTextFrom {chars : List Char} (h : readTextFrom 0 cs = .ok (chars, rest)) :
    ∃ written, cs = written ++ '"' :: rest ∧ SpellsText written chars := by
  -- on the length of what is left, since an escape takes several characters
  induction hlength : cs.length using Nat.strongRecOn generalizing cs chars with
  | ind length ih =>
    subst hlength
    cases cs with
    | nil => cases h
    | cons c cs =>
      by_cases hquote : c = '"'
      · subst hquote
        cases h
        exact ⟨[], rfl, .nil⟩
      · by_cases hescape : c = '\\'
        · subst hescape
          cases hread : escape cs with
          | error stop =>
            simp only [readTextFrom, if_neg hquote, if_pos, hread] at h
            cases h
          | ok found =>
            obtain ⟨meant, taken⟩ := found
            obtain ⟨es, tail, rfl, hspells, rfl⟩ := escape_eq_ok_iff.mp hread
            rw [readTextFrom_escape_append hspells, pushChar_eq_ok_iff] at h
            obtain ⟨others, rfl, h⟩ := h
            have hshorter : tail.length < ('\\' :: (es ++ tail)).length := by
              rw [List.length_cons, List.length_append]
              omega
            obtain ⟨written, rfl, htext⟩ := ih _ hshorter h rfl
            exact ⟨_, by simp, .escape hspells htext⟩
        · by_cases hcontrol : c.toNat < 0x20
          · simp only [readTextFrom, if_neg hquote, if_neg hescape, if_pos hcontrol] at h
            cases h
          · have hplain := Nat.not_lt.mp hcontrol
            rw [readTextFrom_cons hquote hescape hplain, pushChar_eq_ok_iff] at h
            obtain ⟨others, rfl, h⟩ := h
            obtain ⟨written, rfl, htext⟩ := ih _ (Nat.lt_succ_self _) h rfl
            exact ⟨_, rfl, .plain hquote hescape hplain htext⟩

theorem SpellsText.readTextFrom {written chars : List Char} (h : SpellsText written chars)
    (rest : List Char) : Json.readTextFrom 0 (written ++ '"' :: rest) = .ok (chars, rest) := by
  induction h with
  | nil => rfl
  | plain notQuote notEscape notControl _ ih =>
    rw [List.cons_append, readTextFrom_cons notQuote notEscape notControl, ih]
    rfl
  | escape begins _ ih =>
    rw [List.cons_append, List.append_assoc, readTextFrom_escape_append begins, ih]
    rfl

/-- **Texts are read exactly**, up to their closing quotes. -/
theorem readText_eq_ok_iff {s : String} : readText cs = .ok (s, rest) ↔
    ∃ written meant, cs = written ++ '"' :: rest ∧ SpellsText written meant ∧
      s = String.ofList meant := by
  constructor
  · intro h
    obtain ⟨⟨chars, tail⟩, hread, h⟩ := exists_of_bind_eq_ok h
    cases h
    obtain ⟨written, hcs, htext⟩ := exists_of_readTextFrom hread
    exact ⟨written, chars, hcs, htext, rfl⟩
  · rintro ⟨written, meant, rfl, htext, rfl⟩
    unfold readText
    rw [htext.readTextFrom]
    rfl

end BadgeEntry.Json
