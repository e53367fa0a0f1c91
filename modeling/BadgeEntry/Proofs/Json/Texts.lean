import BadgeEntry.Json.Scalar
import BadgeEntry.Json.Writer
import Mathlib.Tactic.Common

/-!
# Texts are read back

Each character of a text is written in a way from which it is read back, whatever follows:
as itself, by a short escape, or, below the space, by its number.  So a text is read back
up to its closing quote.

## Main results

* `readTextFrom_writeChar` — a character is read back.
* `readText_writeText` — **a text is read back.**
-/

namespace BadgeEntry.Json

/-- A character in front of what is read. -/
def pushChar (c : Char) (result : Except Stop (List Char × List Char)) :
    Except Stop (List Char × List Char) :=
  result.map fun found => (c :: found.1, found.2)

/-- A character that needs no escape. -/
theorem readTextFrom_cons {c : Char} (hquote : c ≠ '"') (hescape : c ≠ '\\')
    (hcontrol : 0x20 ≤ c.toNat) (cs : List Char) :
    readTextFrom 0 (c :: cs) = pushChar c (readTextFrom 0 cs) := by
  rw [readTextFrom]
  simp only [if_neg hquote, if_neg hescape, if_neg (Nat.not_lt.mpr hcontrol)]
  cases readTextFrom 0 cs <;> rfl

/-- An escape, and what follows it. -/
theorem readTextFrom_escape {cs : List Char} {c : Char} {taken : Nat}
    (h : escape cs = .ok (c, taken)) :
    readTextFrom 0 ('\\' :: cs) = pushChar c (readTextFrom taken cs) := by
  rw [readTextFrom]
  simp only [if_neg (by decide : '\\' ≠ '"'), if_pos, h]
  change (readTextFrom taken cs).bind _ = _
  cases readTextFrom taken cs <;> rfl

/-- The characters of an escape are passed over. -/
theorem readTextFrom_skip (taken cs : List Char) :
    readTextFrom taken.length (taken ++ cs) = readTextFrom 0 cs := by
  induction taken with
  | nil => rfl
  | cons c taken ih =>
    rw [List.cons_append, List.length_cons, readTextFrom]
    exact ih

/-! ### Escapes by number -/

theorem hexDigit?_digitChar {d : Nat} (h : d < 16) : hexDigit? d.digitChar = some d := by
  have hall : ∀ d : Fin 16, hexDigit? d.val.digitChar = some d.val := by decide
  exact hall ⟨d, h⟩

theorem size_digitChar {d : Nat} (h : d < 16) : d.digitChar.utf8Size = 1 := by
  have hall : ∀ d : Fin 16, d.val.digitChar.utf8Size = 1 := by decide
  exact hall ⟨d, h⟩

/-- Two digits after two zeros. -/
theorem hexFour_digitChar {n : Nat} (h : n < 0x20) (cs : List Char) :
    hexFour ('0' :: '0' :: Nat.digitChar (n / 16) :: Nat.digitChar (n % 16) :: cs) = .ok n := by
  have hhigh : n / 16 < 16 := by omega
  have hlow : n % 16 < 16 := by omega
  have hzero : hexDigit? '0' = some 0 := rfl
  have hsize : ¬Utf8.size ['0', '0', Nat.digitChar (n / 16), Nat.digitChar (n % 16)] < 4 := by
    have hone : Char.utf8Size '0' = 1 := rfl
    simp [Utf8.size, size_digitChar hhigh, size_digitChar hlow, hone]
  have hvalue : (0 * 16 + 0) * 256 + n / 16 * 16 + n % 16 = n := by omega
  unfold hexFour
  simp only [List.take, if_neg hsize, hzero, hexDigit?_digitChar hhigh, hexDigit?_digitChar hlow,
    Option.bind_eq_bind, Option.bind_some, Option.pure_def, hvalue]

theorem escape_number {n : Nat} (h : n < 0x20) (cs : List Char) :
    escape ('u' :: '0' :: '0' :: Nat.digitChar (n / 16) :: Nat.digitChar (n % 16) :: cs) =
      .ok (Char.ofNat n, 5) := by
  have hlow : isLowSurrogate n = false := by
    rw [isLowSurrogate, Bool.and_eq_false_iff, decide_eq_false_iff_not]
    omega
  have hhigh : isHighSurrogate n = false := by
    rw [isHighSurrogate, Bool.and_eq_false_iff, decide_eq_false_iff_not]
    omega
  change numberEscape _ = _
  unfold numberEscape
  rw [hexFour_digitChar h]
  change (if isLowSurrogate n = true then _ else if isHighSurrogate n = true then _ else _) = _
  rw [hlow, hhigh]
  rfl

/-! ### Texts -/

/-- The characters with short escapes. -/
def shortEscapes : List Char :=
  ['"', '\\', '\x08', '\x0c', '\n', '\r', '\t']

theorem readTextFrom_shortEscape {c : Char} (h : c ∈ shortEscapes) (cs : List Char) :
    readTextFrom 0 (writeChar c ++ cs) = pushChar c (readTextFrom 0 cs) := by
  have hshort {letter c : Char} (h : escape (letter :: cs) = .ok (c, 1)) :
      readTextFrom 0 ('\\' :: letter :: cs) = pushChar c (readTextFrom 0 cs) := by
    rw [readTextFrom_escape h]
    exact congrArg _ (readTextFrom_skip [letter] cs)
  simp only [shortEscapes, List.mem_cons, List.not_mem_nil, or_false] at h
  rcases h with rfl | rfl | rfl | rfl | rfl | rfl | rfl <;> exact hshort rfl

theorem writeChar_of_notMem {c : Char} (h : c ∉ shortEscapes) :
    writeChar c = if c.toNat < 0x20 then
      ['\\', 'u', '0', '0', Nat.digitChar (c.toNat / 16), Nat.digitChar (c.toNat % 16)]
    else [c] := by
  simp only [shortEscapes, List.mem_cons, List.not_mem_nil, or_false, not_or] at h
  obtain ⟨hquote, hescape, hback, hfeed, hline, hreturn, htab⟩ := h
  unfold writeChar
  rw [if_neg hquote, if_neg hescape, if_neg hback, if_neg hfeed, if_neg hline, if_neg hreturn,
    if_neg htab]

/-- **A character is read back**, whatever follows. -/
theorem readTextFrom_writeChar (c : Char) (cs : List Char) :
    readTextFrom 0 (writeChar c ++ cs) = pushChar c (readTextFrom 0 cs) := by
  by_cases hshort : c ∈ shortEscapes
  · exact readTextFrom_shortEscape hshort cs
  · rw [writeChar_of_notMem hshort]
    split
    · next hsmall =>
      have hescape := escape_number hsmall cs
      rw [Char.ofNat_toNat] at hescape
      exact (readTextFrom_escape hescape).trans
        (congrArg _ (readTextFrom_skip ['u', '0', '0', _, _] cs))
    · next hlarge =>
      have hquote : c ≠ '"' := by
        rintro rfl
        exact hshort (by decide)
      have hescape : c ≠ '\\' := by
        rintro rfl
        exact hshort (by decide)
      exact readTextFrom_cons hquote hescape (Nat.not_lt.mp hlarge) cs

theorem readTextFrom_flatMap (cs rest : List Char) :
    readTextFrom 0 (cs.flatMap writeChar ++ '"' :: rest) = .ok (cs, rest) := by
  induction cs with
  | nil => rfl
  | cons c cs ih =>
    rw [List.flatMap_cons, List.append_assoc, readTextFrom_writeChar, ih]
    rfl

/-- **A text is read back**, up to its closing quote. -/
theorem readText_writeText (s : String) (rest : List Char) :
    readText (s.toList.flatMap writeChar ++ '"' :: rest) = .ok (s, rest) := by
  unfold readText
  rw [readTextFrom_flatMap]
  exact congrArg (fun t => Except.ok (t, rest)) (String.ofList_toList)

end BadgeEntry.Json
