import BadgeEntry.Json.Reader
import BadgeEntry.Json.Writer
import BadgeEntry.Proofs.Text.Spans

/-!
# Numbers are read back

A number ends before the first character with which it cannot go on, and what is behind it
is not looked at.  So a number that is read from its text alone is read from a longer text
as well.  Whole numbers of at most sixty-four bits are read from their texts.

## Main definitions

* `isNumberChar` — the characters with which a number may go on.
* `Number.ReadsBack` — a number that is read from its text.
* `Number.IsKept` — whole numbers that are kept as such, and all real numbers.

## Main results

* `readValueWith_text` — **a number that reads back is read in front of anything else.**
* `readsBack_integer` — **whole numbers read back.**
* `keeps_readNumber` — a number that is read is kept.
-/

namespace BadgeEntry.Json

open Text Decimal

/-- Whether a number may go on with `c`. -/
def isNumberChar (c : Char) : Bool :=
  c.isDigit || c == '.' || c == 'e' || c == 'E'

/-! ### What is behind a number -/

/-- A reader of the end of a number that does not look behind it. -/
def IsLocal (f : Reader Number) : Prop :=
  ∀ cs n, f cs = .ok (n, []) → ∀ rest, Stops isNumberChar rest → f (cs ++ rest) = .ok (n, rest)

section
variable {rest : List Char} (h : Stops isNumberChar rest)
include h

theorem stops_isDigit : Stops Char.isDigit rest := by
  intro c hc
  have hchar := h c hc
  simp only [isNumberChar, Bool.or_eq_false_iff] at hchar
  exact hchar.1.1.1

theorem ne_of_stops {c : Char} {cs : List Char} (hrest : rest = c :: cs) :
    c ≠ '.' ∧ c ≠ 'e' ∧ c ≠ 'E' := by
  rw [hrest] at h
  have hchar := (stops_cons _).mp h
  simp only [isNumberChar, Bool.or_eq_false_iff, beq_eq_false_iff_ne] at hchar
  exact ⟨hchar.1.1.2, hchar.1.2, hchar.2⟩

end

theorem isLocal_closeReal (negative : Bool) (significand : Nat) (scale : Int) :
    IsLocal (closeReal negative significand scale) := by
  intro cs n hread rest _
  unfold closeReal at hread ⊢
  split at hread
  · cases hread
    rfl
  · cases hread

theorem isLocal_ok (n : Number) : IsLocal fun cs => .ok (n, cs) := by
  intro cs m hread rest _
  cases hread
  rfl

theorem isLocal_ite {p : Prop} [Decidable p] {f g : Reader Number} (hf : IsLocal f)
    (hg : IsLocal g) : IsLocal fun cs => if p then f cs else g cs := by
  by_cases hp : p
  · simpa only [if_pos hp] using hf
  · simpa only [if_neg hp] using hg

/-- A number of either sign is whole if it fits, and real if it does not. -/
theorem isLocal_closeInteger (negative : Bool) (whole : List Char) :
    IsLocal (closeInteger negative whole) :=
  isLocal_ite (isLocal_ite (isLocal_ok _) (isLocal_closeReal _ _ _))
    (isLocal_ite (isLocal_ok _) (isLocal_closeReal _ _ _))

/-- What follows too large an exponent is what is behind it. -/
theorem beyond?_append {cs rest : List Char} (hcs : ∀ c ∈ cs, c.isDigit = true)
    (hrest : Stops Char.isDigit rest) (n : Nat) :
    beyond? n (cs ++ rest) = (beyond? n cs).map (· ++ rest) := by
  induction cs generalizing n with
  | nil =>
    cases rest with
    | nil => rfl
    | cons c rest =>
      have hc : c.isDigit = false := (stops_cons _).mp hrest
      simp [beyond?, hc]
  | cons c cs ih =>
    rw [List.forall_mem_cons] at hcs
    rw [List.cons_append, beyond?, beyond?, if_pos hcs.1, if_pos hcs.1]
    dsimp only
    split
    · rfl
    · exact ih hcs.2 _

/-- Digits up to the end. -/
theorem all_isDigit_of_dropWhile {cs : List Char} (h : cs.dropWhile Char.isDigit = []) :
    ∀ c ∈ cs, c.isDigit = true :=
  List.dropWhile_eq_nil_iff.mp h

theorem isLocal_readExponentDigits (negative : Bool) (significand : Nat) (scale : Int)
    (down : Bool) : IsLocal (readExponentDigits negative significand scale down) := by
  intro cs n hread rest hrest
  have hstops := stops_isDigit hrest
  cases cs with
  | nil => cases hread
  | cons c cs =>
    unfold readExponentDigits at hread ⊢
    rw [List.cons_append]
    dsimp only at hread ⊢
    split at hread
    · cases hread
    · next hc =>
      rw [if_neg hc, ← List.cons_append]
      split at hread
      · next left hbeyond =>
        -- the exponent is out of reach, and the number is zero whatever it is
        split at hread
        · cases hread
        · next hzero =>
          obtain ⟨rfl, hend⟩ := Prod.mk.inj (Except.ok.inj hread)
          have hdigits := all_isDigit_of_dropWhile hend
          rw [beyond?_append hdigits hstops, hbeyond, Option.map_some]
          dsimp only
          rw [if_neg hzero, dropWhile_append_of_stop hdigits hstops]
      · next hbeyond =>
        have hend : (c :: cs).dropWhile Char.isDigit = [] := by
          unfold closeReal at hread
          split at hread
          · exact (Prod.mk.inj (Except.ok.inj hread)).2
          · cases hread
        have hdigits := all_isDigit_of_dropWhile hend
        have htake := List.takeWhile_eq_self_iff.mpr hdigits
        rw [hend, htake] at hread
        rw [beyond?_append hdigits hstops, hbeyond, Option.map_none]
        dsimp only
        rw [takeWhile_append_of_stop hdigits hstops, dropWhile_append_of_stop hdigits hstops]
        exact isLocal_closeReal _ _ _ [] n hread rest hrest

theorem isLocal_readExponent (negative : Bool) (significand : Nat) (scale : Int) :
    IsLocal (readExponent negative significand scale) := by
  intro cs n hread rest hrest
  have hdigits (down : Bool) := isLocal_readExponentDigits negative significand scale down
  cases cs with
  | nil => cases hread
  | cons c cs =>
    by_cases hplus : c = '+'
    · rw [hplus] at hread ⊢
      exact hdigits false cs n hread rest hrest
    · by_cases hminus : c = '-'
      · rw [hminus] at hread ⊢
        exact hdigits true cs n hread rest hrest
      · have hnosign (tail : List Char) : readExponent negative significand scale (c :: tail) =
            readExponentDigits negative significand scale false (c :: tail) := by
          unfold readExponent
          split
          · next heq => exact absurd (List.cons.inj heq).1 hplus
          · next heq => exact absurd (List.cons.inj heq).1 hminus
          · rfl
        rw [hnosign] at hread
        rw [List.cons_append, hnosign]
        exact hdigits false (c :: cs) n hread rest hrest

/-- What may follow the digits of a number: an exponent, or the end of the number. -/
def readEnd (negative : Bool) (d : Scaled) (close : Reader Number) : Reader Number
  | 'e' :: tail => readExponent negative d.coefficient d.exponent tail
  | 'E' :: tail => readExponent negative d.coefficient d.exponent tail
  | cs => close cs

section
variable {negative : Bool} {d : Scaled} {close : Reader Number}

theorem readEnd_of_ne {c : Char} (he : c ≠ 'e') (hE : c ≠ 'E') (cs : List Char) :
    readEnd negative d close (c :: cs) = close (c :: cs) := by
  unfold readEnd
  split
  · next heq => exact absurd (List.cons.inj heq).1 he
  · next heq => exact absurd (List.cons.inj heq).1 hE
  · rfl

theorem isLocal_readEnd (hclose : IsLocal close) : IsLocal (readEnd negative d close) := by
  intro cs n hread rest hrest
  have hexponent := isLocal_readExponent negative d.coefficient d.exponent
  cases cs with
  | nil =>
    -- what is behind the number does not begin an exponent
    have hend : readEnd negative d close rest = close rest := by
      cases rest with
      | nil => rfl
      | cons c rest =>
        obtain ⟨-, he, hE⟩ := ne_of_stops hrest rfl
        exact readEnd_of_ne he hE rest
    rw [List.nil_append, hend]
    exact hclose [] n hread rest hrest
  | cons c cs =>
    by_cases he : c = 'e'
    · rw [he] at hread ⊢
      exact hexponent cs n hread rest hrest
    · by_cases hE : c = 'E'
      · rw [hE] at hread ⊢
        exact hexponent cs n hread rest hrest
      · rw [readEnd_of_ne he hE] at hread
        rw [List.cons_append, readEnd_of_ne he hE]
        exact hclose (c :: cs) n hread rest hrest

end

theorem readFraction_eq (negative : Bool) (whole cs : List Char) :
    readFraction negative whole cs =
      if (cs.takeWhile Char.isDigit).isEmpty then
        match cs.dropWhile Char.isDigit with
        | [] => stopBefore .unfinishedValue []
        | _ => stopWithin .badNumber (cs.dropWhile Char.isDigit)
      else readEnd negative (keptDecimal whole (cs.takeWhile Char.isDigit))
        (closeReal negative (keptDecimal whole (cs.takeWhile Char.isDigit)).coefficient
          (keptDecimal whole (cs.takeWhile Char.isDigit)).exponent)
        (cs.dropWhile Char.isDigit) := by
  unfold readFraction
  dsimp only
  generalize cs.dropWhile Char.isDigit = rest
  split
  · rfl
  · split
    · rfl
    · rfl
    · next he hE =>
      cases rest with
      | nil => rfl
      | cons c rest =>
        rw [readEnd_of_ne]
        · rintro rfl
          exact he rest rfl
        · rintro rfl
          exact hE rest rfl

/-- The leading digits of a text are those of a longer one that does not go on with a digit. -/
theorem digits_append (cs : List Char) {rest : List Char} (hrest : Stops Char.isDigit rest) :
    (cs ++ rest).takeWhile Char.isDigit = cs.takeWhile Char.isDigit ∧
      (cs ++ rest).dropWhile Char.isDigit = cs.dropWhile Char.isDigit ++ rest := by
  have hsplit := List.takeWhile_append_dropWhile (p := Char.isDigit) (l := cs)
  have hdigits : ∀ c ∈ cs.takeWhile Char.isDigit, c.isDigit = true :=
    fun c hc => List.mem_takeWhile_imp hc
  have hstops : Stops Char.isDigit (cs.dropWhile Char.isDigit ++ rest) := by
    refine Stops.append ?_ hrest
    intro c hc
    have hhead := List.head?_dropWhile_not Char.isDigit cs
    rw [Option.mem_def.mp hc] at hhead
    exact hhead
  have htake := takeWhile_append_of_stop hdigits hstops
  have hdrop := dropWhile_append_of_stop hdigits hstops
  rw [← List.append_assoc, hsplit] at htake hdrop
  exact ⟨htake, hdrop⟩

theorem isLocal_readFraction (negative : Bool) (whole : List Char) :
    IsLocal (readFraction negative whole) := by
  intro cs n hread rest hrest
  obtain ⟨htake, hdrop⟩ := digits_append cs (stops_isDigit hrest)
  rw [readFraction_eq] at hread ⊢
  rw [htake, hdrop]
  split at hread
  · split at hread <;> cases hread
  · next hdigits =>
    rw [if_neg hdigits]
    exact isLocal_readEnd (isLocal_closeReal _ _ _) _ n hread rest hrest

theorem readAfterWhole_eq (negative : Bool) (whole : List Char) {c : Char} (hc : c ≠ '.')
    (cs : List Char) : readAfterWhole negative whole (c :: cs) =
      readEnd negative (keptDecimal whole []) (closeInteger negative whole) (c :: cs) := by
  unfold readAfterWhole
  split
  · next heq => exact absurd (List.cons.inj heq).1 hc
  · next heq => rw [heq]; rfl
  · next heq => rw [heq]; rfl
  · next _ he hE =>
    rw [readEnd_of_ne]
    · rintro rfl
      exact he cs rfl
    · rintro rfl
      exact hE cs rfl

theorem isLocal_readAfterWhole (negative : Bool) (whole : List Char) :
    IsLocal (readAfterWhole negative whole) := by
  intro cs n hread rest hrest
  have hend : IsLocal (readEnd negative (keptDecimal whole []) (closeInteger negative whole)) :=
    isLocal_readEnd (isLocal_closeInteger negative whole)
  cases cs with
  | nil =>
    cases rest with
    | nil => exact hread
    | cons c rest =>
      obtain ⟨hpoint, -⟩ := ne_of_stops hrest rfl
      rw [List.nil_append, readAfterWhole_eq negative whole hpoint]
      exact hend [] n hread _ hrest
  | cons c cs =>
    by_cases hpoint : c = '.'
    · rw [hpoint] at hread ⊢
      exact isLocal_readFraction negative whole cs n hread rest hrest
    · rw [readAfterWhole_eq negative whole hpoint] at hread
      rw [List.cons_append, readAfterWhole_eq negative whole hpoint]
      exact hend (c :: cs) n hread rest hrest

/-- A zero is followed by no digit. -/
theorem readNumber_zero (negative : Bool) {rest : List Char} (h : Stops Char.isDigit rest) :
    readNumber negative ('0' :: rest) = readAfterWhole negative ['0'] rest := by
  cases rest with
  | nil => rfl
  | cons d rest =>
    have hd : d.isDigit = false := (stops_cons _).mp h
    simp [readNumber, hd]

theorem readNumber_digit (negative : Bool) {c : Char} (hzero : c ≠ '0') (hc : c.isDigit = true)
    (cs : List Char) : readNumber negative (c :: cs) =
      readAfterWhole negative ((c :: cs).takeWhile Char.isDigit)
        ((c :: cs).dropWhile Char.isDigit) := by
  simp only [readNumber, if_neg hzero, if_pos hc]

/-- **A number is read without what is behind it.** -/
theorem isLocal_readNumber (negative : Bool) : IsLocal (readNumber negative) := by
  intro cs n hread rest hrest
  have hstops := stops_isDigit hrest
  cases cs with
  | nil => cases hread
  | cons c cs =>
    rw [List.cons_append]
    by_cases hzero : c = '0'
    · subst hzero
      have hcs : Stops Char.isDigit cs := by
        intro d hd
        obtain ⟨tail, rfl⟩ := List.head?_eq_some_iff.mp hd
        by_contra hdigit
        rw [Bool.not_eq_false] at hdigit
        simp [readNumber, hdigit, stopWithin] at hread
      rw [readNumber_zero negative hcs] at hread
      rw [readNumber_zero negative (hcs.append hstops)]
      exact isLocal_readAfterWhole negative ['0'] cs n hread rest hrest
    · by_cases hc : c.isDigit = true
      · obtain ⟨htake, hdrop⟩ := digits_append (c :: cs) hstops
        rw [readNumber_digit negative hzero hc] at hread
        rw [readNumber_digit negative hzero hc, ← List.cons_append, htake, hdrop]
        exact isLocal_readAfterWhole negative _ _ n hread rest hrest
      · simp [readNumber, hzero, hc, stopWithin] at hread

/-! ### The texts of numbers -/

/-- Whether a number begins with `c`. -/
def isNumberStart (c : Char) : Bool :=
  c == '-' || c.isDigit

theorem exists_digits_eq_cons (n : Nat) : ∃ c cs, digits n = c :: cs ∧ c.isDigit = true := by
  obtain ⟨c, cs, hdigits⟩ := List.exists_cons_of_ne_nil (digits_ne_nil n)
  have hmem : c ∈ digits n := by
    rw [hdigits]
    exact List.mem_cons_self
  exact ⟨c, cs, hdigits, isDigit_of_mem_digits hmem⟩

theorem exists_render_eq_cons (form : Layout) (d : Scaled) :
    ∃ c cs, form.render d = c :: cs ∧ c.isDigit = true := by
  obtain ⟨c, cs, hdigits, hc⟩ := exists_digits_eq_cons d.coefficient
  unfold Layout.render
  rw [hdigits]
  dsimp only
  split
  · unfold positional
    split
    · exact ⟨'0', _, rfl, by decide⟩
    · exact ⟨c, _, rfl, hc⟩
  · unfold scientific
    cases cs with
    | nil => exact ⟨c, _, rfl, hc⟩
    | cons c' cs => exact ⟨c, _, rfl, hc⟩

/-- A number is written with a minus or a digit at its front. -/
theorem exists_text_eq_cons (n : Number) :
    ∃ c cs, n.text = c :: cs ∧ isNumberStart c = true := by
  have hstart {c : Char} (hc : c.isDigit = true) : isNumberStart c = true := by
    rw [isNumberStart, hc, Bool.or_true]
  cases n with
  | integer n =>
    cases n with
    | ofNat n =>
      obtain ⟨c, cs, hdigits, hc⟩ := exists_digits_eq_cons n
      exact ⟨c, cs, hdigits, hstart hc⟩
    | negSucc n => exact ⟨'-', _, rfl, rfl⟩
  | real x =>
    change ∃ c cs, x.text = c :: cs ∧ isNumberStart c = true
    unfold Binary64.text
    dsimp only
    split
    · cases x.negative with
      | false => exact ⟨'0', _, rfl, rfl⟩
      | true => exact ⟨'-', _, rfl, rfl⟩
    · cases x.negative with
      | false =>
        obtain ⟨c, cs, hrender, hc⟩ := exists_render_eq_cons layout x.shortest
        exact ⟨c, cs, hrender, hstart hc⟩
      | true => exact ⟨'-', _, rfl, rfl⟩

/-! ### Numbers as values -/

theorem skipBlanks_cons {c : Char} (h : isJsonBlank c = false) (cs : List Char) :
    skipBlanks (c :: cs) = c :: cs :=
  List.dropWhile_cons_of_neg (by rw [h]; decide)

/-- A number and what is behind it as a value. -/
def asValue (result : Except Stop (Number × List Char)) : Except Stop (Value × List Char) :=
  result.map fun found => (.number found.1, found.2)

theorem asValue_eq_ok_iff {result : Except Stop (Number × List Char)} {n : Number}
    {rest : List Char} : asValue result = .ok (.number n, rest) ↔ result = .ok (n, rest) := by
  cases result with
  | error stop => exact iff_of_false nofun nofun
  | ok found => simp [asValue, Except.map, Prod.ext_iff]

theorem readValueWith_minus (inner : Option (Reader Value)) (cs : List Char) :
    readValueWith inner ('-' :: cs) = asValue (readNumber true cs) := by
  have hopen : readValueWith inner ('-' :: cs) =
      (readNumber true cs).bind fun found => .ok (.number found.1, found.2) := rfl
  rw [hopen]
  cases readNumber true cs <;> rfl

theorem readValueWith_digit (inner : Option (Reader Value)) {c : Char} (hc : c.isDigit = true)
    (cs : List Char) : readValueWith inner (c :: cs) = asValue (readNumber false (c :: cs)) := by
  have hblank : isJsonBlank c = false := by
    by_contra hblank
    simp only [isJsonBlank, Bool.not_eq_false, Bool.or_eq_true, beq_iff_eq] at hblank
    rcases hblank with ((rfl | rfl) | rfl) | rfl <;> exact absurd hc (by decide)
  unfold readValueWith
  rw [skipBlanks_cons hblank]
  dsimp only
  split
  · exact absurd hc (by decide)
  · exact absurd hc (by decide)
  · exact absurd hc (by decide)
  · exact absurd hc (by decide)
  · exact absurd hc (by decide)
  · exact absurd hc (by decide)
  · exact absurd hc (by decide)
  · rw [if_pos hc]
    cases readNumber false (c :: cs) <;> rfl

/-- Whether a number is read from its text. -/
def Number.ReadsBack (n : Number) : Prop :=
  readValue 0 n.text = .ok (.number n, [])

/-- **A number that reads back is read in front of anything else.** -/
theorem readValueWith_text {n : Number} (h : n.ReadsBack) (inner : Option (Reader Value))
    {rest : List Char} (hrest : Stops isNumberChar rest) :
    readValueWith inner (n.text ++ rest) = .ok (.number n, rest) := by
  obtain ⟨c, cs, htext, hstart⟩ := exists_text_eq_cons n
  have hread : readValueWith none n.text = .ok (.number n, []) := h
  rw [isNumberStart, Bool.or_eq_true, beq_iff_eq] at hstart
  rw [htext] at hread ⊢
  rw [List.cons_append]
  rcases hstart with rfl | hdigit
  · rw [readValueWith_minus, asValue_eq_ok_iff] at hread ⊢
    exact isLocal_readNumber true cs n hread rest hrest
  · rw [readValueWith_digit _ hdigit, asValue_eq_ok_iff] at hread ⊢
    exact isLocal_readNumber false (c :: cs) n hread rest hrest

/-! ### Whole numbers -/

/-- Whether a number is kept as it is: a whole number has at most sixty-four bits. -/
def Number.IsKept : Number → Prop
  | .integer n => -0x8000000000000000 ≤ n ∧ n < 0x10000000000000000
  | .real _ => True

/-- A positive number has no leading zero. -/
theorem exists_digits_eq_cons_of_pos {n : Nat} (h : 0 < n) :
    ∃ c cs, digits n = c :: cs ∧ c ≠ '0' := by
  have hall : ∀ d : Fin 10, 0 < d.val → d.val.digitChar ≠ '0' := by decide
  induction n using Nat.strongRecOn with
  | ind n ih =>
    unfold digits at ih ⊢
    rcases Nat.lt_or_ge n 10 with hlt | hge
    · rw [Nat.toDigits_of_lt_base hlt]
      exact ⟨n.digitChar, [], rfl, hall ⟨n, hlt⟩ h⟩
    · obtain ⟨c, cs, hdigits, hc⟩ := ih (n / 10) (by omega) (by omega)
      rw [Nat.toDigits_of_base_le (by decide) hge, hdigits]
      exact ⟨c, cs ++ [(n % 10).digitChar], rfl, hc⟩

/-- The digits of a number are read as that number. -/
theorem readNumber_digits (negative : Bool) (n : Nat) :
    readNumber negative (digits n) = closeInteger negative (digits n) [] := by
  rcases Nat.eq_zero_or_pos n with rfl | hpos
  · rfl
  · obtain ⟨c, cs, hdigits, hzero⟩ := exists_digits_eq_cons_of_pos hpos
    have hall : ∀ d ∈ digits n, d.isDigit = true := fun d hd => isDigit_of_mem_digits hd
    have hc : c.isDigit = true := by
      refine hall c ?_
      rw [hdigits]
      exact List.mem_cons_self
    have htake := List.takeWhile_eq_self_iff.mpr hall
    have hdrop := List.dropWhile_eq_nil_iff.mpr hall
    rw [hdigits] at htake hdrop
    rw [hdigits, readNumber_digit negative hzero hc, htake, hdrop]
    rfl

/-- **Whole numbers read back.** -/
theorem readsBack_integer {n : Int} (h : (Number.integer n).IsKept) :
    (Number.integer n).ReadsBack := by
  have hread (text : List Char) : readValue 0 text = readValueWith none text := rfl
  unfold Number.ReadsBack
  rw [hread]
  cases n with
  | ofNat n =>
    obtain ⟨c, cs, hdigits, hc⟩ := exists_digits_eq_cons n
    have hsmall : n < UInt64.size := by
      have hlt := h.2
      change (n : Int) < 0x10000000000000000 at hlt
      change n < 18446744073709551616
      omega
    change readValueWith none (digits n) = _
    rw [hdigits, readValueWith_digit _ hc, ← hdigits, readNumber_digits, asValue_eq_ok_iff,
      closeInteger, value_digits, if_neg (by decide), if_pos hsmall]
    rfl
  | negSucc n =>
    have hsmall : 0 < n + 1 ∧ n + 1 ≤ 0x8000000000000000 := by
      have hge := h.1
      omega
    change readValueWith none ('-' :: digits (n + 1)) = _
    rw [readValueWith_minus, readNumber_digits, asValue_eq_ok_iff, closeInteger, value_digits,
      if_pos rfl, if_pos hsmall]
    rfl

/-! ### Numbers that are read -/

/-- A reader of numbers that are kept. -/
def Keeps (f : Reader Number) : Prop :=
  ∀ cs n rest, f cs = .ok (n, rest) → n.IsKept

theorem keeps_closeReal (negative : Bool) (significand : Nat) (scale : Int) :
    Keeps (closeReal negative significand scale) := by
  intro cs n rest h
  unfold closeReal at h
  split at h
  · cases h
    trivial
  · cases h

theorem keeps_closeInteger (negative : Bool) (whole : List Char) :
    Keeps (closeInteger negative whole) := by
  intro cs m rest h
  unfold closeInteger at h
  dsimp only at h
  split at h
  · split at h
    · next hfits =>
      cases h
      unfold Number.IsKept
      omega
    · exact keeps_closeReal _ _ _ cs m rest h
  · split at h
    · next hfits =>
      cases h
      have hsmall : value whole < 18446744073709551616 := hfits
      unfold Number.IsKept
      omega
    · exact keeps_closeReal _ _ _ cs m rest h

theorem keeps_readExponentDigits (negative : Bool) (significand : Nat) (scale : Int)
    (down : Bool) : Keeps (readExponentDigits negative significand scale down) := by
  intro cs n rest h
  unfold readExponentDigits at h
  split at h
  · cases h
  · split at h
    · cases h
    · dsimp only at h
      split at h
      · split at h
        · cases h
        · cases h
          trivial
      · exact keeps_closeReal _ _ _ _ n rest h

theorem keeps_readExponent (negative : Bool) (significand : Nat) (scale : Int) :
    Keeps (readExponent negative significand scale) := by
  intro cs n rest h
  unfold readExponent at h
  split at h <;> exact keeps_readExponentDigits _ _ _ _ _ n rest h

theorem keeps_readEnd {negative : Bool} {d : Scaled} {close : Reader Number}
    (hclose : Keeps close) : Keeps (readEnd negative d close) := by
  intro cs n rest h
  unfold readEnd at h
  split at h
  · exact keeps_readExponent _ _ _ _ n rest h
  · exact keeps_readExponent _ _ _ _ n rest h
  · exact hclose cs n rest h

theorem keeps_readFraction (negative : Bool) (whole : List Char) :
    Keeps (readFraction negative whole) := by
  intro cs n rest h
  rw [readFraction_eq] at h
  split at h
  · split at h <;> cases h
  · exact keeps_readEnd (keeps_closeReal _ _ _) _ n rest h

theorem keeps_readAfterWhole (negative : Bool) (whole : List Char) :
    Keeps (readAfterWhole negative whole) := by
  intro cs n rest h
  cases cs with
  | nil => exact keeps_closeInteger negative whole [] n rest h
  | cons c cs =>
    by_cases hpoint : c = '.'
    · rw [hpoint] at h
      exact keeps_readFraction negative whole cs n rest h
    · rw [readAfterWhole_eq negative whole hpoint] at h
      exact keeps_readEnd (keeps_closeInteger negative whole) _ n rest h

/-- **A number that is read is kept.** -/
theorem keeps_readNumber (negative : Bool) : Keeps (readNumber negative) := by
  intro cs n rest h
  unfold readNumber at h
  split at h
  · cases h
  · split at h
    · split at h
      · split at h
        · cases h
        · exact keeps_readAfterWhole _ _ _ n rest h
      · exact keeps_readAfterWhole _ _ _ n rest h
    · split at h
      · exact keeps_readAfterWhole _ _ _ n rest h
      · cases h

end BadgeEntry.Json
