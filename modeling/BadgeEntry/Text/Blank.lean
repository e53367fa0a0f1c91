/-!
# Blank characters

Text that people type arrives with white space around it: a base address with a
trailing newline, a cookie pasted with blanks.  Which characters count as blank
is the Unicode property `White_Space`, twenty-five code points in all; the
zero-width characters (`U+200B`, `U+FEFF`) are not among them.

## Main definitions

* `isBlank` — the property itself.
* `dropEnd p` — removes the characters with `p` from the end of a text.
* `trim` — removes blanks from both ends.
* `isBlankText` — nothing but blanks.

## Main results

* `dropEnd_append_all` — what `dropEnd p` takes away is an end of the text, and
  all of it has `p`.
-/

namespace BadgeEntry.Text

/-- Whether `c` is white space: the tab, the line breaks, the blanks of every
width and the two separators. -/
def isBlank (c : Char) : Bool :=
  let n := c.toNat
  (0x9 ≤ n && n ≤ 0xD) || n == 0x20 || n == 0x85 || n == 0xA0 || n == 0x1680 ||
    (0x2000 ≤ n && n ≤ 0x200A) || n == 0x2028 || n == 0x2029 || n == 0x202F || n == 0x205F ||
    n == 0x3000

/-- `dropEnd p cs` is `cs` without the longest end made of characters with `p`. -/
def dropEnd (p : Char → Bool) : List Char → List Char
  | [] => []
  | c :: cs =>
    match dropEnd p cs with
    | [] => if p c then [] else [c]
    | d :: ds => c :: d :: ds

@[simp] theorem dropEnd_nil (p : Char → Bool) : dropEnd p [] = [] := rfl

/-- What is dropped has `p` throughout, and it is an end of the text. -/
theorem dropEnd_append_all (p : Char → Bool) (cs : List Char) :
    ∃ tail, cs = dropEnd p cs ++ tail ∧ tail.all p := by
  induction cs with
  | nil => exact ⟨[], rfl, rfl⟩
  | cons c cs ih =>
    obtain ⟨tail, hcs, hall⟩ := ih
    cases hd : dropEnd p cs with
    | nil =>
      rw [hd] at hcs
      by_cases hc : p c
      · exact ⟨c :: cs, by simp [dropEnd, hd, hc], by simp [hc, hcs, hall]⟩
      · exact ⟨cs, by simp [dropEnd, hd, hc], by simpa [hcs] using hall⟩
    | cons d ds =>
      have hstep : dropEnd p (c :: cs) = c :: dropEnd p cs := by simp only [dropEnd, hd]
      exact ⟨tail, by rw [hstep, List.cons_append, ← hcs], hall⟩

/-- A text without blanks at either end. -/
def trim (cs : List Char) : List Char :=
  dropEnd isBlank (cs.dropWhile isBlank)

/-- A string without blanks at either end. -/
def trimmed (s : String) : String :=
  String.ofList (trim s.toList)

/-- Whether a string holds nothing but blanks. -/
def isBlankText (s : String) : Bool :=
  s.toList.all isBlank

end BadgeEntry.Text
