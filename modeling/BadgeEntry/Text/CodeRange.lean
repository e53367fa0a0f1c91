/-!
# Ranges of characters

## Main definitions

* `CodeRange`, `CodeRange.has` — the code points from a first to a last one.
* `isIn` — whether a character lies in one of some ranges.
-/

namespace BadgeEntry.Text

/-- The first and the last code point of a range. -/
abbrev CodeRange := Nat × Nat

/-- Whether a range holds a character. -/
def CodeRange.has (range : CodeRange) (c : Char) : Bool :=
  range.1 ≤ c.toNat && c.toNat ≤ range.2

/-- Whether a character lies in one of some ranges. -/
def isIn (ranges : List CodeRange) (c : Char) : Bool :=
  ranges.any (·.has c)

end BadgeEntry.Text
