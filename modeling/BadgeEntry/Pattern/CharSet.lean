/-!
# Sets of characters

A set is given by its characters, by a range of them, or by other sets.

## Main definitions

* `CharSet`, `CharSet.has` — sets and their members.
* `CharSet.sameLine` — all characters but the line feed.
* `CharSet.anyOf` — the characters of any of some sets.
-/

namespace BadgeEntry

/-- A set of characters. -/
inductive CharSet where
  /-- No character. -/
  | none
  /-- One character. -/
  | only (c : Char)
  /-- The characters from the first to the last one. -/
  | range (first last : Char)
  /-- The characters of one set or the other. -/
  | union (s t : CharSet)
  /-- The characters of both sets. -/
  | inter (s t : CharSet)
  /-- The characters outside a set. -/
  | compl (s : CharSet)
  deriving DecidableEq, Repr, Inhabited

namespace CharSet

/-- Whether a character belongs to a set. -/
def has : CharSet → Char → Bool
  | .none, _ => false
  | .only d, c => c = d
  | .range first last, c => first ≤ c && c ≤ last
  | .union s t, c => s.has c || t.has c
  | .inter s t, c => s.has c && t.has c
  | .compl s, c => !s.has c

/-- All characters but the line feed. -/
def sameLine : CharSet :=
  .compl (.only '\n')

/-- The characters of any of some sets. -/
def anyOf : List CharSet → CharSet
  | [] => .none
  | [s] => s
  | s :: sets => .union s (anyOf sets)

/-- The characters of the first set that do not belong to the second. -/
def diff (s t : CharSet) : CharSet :=
  .inter s (.compl t)

/-- The characters that belong to just one of two sets. -/
def symmDiff (s t : CharSet) : CharSet :=
  .union (s.diff t) (t.diff s)

@[simp] theorem has_anyOf (sets : List CharSet) (c : Char) :
    (anyOf sets).has c = sets.any (·.has c) := by
  fun_induction anyOf sets with
  | case1 => rfl
  | case2 s => simp
  | case3 s sets _ ih => simp [has, ih]

end CharSet

end BadgeEntry
