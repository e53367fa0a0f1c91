/-!
# How deeply the parts of a pattern are nested

Groups, repetitions and sets in brackets are a level each, and so are the places
where several parts stand side by side.

## Main definitions

* `Part` — what is denoted by a piece of a pattern, with its depth.
* `depthLimit` — the greatest depth.
* `sideBySide` — the depth of parts that stand side by side.
-/

namespace BadgeEntry

/-- What a piece of a pattern denotes, with the number of levels that it has. -/
structure Part (α : Type) where
  /-- What is denoted. -/
  body : α
  /-- The number of its levels. -/
  depth : Nat
  deriving DecidableEq, Repr, Inhabited

/-- The greatest number of levels. -/
def depthLimit : Nat := 250

/-- The levels of parts that stand side by side: one more than the deepest of them
has, but none for a part that stands alone. -/
def sideBySide (depths : List Nat) : Nat :=
  match depths with
  | [] => 0
  | [depth] => depth
  | depths => depths.foldl max 0 + 1

end BadgeEntry
