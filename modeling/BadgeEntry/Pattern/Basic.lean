import BadgeEntry.Pattern.CharSet

/-!
# Patterns

A pattern describes texts.  Searching takes the leftmost place where it matches;
of several matches there the one that prefers the earlier alternative and, in a
repetition, one more round, or one round less if the repetition is reluctant.  A
group remembers the text of its last round.

## Main definitions

* `Edge` — the ends of a text.
* `Pattern` — patterns.
* `Pattern.sequence`, `Pattern.oneOf` — patterns one after another, and
  alternatives.
* `Pattern.literal` — the pattern that matches one text.
-/

namespace BadgeEntry

/-- An end of a text. -/
inductive Edge where
  /-- The place before the first character. -/
  | start
  /-- The place after the last character. -/
  | finish
  deriving DecidableEq, Repr, Inhabited

/-- How often the pattern under a repetition matches. -/
inductive Rounds where
  /-- Once or not at all. -/
  | optional
  /-- Any number of times. -/
  | many
  /-- At least once. -/
  | some
  deriving DecidableEq, Repr, Inhabited

/-- A pattern. -/
inductive Pattern where
  /-- The empty text. -/
  | empty
  /-- One character. -/
  | one (set : CharSet)
  /-- An end of the text. -/
  | edge (edge : Edge)
  /-- One pattern after another. -/
  | seq (p q : Pattern)
  /-- One of two patterns, the first one preferred. -/
  | alt (p q : Pattern)
  /-- A pattern whose text is remembered. -/
  | group (index : Nat) (p : Pattern)
  /-- A repeated pattern; an eager one prefers more rounds. -/
  | repeated (rounds : Rounds) (eager : Bool) (p : Pattern)
  deriving DecidableEq, Repr, Inhabited

namespace Pattern

/-- The pattern of one character. -/
def char (c : Char) : Pattern :=
  .one (.only c)

/-- Patterns one after another. -/
def sequence : List Pattern → Pattern
  | [] => .empty
  | [p] => p
  | p :: ps => .seq p (sequence ps)

/-- One of some patterns, the earlier ones preferred; without any, the empty
text. -/
def oneOf : List Pattern → Pattern
  | [] => .empty
  | [p] => p
  | p :: ps => .alt p (oneOf ps)

/-- The pattern that matches one text. -/
def literal (cs : List Char) : Pattern :=
  cs.foldr (fun c p => .seq (char c) p) .empty

end Pattern

end BadgeEntry
