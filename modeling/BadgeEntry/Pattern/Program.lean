import BadgeEntry.Pattern.Basic

/-!
# Instructions for a pattern

A pattern is followed by instructions, one after another from address 0; a thread
that gets behind the last one has matched.  A choice is a fork, whose first branch
is preferred.

The instructions of a pattern depend on the address of the first of them.  Where any
number of rounds may be taken, a round is followed by the choice that stands before
it.  If a round may take no character, the choice after it is another one, as for an
optional pattern that is repeated at least once: in this form a round that took no
character is followed by the rest of the pattern, and not by the next round.

## Main definitions

* `Instruction` — instructions.
* `Pattern.mayBeEmpty` — whether a pattern can match the empty text.
* `Pattern.size` — how many instructions a pattern has.
* `Pattern.code` — the instructions of a pattern.

## Main results

* `Pattern.length_code` — there are as many as `Pattern.size` says.
-/

namespace BadgeEntry

/-- What a thread does at an address. -/
inductive Instruction where
  /-- Takes a character of a set. -/
  | take (set : CharSet)
  /-- Goes on only at an end of the text. -/
  | check (edge : Edge)
  /-- Writes the place in the text into a slot. -/
  | mark (slot : Nat)
  /-- Goes on at an address. -/
  | jump (target : Nat)
  /-- Goes on at two addresses, the first one preferred. -/
  | fork (first second : Nat)
  deriving DecidableEq, Repr, Inhabited

namespace Pattern

/-- Whether a pattern can match the empty text. -/
def mayBeEmpty : Pattern → Bool
  | .empty | .edge _ => true
  | .one _ => false
  | .seq p q => p.mayBeEmpty && q.mayBeEmpty
  | .alt p q => p.mayBeEmpty || q.mayBeEmpty
  | .group _ p | .repeated .some _ p => p.mayBeEmpty
  | .repeated .optional _ _ | .repeated .many _ _ => true

/-- How many instructions a pattern has. -/
def size : Pattern → Nat
  | .empty => 0
  | .one _ | .edge _ => 1
  | .seq p q => p.size + q.size
  | .alt p q => p.size + q.size + 2
  | .group _ p => p.size + 2
  | .repeated .optional _ p => p.size + 1
  | .repeated .many _ p => p.size + 2
  | .repeated .some _ p => p.size + 1

/-- The slot for the place where a group starts. -/
def startSlot (index : Nat) : Nat := 2 * index

/-- The slot for the place where a group ends. -/
def finishSlot (index : Nat) : Nat := 2 * index + 1

/-- One more round from an address, or the end of the repetition at another. -/
def choice (eager : Bool) (again finish : Nat) : Instruction :=
  if eager then .fork again finish else .fork finish again

/-- The instructions of a pattern whose first one has the address `here`. -/
def code (here : Nat) : Pattern → List Instruction
  | .empty => []
  | .one set => [.take set]
  | .edge e => [.check e]
  | .seq p q => p.code here ++ q.code (here + p.size)
  | .alt p q =>
    .fork (here + 1) (here + p.size + 2) :: p.code (here + 1) ++
      .jump (here + p.size + q.size + 2) :: q.code (here + p.size + 2)
  | .group index p =>
    .mark (startSlot index) :: p.code (here + 1) ++ [.mark (finishSlot index)]
  | .repeated .optional eager p =>
    choice eager (here + 1) (here + p.size + 1) :: p.code (here + 1)
  | .repeated .many eager p =>
    choice eager (here + 1) (here + p.size + 2) :: p.code (here + 1) ++
      [if p.mayBeEmpty then choice eager (here + 1) (here + p.size + 2) else .jump here]
  | .repeated .some eager p =>
    p.code here ++ [choice eager here (here + p.size + 1)]

theorem length_code (p : Pattern) (here : Nat) : (p.code here).length = p.size := by
  induction p generalizing here with
  | empty | one _ | edge _ => rfl
  | seq p q hp hq => simp [code, size, hp, hq]
  | alt p q hp hq => simp [code, size, hp, hq]; omega
  | group _ p hp => simp [code, size, hp]
  | repeated rounds _ p hp => cases rounds <;> simp [code, size, hp]

end Pattern

end BadgeEntry
