import BadgeEntry.Pattern.Program
import Std.Data.TreeSet

/-!
# Searching with a pattern

A thread follows the instructions of a pattern through a text.  At a fork it goes
on with the preferred branch, and the other one waits; a thread that fails makes
way for the one that waits least long.  So the first thread that matches is the
preferred match.

A thread that comes to a fork where one has been before, at the same place in the
text, is given up: it would do what the earlier one did, which failed or is still
on its way and preferred.  That also ends the rounds of a repetition that take no
character.  It holds across the places where the search starts, so a search takes
a number of steps that is linear in the length of the text.

## Main definitions

* `Thread` — a thread.
* `follow` — the first match of some threads.
* `Pattern.find?` — the slots of the first match in a text.
* `Pattern.group?` — the text of a group in the first match.
-/

namespace BadgeEntry

/-- The places in slots, the latest one first. -/
abbrev Marks := List (Nat × Nat)

/-- A thread: where it is in the instructions and in the text, and what it marked. -/
structure Thread where
  /-- The address of the next instruction. -/
  address : Nat
  /-- The number of characters before its place in the text. -/
  offset : Nat
  /-- The characters after it. -/
  rest : List Char
  /-- The places it marked. -/
  marks : Marks
  deriving Repr

/-- Forks, each with a place in the text where a thread came to it. -/
abbrev Forks := Std.TreeSet (Nat × Nat) lexOrd.compare

/-- Whether a place is an end of the text. -/
def Thread.at (t : Thread) : Edge → Bool
  | .start => t.offset = 0
  | .finish => t.rest.isEmpty

/-- The marks of the first thread that matches, of some threads with the most
preferred one in front, and the forks they came to. -/
def follow (code : Array Instruction) : Nat → Forks → List Thread → Option Marks × Forks
  | 0, seen, _ => (none, seen)
  | _ + 1, seen, [] => (none, seen)
  | fuel + 1, seen, t :: waiting =>
    match code[t.address]? with
    | none => (some t.marks, seen)
    | some (.take set) =>
      match t.rest with
      | [] => follow code fuel seen waiting
      | c :: rest =>
        if set.has c then
          follow code fuel seen (⟨t.address + 1, t.offset + 1, rest, t.marks⟩ :: waiting)
        else follow code fuel seen waiting
    | some (.check edge) =>
      if t.at edge then follow code fuel seen ({ t with address := t.address + 1 } :: waiting)
      else follow code fuel seen waiting
    | some (.mark slot) =>
      follow code fuel seen
        (⟨t.address + 1, t.offset, t.rest, (slot, t.offset) :: t.marks⟩ :: waiting)
    | some (.jump target) => follow code fuel seen ({ t with address := target } :: waiting)
    | some (.fork first second) =>
      if seen.contains (t.address, t.offset) then follow code fuel seen waiting
      else
        follow code fuel (seen.insert (t.address, t.offset))
          ({ t with address := first } :: { t with address := second } :: waiting)

/-- The marks of the first match that starts at a place in the text or later. -/
def followFrom (code : Array Instruction) (fuel : Nat) (seen : Forks) (offset : Nat)
    (cs : List Char) : Option Marks :=
  match follow code fuel seen [⟨0, offset, cs, []⟩] with
  | (some marks, _) => some marks
  | (none, seen) =>
    match cs with
    | [] => none
    | _ :: rest => followFrom code fuel seen (offset + 1) rest

namespace Pattern

/-- How many steps threads take that start from one place in a text of `n`
characters: a fork starts two of them and is passed once at each place of the text,
and between forks a thread takes each instruction at most once. -/
def fuel (p : Pattern) (n : Nat) : Nat :=
  (2 * p.size * (n + 1) + 1) * (p.size + 1)

/-- The marks of the first match in a text. -/
def find? (p : Pattern) (cs : List Char) : Option Marks :=
  followFrom (p.code 0).toArray (p.fuel cs.length) ∅ 0 cs

/-- The text of a group in the first match, if the group took part in it. -/
def group? (p : Pattern) (index : Nat) (text : String) : Option String := do
  let marks ← p.find? text.toList
  let start ← marks.lookup (startSlot index)
  let finish ← marks.lookup (finishSlot index)
  return String.ofList ((text.toList.take finish).drop start)

end Pattern

end BadgeEntry
