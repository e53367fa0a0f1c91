import BadgeEntry.Pattern.Basic
import BadgeEntry.Pattern.Brackets

/-!
# The notation of patterns

A character stands for itself unless it has a meaning: a point for any character,
brackets for a set of characters, parentheses for a group, a bar between
alternatives, `*`, `+` and `?` after what is repeated, reluctant with another `?`,
and `^` and `$` for the ends of the text.  A backslash takes its meaning from a
punctuation character.

A pattern is read in two steps: symbols first, and from them the pattern, with a
stack of the groups that are open.  A pattern that is nested too deeply is refused.

## Main definitions

* `Symbol`, `readSymbols` — the first step.
* `Frame`, `assemble` — the second step.
* `Pattern.read?` — the pattern of a text, if it has one.
-/

namespace BadgeEntry.Pattern

/-- A symbol of the notation. -/
inductive Symbol where
  /-- A pattern on its own. -/
  | atom (p : Part Pattern)
  /-- An opening parenthesis. -/
  | opening
  /-- A closing parenthesis. -/
  | closing
  /-- A bar. -/
  | bar
  /-- A repetition of what stands before it. -/
  | again (rounds : Rounds) (eager : Bool)
  deriving DecidableEq, Repr

/-- A repetition, which another question mark makes reluctant. -/
def againSymbol (rounds : Rounds) (cs : List Char) : Symbol × List Char :=
  match cs with
  | '?' :: rest => (.again rounds false, rest)
  | _ => (.again rounds true, cs)

/-- A pattern without levels. -/
def flat (p : Pattern) : Symbol :=
  .atom ⟨p, 0⟩

/-- The symbol that begins with `c`, and what follows it. -/
def symbol? (c : Char) (rest : List Char) : Option (Symbol × List Char) :=
  match c with
  | '(' => if rest.head? = some '?' then none else some (.opening, rest)
  | ')' => some (.closing, rest)
  | '|' => some (.bar, rest)
  | '*' => some (againSymbol .many rest)
  | '+' => some (againSymbol .some rest)
  | '?' => some (againSymbol .optional rest)
  | '.' => some (flat (.one .sameLine), rest)
  | '^' => some (flat (.edge .start), rest)
  | '$' => some (flat (.edge .finish), rest)
  | '\x7b' => none
  | '[' => (set? rest).map fun (s, rest) => (.atom ⟨.one s.body, s.depth⟩, rest)
  | '\\' =>
    match rest with
    | d :: rest => (escaped? d).map fun e => (flat (char e), rest)
    | [] => none
  | c => some (flat (char c), rest)

/-- The symbols of a text; each takes at least one character. -/
def readSymbols : Nat → List Char → Option (List Symbol)
  | _, [] => some []
  | 0, _ :: _ => none
  | fuel + 1, c :: rest => do
    let (s, rest) ← symbol? c rest
    return s :: (← readSymbols fuel rest)

/-- A group that is open: its number, the alternatives that are complete and the
parts of the one that is not, both in reverse. -/
structure Frame where
  /-- The number of the group. -/
  index : Nat
  /-- The complete alternatives, the last one first. -/
  alternatives : List (Part Pattern)
  /-- The parts of the last alternative, the last one first. -/
  parts : List (Part Pattern)

/-- Several parts, given in reverse, as one that `join` makes of them. -/
def joined (join : List Pattern → Pattern) (parts : List (Part Pattern)) :
    Part Pattern :=
  ⟨join (parts.reverse.map (·.body)), sideBySide (parts.map (·.depth))⟩

/-- The alternatives of an open group, with the last one complete, in reverse. -/
def Frame.complete (f : Frame) : List (Part Pattern) :=
  joined sequence f.parts :: f.alternatives

/-- The pattern of an open group that is closed now. -/
def Frame.close (f : Frame) : Part Pattern :=
  joined oneOf f.complete

/-- The group in which `p` stands. -/
def grouped (index : Nat) (p : Part Pattern) : Part Pattern :=
  ⟨.group index p.body, p.depth + 1⟩

/-- The repetition of `p`. -/
def again (rounds : Rounds) (eager : Bool) (p : Part Pattern) : Part Pattern :=
  ⟨.repeated rounds eager p.body, p.depth + 1⟩

/-- The pattern of some symbols, after `count` groups were opened. -/
def assemble (count : Nat) (f : Frame) (stack : List Frame) : List Symbol →
    Option (Part Pattern)
  | [] => if stack.isEmpty then some f.close else none
  | .atom p :: rest => assemble count { f with parts := p :: f.parts } stack rest
  | .opening :: rest => assemble (count + 1) ⟨count + 1, [], []⟩ (f :: stack) rest
  | .closing :: rest =>
    match stack with
    | [] => none
    | g :: stack =>
      assemble count { g with parts := grouped f.index f.close :: g.parts } stack rest
  | .bar :: rest => assemble count ⟨f.index, f.complete, []⟩ stack rest
  | .again rounds eager :: rest =>
    match f.parts with
    | [] => none
    | p :: parts =>
      assemble count { f with parts := again rounds eager p :: parts } stack rest

/-- The pattern that a text denotes. -/
def read? (text : String) : Option Pattern := do
  let cs := text.toList
  let p ← assemble 0 ⟨0, [], []⟩ [] (← readSymbols cs.length cs)
  if p.depth ≤ depthLimit then return p.body else none

end BadgeEntry.Pattern
