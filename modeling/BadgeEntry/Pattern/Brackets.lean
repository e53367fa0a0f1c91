import BadgeEntry.Pattern.CharSet
import BadgeEntry.Pattern.Part

/-!
# Sets in brackets

Between brackets stand characters, ranges and further sets in brackets; a caret
right after the opening bracket takes the characters outside.  Dashes after that,
and a closing bracket if it comes first, stand for themselves, and so does a dash
before a closing bracket.

Two signs join what stands on their left with what stands on their right: `&&` takes
the common characters, `--` those of the left that are not on the right, and `~~`
those that are on one side only.

## Main definitions

* `escaped?` — what a backslash makes of a character.
* `SetSign`, `OpenSet` — a set while it is read.
* `readSet?` — a set after its opening bracket.
-/

namespace BadgeEntry.Pattern

/-- The character that a backslash and `c` stand for. -/
def escaped? (c : Char) : Option Char :=
  if c = 'n' then some '\n'
  else if c = 'r' then some '\r'
  else if c = 't' then some '\t'
  else if c.toNat < 0x80 ∧ !c.isAlphanum ∧ c ≠ '<' ∧ c ≠ '>' then some c
  else none

/-- A sign that joins two sets. -/
inductive SetSign where
  /-- The common characters. -/
  | common
  /-- The characters of the left that are not on the right. -/
  | without
  /-- The characters on one side only. -/
  | oneSide
  deriving DecidableEq, Repr

/-- What a sign makes of two sets. -/
def SetSign.join : SetSign → CharSet → CharSet → CharSet
  | .common => .inter
  | .without => .diff
  | .oneSide => .symmDiff

/-- A set whose closing bracket has not been read. -/
structure OpenSet where
  /-- Whether the characters outside are meant. -/
  negated : Bool
  /-- What stands before the last sign, and that sign. -/
  left : Option (Part CharSet × SetSign)
  /-- What stands after it, the last one first. -/
  items : List (Part CharSet)

namespace OpenSet

/-- One more item. -/
def add (s : OpenSet) (item : Part CharSet) : OpenSet :=
  { s with items := item :: s.items }

/-- What has been read, as one set. -/
def content (s : OpenSet) : Part CharSet :=
  let right : Part CharSet :=
    ⟨.anyOf (s.items.reverse.map (·.body)), sideBySide (s.items.map (·.depth))⟩
  match s.left with
  | none => right
  | some (left, sign) =>
    ⟨sign.join left.body right.body, sideBySide [left.depth, right.depth]⟩

/-- A sign after what has been read. -/
def sign (s : OpenSet) (sign : SetSign) : OpenSet :=
  { s with left := some (s.content, sign), items := [] }

/-- The set, closed now. -/
def close (s : OpenSet) : Part CharSet :=
  let content := s.content
  ⟨if s.negated then .compl content.body else content.body, content.depth + 1⟩

end OpenSet

/-- What follows an opening bracket: the caret, and the characters that stand for
themselves only there. -/
def openSet (cs : List Char) : OpenSet × List Char :=
  let single (c : Char) : Part CharSet := ⟨.only c, 0⟩
  let negated := cs.head? = some '^'
  let cs := if negated then cs.drop 1 else cs
  let dashes := cs.takeWhile (· = '-')
  match dashes, cs.dropWhile (· = '-') with
  | [], ']' :: rest => (⟨negated, none, [single ']']⟩, rest)
  | _, rest => (⟨negated, none, dashes.map single⟩, rest)

/-- A character of a set, and what follows it. -/
def setChar? : List Char → Option (Char × List Char)
  | '\\' :: c :: rest => (escaped? c).map (·, rest)
  | '\\' :: [] => none
  | c :: rest => some (c, rest)
  | [] => none

/-- A range or a single character, and what follows it. -/
def setItem? (cs : List Char) : Option (CharSet × List Char) := do
  let (first, rest) ← setChar? cs
  match rest with
  | '-' :: ']' :: _ => return (.only first, rest)
  | '-' :: '-' :: _ => return (.only first, rest)
  | '-' :: rest =>
    let (last, rest) ← setChar? rest
    if last < first then none else return (.range first last, rest)
  | _ => return (.only first, rest)

/-- The set `s`, which is open inside those of `stack`, up to its closing bracket, and
what follows the outermost of them.  Each step takes at least one character. -/
def readSet? : Nat → OpenSet → List OpenSet → List Char → Option (Part CharSet × List Char)
  | 0, _, _, _ => none
  | fuel + 1, s, stack, cs =>
    match cs with
    | ']' :: rest =>
      match stack with
      | [] => some (s.close, rest)
      | outer :: stack => readSet? fuel (outer.add s.close) stack rest
    | '[' :: rest =>
      let (inner, rest) := openSet rest
      readSet? fuel inner (s :: stack) rest
    | '&' :: '&' :: rest => readSet? fuel (s.sign .common) stack rest
    | '-' :: '-' :: rest => readSet? fuel (s.sign .without) stack rest
    | '~' :: '~' :: rest => readSet? fuel (s.sign .oneSide) stack rest
    | _ => do
      let (item, rest) ← setItem? cs
      readSet? fuel (s.add ⟨item, 0⟩) stack rest

/-- A set after its opening bracket, and what follows it. -/
def set? (cs : List Char) : Option (Part CharSet × List Char) :=
  let (s, rest) := openSet cs
  readSet? (cs.length + 1) s [] rest

end BadgeEntry.Pattern
