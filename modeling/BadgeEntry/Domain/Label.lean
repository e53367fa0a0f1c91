import BadgeEntry.Domain.Joiner
import BadgeEntry.Domain.Punycode

/-!
# Names of hosts

A name consists of labels with points between them.  A label that begins with `xn--`
stands for an international one: it must be the ASCII form of a label with other
characters, all of which may stand in a name, in composed text, with joiners in their
places, and without a mark at the front.

If some label of a name is written from right to left, no label of the name may have
both directions, so that the order of its characters is seen.

## Main definitions

* `readLabel?` — the characters that a label stands for.
* `hasOneDirection` — the rule for labels in names with both directions.
* `isName` — whether a text is a name.
-/

namespace BadgeEntry.Domain

/-- What begins the ASCII form of an international label. -/
def codeMark : List Char := ['x', 'n', '-', '-']

/-- Whether characters form an international label. -/
def isInternational (cs : List Char) : Bool :=
  cs.any (0x80 ≤ ·.toNat) && cs.all (fun c => (kind? c).isSome) && !cs.head?.any isMark &&
    !codeMark.isPrefixOf cs && isComposed cs && joinersFit cs

/-- The characters that a label stands for. -/
def readLabel? (label : List Char) : Option (List Char) :=
  if codeMark.isPrefixOf label then
    (decodeText? (label.drop codeMark.length)).filter isInternational
  else some label

/-- Whether a kind makes a name one with both directions. -/
def turns (k : Kind) : Bool :=
  k = .right ∨ k = .arabicNumber

/-- Whether a character of a kind goes from left to right. -/
def goesRight (k : Kind) : Bool :=
  k = .left ∨ k = .spacingMark

/-- Whether a label is written from right to left alone: it has no character of the
other direction and digits of one sort, and it ends with a letter or a digit, which
may have marks. -/
def isRightToLeft (kinds : List Kind) : Bool :=
  !kinds.any goesRight && !(kinds.contains .arabicNumber && kinds.contains .europeanNumber) &&
    (kinds.reverse.dropWhile (· = .mark)).head?.any fun k => turns k || k = .europeanNumber

/-- Whether a label is written from left to right alone. -/
def isLeftToRight (kinds : List Kind) : Bool :=
  !kinds.any turns &&
    (kinds.reverse.dropWhile (· = .mark)).head?.any fun k => goesRight k || k = .europeanNumber

/-- Whether a label has one direction, that of the letter at its front. -/
def hasOneDirection (kinds : List Kind) : Bool :=
  match kinds with
  | [] => true
  | .right :: _ => isRightToLeft kinds
  | .left :: _ => isLeftToRight kinds
  | _ :: _ => false

/-- Whether labels are those of a name. -/
def areLabels (labels : List (List Char)) : Bool :=
  match labels.mapM readLabel? with
  | none => false
  | some labels =>
    let kinds := labels.map (·.filterMap kind?)
    !kinds.any (·.any turns) || kinds.all hasOneDirection

/-- Whether a text in small letters is a name, as far as its international labels
decide that. -/
def isName (cs : List Char) : Bool :=
  areLabels (cs.splitOn '.')

end BadgeEntry.Domain
