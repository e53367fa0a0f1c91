import BadgeEntry.Text.Percent

/-!
# Encoded forms

A form is submitted as pairs of a name and a value.  Inside a name or a value
the ASCII letters and digits and `*`, `-`, `.`, `_` stand for themselves, a space
becomes a plus sign, and every other byte is coded.  An equals sign stands
between a name and its value, an ampersand between two pairs.

## Main definitions

* `encodeText`, `encodePair`, `encodePairs` — writing.
* `decodeText`, `decodePairs` — reading.
-/

namespace BadgeEntry.Form

open Text

/-- Whether `c` stands for itself in a form. -/
def isPlain (c : Char) : Bool :=
  c.isAlphanum || c == '*' || c == '-' || c == '.' || c == '_'

/-- One character of a name or a value. -/
def encodeChar (c : Char) : List Char :=
  if c = ' ' then ['+'] else percentChar (fun c => !isPlain c) c

/-- A name or a value. -/
def encodeText (cs : List Char) : List Char :=
  cs.flatMap encodeChar

/-- A name and its value. -/
def encodePair (pair : String × String) : List Char :=
  encodeText pair.1.toList ++ '=' :: encodeText pair.2.toList

/-- A form. -/
def encodePairs : List (String × String) → List Char
  | [] => []
  | [pair] => encodePair pair
  | pair :: next :: rest => encodePair pair ++ '&' :: encodePairs (next :: rest)

/-- A name or a value read back: plus signs are spaces, and damaged bytes are
replaced. -/
def decodeText (cs : List Char) : String :=
  let spaced := cs.map fun c => if c = '+' then ' ' else c
  String.ofList (Utf8.decode (percentDecode (Utf8.encode spaced)))

/-- A pair, parted at the first equals sign. -/
def decodePair (cs : List Char) : String × String :=
  (decodeText (cs.takeWhile (· != '=')), decodeText ((cs.dropWhile (· != '=')).drop 1))

/-- The pairs of a form; nothing between two ampersands is no pair. -/
def decodePairs (cs : List Char) : List (String × String) :=
  ((cs.splitOn '&').filter fun piece => !piece.isEmpty).map decodePair

end BadgeEntry.Form
