import BadgeEntry.Url.Basic

/-!
# Paths

A path is read piece by piece between its slashes.  A piece of one dot stays
where it is, a piece of two dots goes back one segment; the dots may be written
as percent codes.  Dots at the end of a path leave an empty last segment.

A segment that looks like a drive, a letter and a colon or a bar, is never gone
back over, whether or not a backslash and more text follow the drive.  In a `file`
address a drive at the front is written with a colon, and a tab after it parts it from
the rest of its piece as a slash would.  When all segments have their places, empty ones
at the front of a `file` address are left out.

## Main definitions

* `isPathCoded` and its kin — what is percent-coded where.
* `goBack` — a list of segments without the last.
* `segmentsOf` — what a piece that is no dots becomes.
* `placePieces`, `placeText` — segments from the pieces of a path.
* `readSegments` — segments from a text.
-/

namespace BadgeEntry.Url

open Text

/-- Whether `c` is coded in a fragment. -/
def isFragmentCoded (c : Char) : Bool :=
  isControl c || c == ' ' || c == '"' || c == '<' || c == '>' || c == '`'

/-- Whether `c` is coded in a path. -/
def isPathCoded (c : Char) : Bool :=
  isFragmentCoded c || c == '#' || c == '?' || c == '\x7b' || c == '\x7d'

/-- Whether `c` is coded in user information. -/
def isUserinfoCoded (c : Char) : Bool :=
  isPathCoded c || ['/', ':', ';', '=', '@', '[', '\\', ']', '^', '|'].contains c

/-- Whether `c` is coded in a query. -/
def isQueryCoded (special : Bool) (c : Char) : Bool :=
  isControl c || c == ' ' || c == '"' || c == '#' || c == '<' || c == '>' ||
    (special && c == '\'')

/-- A piece as it is compared with dots: percent codes of dots are dots. -/
def dotted : List Char → List Char
  | '%' :: '2' :: 'e' :: rest => '.' :: dotted rest
  | '%' :: '2' :: 'E' :: rest => '.' :: dotted rest
  | c :: rest => c :: dotted rest
  | [] => []

/-- Whether a piece stays where it is. -/
def isSingleDot (piece : List Char) : Bool :=
  dotted piece == ['.']

/-- Whether a piece goes back. -/
def isDoubleDot (piece : List Char) : Bool :=
  dotted piece == ['.', '.']

/-- Whether a segment looks like a drive. -/
def isDrive : List Char → Bool
  | [letter, mark] => letter.isAlpha && (mark == ':' || mark == '|')
  | _ => false

/-- The segments without the last one, unless that is a drive up to its first
backslash. -/
def goBack (segments : List (List Char)) : List (List Char) :=
  match segments.getLast? with
  | some last => if isDrive (last.takeWhile (· != '\\')) then segments else segments.dropLast
  | none => []

/-- The segments that a piece becomes after `done`.  A tab in a piece parts a drive at
the front of a `file` address from what follows it, and is nothing elsewhere. -/
def segmentsOf (kind : Kind) (done : List (List Char)) (piece : List Char) :
    List (List Char) :=
  match kind, done, piece with
  | .file, [], [letter, '|'] => [if letter.isAlpha then [letter, ':'] else piece]
  | .file, [], letter :: ':' :: '\t' :: rest =>
    [[letter, ':'], percentEncode isPathCoded rest]
  | _, _, _ => [percentEncode isPathCoded (piece.filter (· != '\t'))]

/-- The segments after `done` and the pieces of a path. -/
def placePieces (kind : Kind) (done : List (List Char)) : List (List Char) → List (List Char)
  | [] => done
  | [last] =>
    if isDoubleDot last then goBack done ++ [[]]
    else if isSingleDot last then done ++ [[]]
    else done ++ segmentsOf kind done last
  | piece :: next :: rest =>
    let done :=
      if isDoubleDot piece then goBack done
      else if isSingleDot piece then done
      else done ++ segmentsOf kind done piece
    placePieces kind done (next :: rest)

/-- The pieces of a text between its slashes. -/
def pieces (special : Bool) (cs : List Char) : List (List Char) :=
  (if special then cs.map fun c => if c = '\\' then '/' else c else cs).splitOn '/'

/-- The segments after `done` and the text `cs`, each in its place. -/
def placeText (kind : Kind) (done : List (List Char)) (cs : List Char) : List (List Char) :=
  placePieces kind done (pieces kind.isSpecial cs)

/-- The segments of a path from `done` and the text `cs`. -/
def readSegments (kind : Kind) (done : List (List Char)) (cs : List Char) :
    List (List Char) :=
  match kind with
  | .file =>
    match (placeText kind done cs).dropWhile List.isEmpty with
    | [] => [[]]
    | segments => segments
  | _ => placeText kind done cs

end BadgeEntry.Url
