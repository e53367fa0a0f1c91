import BadgeEntry.Text.Blank
import BadgeEntry.Url.Path

/-!
# Reading addresses

Control characters and spaces around an address are left out, and so are tabs and
line breaks anywhere in it.  A reference without a scheme, or with the scheme of
the address it stands in, is resolved against that address.

## Main definitions

* `readHostAndPort`, `readRegion`, `readAuthority` — user information, host and port.
* `Address.parse` — an address that stands alone.
* `Address.resolve` — a reference inside an address.
-/

namespace BadgeEntry.Url

open Text Decimal

variable [NameMapping]

/-! ### Authority -/

/-- Whether `c` ends an authority. -/
def endsAuthority (special : Bool) (c : Char) : Bool :=
  c == '/' || c == '?' || c == '#' || (special && c == '\\')

/-- The text before and after the last at sign. -/
def splitLastAt (cs : List Char) : Option (List Char × List Char) :=
  if '@' ∈ cs then
    let after := (cs.reverse.takeWhile (· != '@')).reverse
    some (cs.take (cs.length - after.length - 1), after)
  else none

/-- Name and password as they are written; an empty password is left out with
its colon. -/
def readUserinfo (cs : List Char) : List Char :=
  let name := cs.takeWhile (· != ':')
  let password := (cs.dropWhile (· != ':')).drop 1
  percentEncode isUserinfoCoded name ++
    if password.isEmpty then [] else ':' :: percentEncode isUserinfoCoded password

/-- The host at the front of a text: it ends at a colon outside brackets. -/
def takeHost (inside : Bool) : List Char → List Char × List Char
  | [] => ([], [])
  | c :: rest =>
    if c = ':' ∧ !inside then ([], c :: rest)
    else
      let inside := if c = '[' then true else if c = ']' then false else inside
      let (host, after) := takeHost inside rest
      (c :: host, after)

/-- A port after its colon, and what follows it.  The usual port of the scheme is
left out. -/
def readPort (scheme : String) (cs : List Char) : Except Fault (Option Nat × List Char) :=
  let ds := cs.takeWhile Char.isDigit
  let rest := cs.dropWhile Char.isDigit
  if 65535 < value ds then .error .badPort
  else
    match rest with
    | c :: _ => if c = '\\' then .ok (port ds, rest) else .error .badPort
    | [] => .ok (port ds, rest)
where
  /-- The port that is written. -/
  port (ds : List Char) : Option Nat :=
    if ds.isEmpty ∨ webPorts.lookup scheme = some (value ds) then none else some (value ds)

/-- Host and port at the front of a text, and what follows them. -/
def readHostAndPort (scheme : String) (cs : List Char) :
    Except Fault ((Host × Option Nat) × List Char) := do
  let special := (kindOf scheme).isSpecial
  let (hostText, tail) := takeHost false cs
  if special ∧ hostText.isEmpty then throw .emptyHost
  let host ← if special then readWebHost hostText else readPlainHost hostText
  match tail with
  | ':' :: digits =>
    if host = .name [] then throw .emptyHost
    let (port, tail) ← readPort scheme digits
    return ((host, port), tail)
  | _ => return ((host, none), tail)

/-- User information, host and port in the text of an authority, and what follows them. -/
def readRegion (scheme : String) (region : List Char) :
    Except Fault (Authority × List Char) := do
  let (before, after) := (splitLastAt region).getD ([], region)
  let userinfo := readUserinfo before
  let ((host, port), tail) ← readHostAndPort scheme after
  if host = .name [] ∧ !userinfo.isEmpty then throw .emptyHost
  return (⟨userinfo, host, port⟩, tail)

/-- The authority at the front of a text after its two slashes, and what follows
it. -/
def readAuthority (scheme : String) (cs : List Char) :
    Except Fault (Authority × List Char) := do
  let special := (kindOf scheme).isSpecial
  let region := cs.takeWhile fun c => !endsAuthority special c
  let rest := cs.dropWhile fun c => !endsAuthority special c
  -- an at sign with nothing on either side of it
  if region = ['@'] ∧ !rest.isEmpty then throw .emptyHost
  let (authority, tail) ← readRegion scheme region
  return (authority, tail ++ rest)

/-! ### Query and fragment -/

/-- Whether `c` ends a path. -/
def endsPath (c : Char) : Bool :=
  c == '?' || c == '#'

/-- The query and the fragment after a path. -/
def readTail (special : Bool) (cs : List Char) : Option (List Char) × Option (List Char) :=
  match cs with
  | '?' :: rest =>
    (some (percentEncode (isQueryCoded special) (rest.takeWhile (· != '#'))),
      fragment (rest.dropWhile (· != '#')))
  | _ => (none, fragment cs)
where
  /-- The fragment after its mark. -/
  fragment : List Char → Option (List Char)
    | '#' :: rest => some (percentEncode isFragmentCoded rest)
    | _ => none

/-- The address with a path below `done`, a query and a fragment from `cs`. -/
def withPath (scheme : String) (authority : Option Authority) (done : List (List Char))
    (cs : List Char) : Address :=
  let kind := kindOf scheme
  let tail := readTail kind.isSpecial (cs.dropWhile fun c => !endsPath c)
  ⟨scheme, authority, .rooted (readSegments kind done (cs.takeWhile fun c => !endsPath c)),
    tail.1, tail.2⟩

/-- The address after an authority: its path begins with a slash, which may be
missing. -/
def afterAuthority (scheme : String) (authority : Authority) (cs : List Char) : Address :=
  let special := (kindOf scheme).isSpecial
  match cs with
  | c :: rest =>
    if c = '/' ∨ (special ∧ c = '\\') then withPath scheme (some authority) [] rest
    else if !special ∧ endsPath c then
      let tail := readTail special cs
      ⟨scheme, some authority, .rooted [], tail.1, tail.2⟩
    else withPath scheme (some authority) [] cs
  | [] =>
    if special then withPath scheme (some authority) [] []
    else ⟨scheme, some authority, .rooted [], none, none⟩

/-- The address after the two slashes. -/
def afterSlashes (scheme : String) (cs : List Char) : Except Fault Address := do
  let (authority, rest) ← readAuthority scheme cs
  return afterAuthority scheme authority rest

/-! ### Relative references -/

/-- Whether `c` is a slash of either kind. -/
def isAnySlash (c : Char) : Bool :=
  c == '/' || c == '\\'

/-- The segments of a path. -/
def Path.segments : Path → List (List Char)
  | .rooted segments => segments
  | .rootless _ => []

/-- The address with query and fragment from `cs` and the rest from `base`. -/
def withTail (base : Address) (cs : List Char) : Address :=
  let tail := readTail base.kind.isSpecial cs
  { base with query := tail.1, fragment := tail.2 }

/-- The address with the fragment from `cs` and the rest from `base`. -/
def withFragment (base : Address) (cs : List Char) : Address :=
  { base with fragment := readTail.fragment cs }

/-- A reference without a scheme inside an address that is no file. -/
def resolveRelative (base : Address) (cs : List Char) : Except Fault Address :=
  match cs with
  | [] => .ok { base with fragment := none }
  | '?' :: _ => .ok (withTail base cs)
  | '#' :: _ => .ok (withFragment base cs)
  | c :: rest =>
    if isAnySlash c then
      match cs with
      | '/' :: '/' :: after => afterSlashes base.scheme after
      | _ =>
        if rest.head?.any isAnySlash then
          afterSlashes base.scheme (cs.dropWhile isAnySlash)
        else .ok (withPath base.scheme base.authority [] rest)
    else .ok (withPath base.scheme base.authority base.path.segments.dropLast cs)

/-! ### Files -/

/-- Whether a text begins with a drive as a whole piece. -/
def startsWithDrive : List Char → Bool
  | [letter, mark] => isDrive [letter, mark]
  | letter :: mark :: c :: _ =>
    isDrive [letter, mark] && (isAnySlash c || c == '?' || c == '#')
  | _ => false

/-- The authority of a file on this machine. -/
def localFile : Authority := ⟨[], .name [], none⟩

/-- Whether a segment is a drive with a colon. -/
def isPlainDrive : List Char → Bool
  | [letter, mark] => letter.isAlpha && mark == ':'
  | _ => false

/-- The drive at the front of a path. -/
def leadingDrive (path : Path) : List (List Char) :=
  (path.segments.take 1).filter isPlainDrive

/-- The segments that a relative path in a file is put after, and the text that is
put there.  The last segment makes room, unless it is a drive: then the path goes on
below a drive at the front, and any other drive goes on in the path, two dots being
left out. -/
def continueFile (segments : List (List Char)) (cs : List Char) :
    List (List Char) × List Char :=
  let drive := segments.getLast?.getD []
  let piece := cs.takeWhile fun c => !isAnySlash c && !endsPath c
  if !isPlainDrive drive then (segments.dropLast, cs)
  else if segments.length = 1 ∨ isSingleDot piece then (segments, cs)
  else if isDoubleDot piece then (segments.dropLast, drive ++ cs.drop piece.length)
  else (segments.dropLast, drive ++ cs)

/-- A file after two slashes: a host may stand there, but no drive.  Without a host
an empty segment stands first, so that a drive after it is not at the front. -/
def fileAfterSlashes (cs : List Char) : Except Fault Address := do
  let endsHost (c : Char) : Bool := isAnySlash c || c == '?' || c == '#'
  let hostText := cs.takeWhile fun c => !endsHost c
  let rest := cs.dropWhile fun c => !endsHost c
  if isDrive hostText then return withPath "file" (some localFile) [] cs
  let here := withPath "file" (some localFile) [[]] (dropSlash rest)
  if hostText.isEmpty then return here
  let host ← readWebHost hostText
  if host = .name "localhost".toList then return here
  -- a drive that is a whole piece at the front leaves no place for a host
  let path := ((dropSlash rest).takeWhile fun c => !endsPath c).filter (· != '\t')
  let front := (placeText .file [] path).head?.getD []
  let authority := if isPlainDrive front then localFile else { localFile with host }
  return withPath "file" (some authority) [] (dropSlash rest)
where
  /-- The text without one slash at the front. -/
  dropSlash : List Char → List Char
    | c :: rest => if isAnySlash c then rest else c :: rest
    | [] => []

/-- A file, after its scheme or as a reference inside the file `base`. -/
def resolveFile (base : Option Address) (cs : List Char) : Except Fault Address :=
  match cs with
  | [] => .ok (base.elim (withPath "file" (some localFile) [] []) ({ · with fragment := none }))
  | '?' :: _ => .ok (base.elim (withPath "file" (some localFile) [] cs) (withTail · cs))
  | '#' :: _ => .ok (base.elim (withPath "file" (some localFile) [] cs) (withFragment · cs))
  | c :: rest =>
    if isAnySlash c then
      if rest.head?.any isAnySlash then fileAfterSlashes (rest.drop 1)
      else
        match base with
        | none => .ok (withPath "file" (some localFile) [] rest)
        | some b =>
          if startsWithDrive rest then .ok (withPath "file" (some localFile) [] rest)
          else if (leadingDrive b.path).isEmpty then .ok (withPath "file" b.authority [] rest)
          else .ok (withPath "file" (some localFile) (leadingDrive b.path) rest)
    else
      match base with
      | none => .ok (withPath "file" (some localFile) [] cs)
      | some b =>
        if startsWithDrive cs then .ok (withPath "file" (some localFile) [] cs)
        else
          let (done, text) := continueFile b.path.segments cs
          .ok (withPath "file" b.authority done text)

/-! ### Addresses -/

/-- Whether `c` is a tab or ends a line. -/
def isBreak (c : Char) : Bool :=
  c == '\t' || c == '\n' || c == '\r'

/-- The text without control characters and spaces around it. -/
def trimmed (cs : List Char) : List Char :=
  Text.dropEnd (·.toNat ≤ 0x20) (cs.dropWhile (·.toNat ≤ 0x20))

/-- The text without its breaks. -/
def joined (cs : List Char) : List Char :=
  cs.filter fun c => !isBreak c

/-- A piece of a path without its breaks, but for a tab between a drive and more text
if a break stood there. -/
def joinedPiece (piece : List Char) : List Char :=
  let afterColon := (piece.dropWhile (· != ':')).drop 1
  match joined piece with
  | letter :: ':' :: c :: rest =>
    if letter.isAlpha ∧ afterColon.head?.any isBreak then letter :: ':' :: '\t' :: c :: rest
    else letter :: ':' :: c :: rest
  | cs => cs

/-- The text of a file without its breaks, but for those that `joinedPiece` keeps in the
path; all its slashes are of one kind. -/
def joinedFile (cs : List Char) : List Char :=
  let path := pieces true (cs.takeWhile fun c => !endsPath c)
  ['/'].intercalate (path.map joinedPiece) ++ joined (cs.dropWhile fun c => !endsPath c)

/-- Whether `c` may stand in a scheme after its first letter. -/
def isSchemeChar (c : Char) : Bool :=
  c.isAlphanum || c == '+' || c == '-' || c == '.'

/-- The scheme at the front of a text, in lower case, and what follows its
colon. -/
def splitScheme (cs : List Char) : Option (String × List Char) :=
  let inScheme (c : Char) : Bool := isSchemeChar c || isBreak c
  match cs.head?, cs.dropWhile inScheme with
  | some first, ':' :: rest =>
    if first.isAlpha then
      some (String.ofList ((joined (cs.takeWhile inScheme)).map Char.toLower), rest)
    else none
  | _, _ => none

/-- A reference with a scheme. -/
def resolveWithScheme (base : Option Address) (scheme : String) (cs : List Char) :
    Except Fault Address :=
  let base := base.filter fun b => b.scheme = scheme
  match kindOf scheme with
  | .file => resolveFile base (joinedFile cs)
  | .web =>
    let cs := joined cs
    let slashes := (cs.takeWhile isAnySlash).length
    match base with
    | some b => if slashes < 2 then resolveRelative b cs
                else afterSlashes scheme (cs.dropWhile isAnySlash)
    | none => afterSlashes scheme (cs.dropWhile isAnySlash)
  | .other =>
    let cs := joined cs
    match cs with
    | '/' :: '/' :: rest => afterSlashes scheme rest
    | '/' :: rest => .ok (withPath scheme none [] rest)
    | _ =>
      let tail := readTail false (cs.dropWhile fun c => !endsPath c)
      let text := percentEncode isControl (cs.takeWhile fun c => !endsPath c)
      .ok ⟨scheme, none, .rootless text, tail.1, tail.2⟩

/-- A reference without a scheme. -/
def resolveWithoutScheme (base : Option Address) (cs : List Char) : Except Fault Address :=
  match base with
  | none => .error .relativeWithoutBase
  | some b =>
    if cs.head? = some '#' then .ok (withFragment b (joined cs))
    else
      match b.path, b.kind with
      | .rootless _, _ => .error .relativeToRootless
      | _, .file => resolveFile (some b) (joinedFile cs)
      | _, _ => resolveRelative b (joined cs)

/-- The address that a text names, inside `base` if there is one. -/
def readAddress (base : Option Address) (text : String) : Except Fault Address :=
  let cs := trimmed text.toList
  match splitScheme cs with
  | some (scheme, rest) => resolveWithScheme base scheme rest
  | none => resolveWithoutScheme base cs

/-- The address that a text names by itself. -/
def Address.parse (text : String) : Except Fault Address :=
  readAddress none text

/-- The address that a text names inside `base`. -/
def Address.resolve (base : Address) (text : String) : Except Fault Address :=
  readAddress (some base) text

end BadgeEntry.Url
