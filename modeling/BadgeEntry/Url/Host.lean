import BadgeEntry.Decimal.Digits
import BadgeEntry.Domain.Label
import BadgeEntry.Text.Percent

/-!
# Hosts

The host of an address is a name or a number.  On the web a name is written in
lower case, its percent codes are resolved, and it holds none of the characters
that part an address; a name whose last label is a number is an IPv4 address and
must be a proper one.  Elsewhere a host is taken nearly as it stands.  An IPv6
address stands in brackets.

A name is written in ASCII.  Its labels may stand for international ones, and must then
do so rightly.  A name that is given with other characters is written in ASCII by a
mapping; the tables of that mapping belong to no module here, so it is a parameter, and
all that is asked of it is that it gives names.

## Main definitions

* `Host`, `Host.render` — hosts and how they are written.
* `readIpv4?`, `readIpv6?` — the two kinds of numbers.
* `AsciiName`, `NameMapping` — names as they are written, and the mapping of other ones.
* `readWebHost`, `readPlainHost` — hosts on the web and elsewhere.
-/

namespace BadgeEntry.Url

open Text Decimal

/-- Why an address is refused. -/
inductive Fault where
  /-- A relative reference without an address to resolve it against. -/
  | relativeWithoutBase
  /-- A relative reference against an address without a hierarchy. -/
  | relativeToRootless
  /-- The host is missing. -/
  | emptyHost
  /-- The port is not a number below 65536. -/
  | badPort
  /-- The host ends in a number but is no IPv4 address. -/
  | badIpv4
  /-- What stands in brackets is no IPv6 address. -/
  | badIpv6
  /-- The host holds a character that no name has. -/
  | badName
  /-- The host of an address outside the web holds a forbidden character. -/
  | badCharacter
  deriving DecidableEq, Repr

/-- The wording of a refusal. -/
def Fault.message : Fault → String
  | .relativeWithoutBase => "relative URL without a base"
  | .relativeToRootless => "relative URL with a cannot-be-a-base base"
  | .emptyHost => "empty host"
  | .badPort => "invalid port number"
  | .badIpv4 => "invalid IPv4 address"
  | .badIpv6 => "invalid IPv6 address"
  | .badName => "invalid international domain name"
  | .badCharacter => "invalid domain character"

/-- A host. -/
inductive Host where
  /-- A name, possibly an empty one. -/
  | name (text : List Char)
  /-- An IPv4 address as a number of thirty-two bits. -/
  | ipv4 (address : Nat)
  /-- An IPv6 address as eight numbers of sixteen bits. -/
  | ipv6 (pieces : List Nat)
  deriving DecidableEq, Repr, Inhabited

/-- Whether `c` is a control character. -/
def isControl (c : Char) : Bool :=
  c.toNat < 0x20 || c.toNat == 0x7F

/-! ### IPv4 -/

/-- The value of a digit in any base up to sixteen. -/
def digitValue? (c : Char) : Option Nat :=
  if '0' ≤ c ∧ c ≤ '9' then some (c.toNat - 0x30)
  else if 'a' ≤ c ∧ c ≤ 'f' then some (c.toNat - 0x57)
  else if 'A' ≤ c ∧ c ≤ 'F' then some (c.toNat - 0x37)
  else none

/-- The number with the digits `cs` in a base, if all are digits of it. -/
def readInBase? (base : Nat) (cs : List Char) : Option Nat :=
  cs.foldl (fun n? c => do
    let n ← n?
    let d ← digitValue? c
    if d < base then some (n * base + d) else none) (some 0)

/-- A part of an IPv4 address: `0x` begins a hexadecimal number, another leading
zero an octal one. -/
def readIpv4Part? (cs : List Char) : Option Nat :=
  match cs with
  | [] => none
  | '0' :: 'x' :: rest => readInBase? 16 rest
  | '0' :: 'X' :: rest => readInBase? 16 rest
  | '0' :: d :: rest => readInBase? 8 (d :: rest)
  | _ => readInBase? 10 cs

/-- The labels of a name, without an empty last one. -/
def labels (cs : List Char) : List (List Char) :=
  let parts := cs.splitOn '.'
  if 1 < parts.length ∧ parts.getLast? = some [] then parts.dropLast else parts

/-- Whether the last label of a name is a number. -/
def endsInNumber (cs : List Char) : Bool :=
  match (labels cs).getLast? with
  | none => false
  | some last =>
    (!last.isEmpty && last.all Char.isDigit) || (readIpv4Part? last).isSome

/-- The address of four parts or fewer: all but the last are single bytes, the
last one fills the bytes that are left. -/
def readIpv4? (cs : List Char) : Option Nat := do
  let parts := labels cs
  if 4 < parts.length then none
  else
    let numbers ← parts.mapM readIpv4Part?
    let last ← numbers.getLast?
    let front := numbers.dropLast
    let room := Nat.pow 0x100 (4 - front.length)
    if room ≤ last ∨ front.any (255 < ·) then none
    else some (front.foldl (fun sum part => sum * 0x100 + part) 0 * room + last)

/-- Four decimal numbers with points between them. -/
def renderIpv4 (n : Nat) : List Char :=
  digits (n / 0x1000000 % 0x100) ++ '.' :: digits (n / 0x10000 % 0x100) ++
    '.' :: digits (n / 0x100 % 0x100) ++ '.' :: digits (n % 0x100)

/-! ### IPv6 -/

/-- A piece of one to four hexadecimal digits. -/
def readPiece? (cs : List Char) : Option Nat :=
  if cs.isEmpty ∨ 4 < cs.length then none else readInBase? 16 cs

/-- A byte in decimal digits without a leading zero. -/
def readByte? (cs : List Char) : Option Nat :=
  if cs.isEmpty ∨ (1 < cs.length ∧ cs.head? = some '0') then none
  else (readInBase? 10 cs).filter (· ≤ 255)

/-- The two pieces written as four bytes with points between them. -/
def readDotted? (cs : List Char) : Option (List Nat) := do
  match ← (cs.splitOn '.').mapM readByte? with
  | [a, b, c, d] => some [a * 256 + b, c * 256 + d]
  | _ => none

/-- Pieces with colons between them; the last ones may be written as bytes. -/
def readPieces? (cs : List Char) (bytesAllowed : Bool) : Option (List Nat) :=
  if cs.isEmpty then some []
  else
    let parts := cs.splitOn ':'
    let last := parts.getLast?.getD []
    if bytesAllowed ∧ '.' ∈ last then do
      return (← parts.dropLast.mapM readPiece?) ++ (← readDotted? last)
    else parts.mapM readPiece?

/-- The text before and after the first pair of colons. -/
def splitDoubleColon : List Char → Option (List Char × List Char)
  | ':' :: ':' :: rest => some ([], rest)
  | [] => none
  | c :: rest => (splitDoubleColon rest).map fun p => (c :: p.1, p.2)

/-- An IPv6 address: eight pieces, or fewer with a pair of colons in place of the
missing zeros. -/
def readIpv6? (cs : List Char) : Option (List Nat) :=
  match splitDoubleColon cs with
  | none => (readPieces? cs true).filter (·.length = 8)
  | some (before, after) => do
    let front ← readPieces? before false
    let back ← readPieces? after true
    if 7 < front.length + back.length then none
    else some (front ++ List.replicate (8 - front.length - back.length) 0 ++ back)

/-- The number of zeros at the front. -/
def zeroRun (pieces : List Nat) : Nat :=
  (pieces.takeWhile (· = 0)).length

/-- Start and length of the first of the longest runs of zeros. -/
def longestRun : Nat → List Nat → Nat × Nat
  | _, [] => (0, 0)
  | start, p :: rest =>
    let here := zeroRun (p :: rest)
    let later := longestRun (start + 1) rest
    if later.2 ≤ here then (start, here) else later

/-- Pieces in lower-case hexadecimal with colons between them. -/
def renderPieces (pieces : List Nat) : List Char :=
  List.intercalate [':'] (pieces.map (Nat.toDigits 16))

/-- An IPv6 address without brackets; the longest run of two zeros or more is
left out. -/
def renderIpv6 (pieces : List Nat) : List Char :=
  let run := longestRun 0 pieces
  if run.2 < 2 then renderPieces pieces
  else renderPieces (pieces.take run.1) ++ ':' :: ':' :: renderPieces (pieces.drop (run.1 + run.2))

/-! ### Hosts -/

/-- A host as it is written in an address. -/
def Host.render : Host → List Char
  | .name text => text
  | .ipv4 address => renderIpv4 address
  | .ipv6 pieces => '[' :: renderIpv6 pieces ++ [']']

/-- A host in brackets; `none` if it does not begin with one. -/
def readBracketed? (cs : List Char) : Option (Except Fault Host) :=
  match cs with
  | '[' :: rest =>
    some <| if rest.getLast? = some ']' then
        match readIpv6? rest.dropLast with
        | some pieces => .ok (.ipv6 pieces)
        | none => .error .badIpv6
      else .error .badIpv6
  | _ => none

/-- The visible characters that no name on the web holds. -/
def forbiddenInName : List Char :=
  ['%', '#', '/', ':', '<', '>', '?', '@', '[', '\\', ']', '^', '|']

/-- The characters of a name as it is written: the visible ones that a name may hold, in
small letters. -/
def isNameChar (c : Char) : Bool :=
  0x20 < c.toNat && c.toNat < 0x7F && !forbiddenInName.contains c && c.toLower == c

/-- A name as it is written. -/
structure AsciiName where
  /-- Its text. -/
  text : List Char
  /-- It holds nothing but the characters of names. -/
  chars : text.all isNameChar = true
  /-- Its international labels are proper ones. -/
  isName : Domain.isName text = true

/-- The name that is written so. -/
def AsciiName.ofText? (text : List Char) : Option AsciiName :=
  if h : text.all isNameChar = true ∧ Domain.isName text = true then some ⟨text, h.1, h.2⟩
  else none

/-- How names with characters outside ASCII are written. -/
class NameMapping where
  /-- The name that some bytes stand for, which are left when percent codes are resolved. -/
  toAscii? : List UInt8 → Option AsciiName

/-- Without tables for the mapping there are no such names. -/
instance (priority := low) NameMapping.refusing : NameMapping where
  toAscii? _ := none

/-- The name with these bytes. -/
def readName? [NameMapping] (bytes : List UInt8) : Option AsciiName :=
  if bytes.all (·.toNat < 0x80) then
    AsciiName.ofText? (bytes.map fun b => (Char.ofNat b.toNat).toLower)
  else NameMapping.toAscii? bytes

/-- The host that a name is. -/
def hostOfName (name : List Char) : Except Fault Host :=
  if name.isEmpty then .error .emptyHost
  else if endsInNumber name then
    match readIpv4? name with
    | some address => .ok (.ipv4 address)
    | none => .error .badIpv4
  else .ok (.name name)

/-- A host on the web. -/
def readWebHost [NameMapping] (cs : List Char) : Except Fault Host :=
  match readBracketed? cs with
  | some result => result
  | none =>
    match readName? (percentDecode (Utf8.encode cs)) with
    | none => .error .badName
    | some name => hostOfName name.text

/-- Whether no host holds `c`. -/
def isForbiddenInHost (c : Char) : Bool :=
  ['\x00', '\t', '\n', '\r', ' ', '#', '/', ':', '<', '>', '?', '@', '[', '\\', ']', '^',
    '|'].contains c

/-- A host outside the web, which may be empty. -/
def readPlainHost (cs : List Char) : Except Fault Host :=
  match readBracketed? cs with
  | some result => result
  | none =>
    if cs.any isForbiddenInHost then .error .badCharacter
    else .ok (.name (percentEncode isControl cs))

end BadgeEntry.Url
