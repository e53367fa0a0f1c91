import BadgeEntry.Decimal.Digits
import BadgeEntry.Http.Message
import BadgeEntry.Text.Percent
import BadgeEntry.Url.Basic

/-!
# Messages as bytes

A message is a head, a blank line and a body.  The head is a first line and the
fields, one a line.  A request asks that the connection end with the answer, so
all bytes that arrive are one answer.

The body of an answer comes in pieces, each after its size, or has an announced
length, or goes on to the end.  A body that ends early is missing.

## Main definitions

* `Request.encode` — the bytes of a request.
* `splitHead` — the lines of a head, and what follows it.
* `readPieces` — a body that comes in pieces.
* `Response.decode?` — the answer that some bytes are.
-/

namespace BadgeEntry.Http

open Url Decimal

/-- The end of a line. -/
def lineEnd : List Char := ['\r', '\n']

/-- What is asked for at an address: its path and its query. -/
def targetOf (address : Address) : List Char :=
  address.path.render ++ renderPart '?' address.query

/-- The host of an address, with its port unless that is the usual one. -/
def hostOf (address : Address) : List Char :=
  (address.requested.authority.map Authority.render).getD []

/-- A line of the head of a request. -/
def encodeField (name : String) (value : List Char) : List Char :=
  name.toList ++ ':' :: ' ' :: value ++ lineEnd

/-- The bytes of a request to an address. -/
def Request.encode (r : Request) (address : Address) : List UInt8 :=
  let body := Utf8.encode r.body.toList
  let head :=
    r.method.name.toList ++ ' ' :: targetOf address ++ " HTTP/1.1".toList ++ lineEnd ++
      encodeField "host" (hostOf address) ++
      (r.fields.flatMap fun f => encodeField f.1.name f.2.toList) ++
      (if body.isEmpty then [] else encodeField "content-length" (digits body.length)) ++
      encodeField "connection" "close".toList ++ lineEnd
  Utf8.encode head ++ body

/-! ### Answers -/

/-- A line without the carriage return at its end; the line comes reversed. -/
def finishLine : List UInt8 → List UInt8
  | 0x0D :: rest => rest.reverse
  | line => line.reverse

/-- The lines up to a blank one, and what follows that.  The line that is being
read and the lines before it come reversed. -/
def splitHead (line : List UInt8) (lines : List (List UInt8)) :
    List UInt8 → Option (List (List UInt8) × List UInt8)
  | [] => none
  | b :: rest =>
    if b = 0x0A then
      if (finishLine line).isEmpty then some (lines.reverse, rest)
      else splitHead [] (finishLine line :: lines) rest
    else splitHead (b :: line) lines rest

/-- Whether a byte is a space or a tab. -/
def isGap (b : UInt8) : Bool :=
  b == 0x20 || b == 0x09

/-- Bytes without spaces and tabs around them. -/
def trimGaps (bytes : List UInt8) : List UInt8 :=
  ((bytes.dropWhile isGap).reverse.dropWhile isGap).reverse

/-- The field on a line of a head. -/
def readHeader? (line : List UInt8) : Option Header :=
  match line.dropWhile (· != 0x3A) with
  | [] => none
  | _ :: value => some ⟨line.takeWhile (· != 0x3A), trimGaps value⟩

/-- The status on the first line of a head. -/
def readStatus? (line : List UInt8) : Option Status :=
  match (line.dropWhile (· != 0x20)).drop 1 with
  | a :: b :: c :: _ => do
    let ds ← [a, b, c].mapM fun b =>
      if 0x30 ≤ b ∧ b ≤ 0x39 then some (Char.ofNat b.toNat) else none
    Status.ofNat? (value ds)
  | _ => none

/-- The size at the beginning of a line. -/
def readSize? (base : Nat) (line : List UInt8) : Option Nat :=
  match (line.map Text.hexValue?).takeWhile fun d => d.any (· < base) with
  | [] => none
  | ds => some (ds.foldl (fun n d => n * base + d.getD 0) 0)

/-- A body that comes in pieces, of which there are at most `fuel`. -/
def readPieces : Nat → List UInt8 → Option (List UInt8)
  | 0, _ => none
  | fuel + 1, bytes =>
    let line := bytes.takeWhile (· != 0x0A)
    match readSize? 16 line, bytes.dropWhile (· != 0x0A) with
    | some 0, _ => some []
    | some size, _ :: rest =>
      let next := ((rest.drop size).dropWhile (· != 0x0A)).drop 1
      if rest.length < size then none
      else (rest.take size ++ ·) <$> readPieces fuel next
    | _, _ => none

/-- The body of an answer, if it arrived completely. -/
def readBody (status : Status) (headers : List Header) (bytes : List UInt8) :
    Option (List UInt8) :=
  if status.code = 204 ∨ status.code = 304 then some []
  else if (firstTextOf? "transfer-encoding" headers).isSome then
    readPieces (bytes.length + 1) bytes
  else
    match (headers.find? (·.isNamed "content-length")).bind fun h => readSize? 10 h.value with
    | some size => if bytes.length < size then none else some (bytes.take size)
    | none => some bytes

/-- The answer that some bytes are; up to `fuel` notices may stand before it. -/
def Response.decodeFrom? : Nat → List UInt8 → Option Response
  | 0, _ => none
  | fuel + 1, bytes => do
    let (lines, rest) ← splitHead [] [] bytes
    let status ← readStatus? (lines.head?.getD [])
    if status.code < 200 then decodeFrom? fuel rest
    else
      let headers := lines.tail.filterMap readHeader?
      return ⟨status, headers, readBody status headers rest⟩

/-- The answer that some bytes are. -/
def Response.decode? (bytes : List UInt8) : Option Response :=
  decodeFrom? (bytes.length + 1) bytes

end BadgeEntry.Http
