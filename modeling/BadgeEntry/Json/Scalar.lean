import BadgeEntry.Json.Fault

/-!
# Reading words, numbers and texts

The readers of this module take the characters that are left and return what
they read with the characters left after it.

## Main definitions

* `skipBlanks` — leaves out space, tab, line feed and carriage return.
* `readWord` — the rest of `true`, `false` or `null`.
* `keptDecimal` — the digits of a number that are computed with.
* `readNumber` — a number after its sign.
* `readText` — a text after its opening quote.
-/

namespace BadgeEntry.Json

open Decimal

/-- What a reader of an `α` does with the characters that are left. -/
abbrev Reader (α : Type) := List Char → Except Stop (α × List Char)

/-- Whether `c` may stand between the parts of a JSON text. -/
def isJsonBlank (c : Char) : Bool :=
  c == ' ' || c == '\t' || c == '\n' || c == '\r'

/-- The text from its first character that is not blank. -/
def skipBlanks (cs : List Char) : List Char :=
  cs.dropWhile isJsonBlank

/-- The characters after `word`, if it stands here. -/
def readWord : List Char → List Char → Except Stop (List Char)
  | [], rest => .ok rest
  | _ :: _, [] => stopBefore .unfinishedValue []
  | w :: ws, c :: rest =>
    if c = w then readWord ws rest else stopWithin .expectedWord (c :: rest)

/-! ### Numbers -/

/-- The greatest exponent that is computed with. -/
def exponentLimit : Nat := 0x7FFFFFFF

/-- What follows the digit with which the digits `ds`, after the number `n`,
exceed `exponentLimit`. -/
def beyond? (n : Nat) : List Char → Option (List Char)
  | [] => none
  | d :: ds =>
    if d.isDigit then
      let m := n * 10 + (d.toNat - '0'.toNat)
      if exponentLimit < m then some ds else beyond? m ds
    else none

/-- The number `n` with the digits `ds` behind it, as far as sixty-four bits hold it,
and how many of the digits these are. -/
def keepDigits (n : Nat) : List Char → Nat × Nat
  | [] => (n, 0)
  | d :: ds =>
    let m := n * 10 + (d.toNat - '0'.toNat)
    if m < UInt64.size then
      let (kept, count) := keepDigits m ds
      (kept, count + 1)
    else (n, 0)

/-- What is computed with of a decimal, which has the digits `whole` before its point
and `fraction` behind it.  Whole digits that are not kept count as zeros.  The fraction
goes on behind those that are kept, and its other digits are left out. -/
def keptDecimal (whole fraction : List Char) : Scaled :=
  let (n, wholes) := keepDigits 0 whole
  let (m, places) := keepDigits n fraction
  ⟨m, whole.length - wholes - places⟩

/-- The binary number that `± significand · 10 ^ scale` is read as, with `rest` after
it. -/
def closeReal (negative : Bool) (significand : Nat) (scale : Int) (rest : List Char) :
    Except Stop (Number × List Char) :=
  match Binary64.ofDecimal? negative significand scale with
  | some x => .ok (.real x, rest)
  | none => stopBefore .numberTooLarge rest

/-- The digits of an exponent, after its sign.  An exponent beyond the limit
leaves only zero, or is too large. -/
def readExponentDigits (negative : Bool) (significand : Nat) (scale : Int) (down : Bool)
    (cs : List Char) : Except Stop (Number × List Char) :=
  match cs with
  | [] => stopBefore .unfinishedValue []
  | c :: _ =>
    if !c.isDigit then stopWithin .badNumber cs
    else
      let rest := cs.dropWhile Char.isDigit
      match beyond? 0 cs with
      | some left =>
        if significand ≠ 0 ∧ !down then stopBefore .numberTooLarge left
        else .ok (.real (Binary64.zero negative), rest)
      | none =>
        let e : Int := value (cs.takeWhile Char.isDigit)
        closeReal negative significand (if down then scale - e else scale + e) rest

/-- An exponent, after its letter. -/
def readExponent (negative : Bool) (significand : Nat) (scale : Int) (cs : List Char) :
    Except Stop (Number × List Char) :=
  match cs with
  | '+' :: rest => readExponentDigits negative significand scale false rest
  | '-' :: rest => readExponentDigits negative significand scale true rest
  | rest => readExponentDigits negative significand scale false rest

/-- The digits after a decimal point that follows the digits `whole`. -/
def readFraction (negative : Bool) (whole : List Char) (cs : List Char) :
    Except Stop (Number × List Char) :=
  let ds := cs.takeWhile Char.isDigit
  let rest := cs.dropWhile Char.isDigit
  if ds.isEmpty then
    match rest with
    | [] => stopBefore .unfinishedValue []
    | _ => stopWithin .badNumber rest
  else
    let d := keptDecimal whole ds
    match rest with
    | 'e' :: tail => readExponent negative d.coefficient d.exponent tail
    | 'E' :: tail => readExponent negative d.coefficient d.exponent tail
    | _ => closeReal negative d.coefficient d.exponent rest

/-- The whole number with the digits `whole`, and `rest` after it.  Negative zero and
numbers of more than sixty-four bits are not kept as whole numbers. -/
def closeInteger (negative : Bool) (whole rest : List Char) :
    Except Stop (Number × List Char) :=
  let n := value whole
  let d := keptDecimal whole []
  if negative then
    if 0 < n ∧ n ≤ 0x8000000000000000 then .ok (.integer (-n), rest)
    else closeReal true d.coefficient d.exponent rest
  else if n < UInt64.size then .ok (.integer n, rest)
  else closeReal false d.coefficient d.exponent rest

/-- What may follow the digits `whole` before a decimal point. -/
def readAfterWhole (negative : Bool) (whole rest : List Char) :
    Except Stop (Number × List Char) :=
  let d := keptDecimal whole []
  match rest with
  | '.' :: tail => readFraction negative whole tail
  | 'e' :: tail => readExponent negative d.coefficient d.exponent tail
  | 'E' :: tail => readExponent negative d.coefficient d.exponent tail
  | _ => closeInteger negative whole rest

/-- A number after its sign.  A leading zero is not followed by a digit. -/
def readNumber (negative : Bool) (cs : List Char) : Except Stop (Number × List Char) :=
  match cs with
  | [] => stopBefore .unfinishedValue []
  | c :: rest =>
    if c = '0' then
      match rest with
      | d :: _ => if d.isDigit then stopWithin .badNumber rest
                  else readAfterWhole negative ['0'] rest
      | [] => readAfterWhole negative ['0'] rest
    else if c.isDigit then
      readAfterWhole negative (cs.takeWhile Char.isDigit) (cs.dropWhile Char.isDigit)
    else stopWithin .badNumber cs

/-! ### Texts -/

/-- The value of a hexadecimal digit. -/
def hexDigit? (c : Char) : Option Nat :=
  if '0' ≤ c ∧ c ≤ '9' then some (c.toNat - '0'.toNat)
  else if 'a' ≤ c ∧ c ≤ 'f' then some (c.toNat - 'a'.toNat + 10)
  else if 'A' ≤ c ∧ c ≤ 'F' then some (c.toNat - 'A'.toNat + 10)
  else none

/-- The number written by the four hexadecimal digits at the front.  Four bytes
are consumed before they are looked at. -/
def hexFour (cs : List Char) : Except Stop Nat :=
  if Utf8.size (cs.take 4) < 4 then .error ⟨.unfinishedText, 0⟩
  else
    let number := match cs with
      | a :: b :: c :: d :: _ => do
        return ((← hexDigit? a) * 16 + (← hexDigit? b)) * 256 + (← hexDigit? c) * 16 +
          (← hexDigit? d)
      | _ => none
    match number with
    | some n => .ok n
    | none => .error ⟨.badEscape, Utf8.size cs - 4⟩

/-- Whether `n` is the second half of a pair. -/
def isLowSurrogate (n : Nat) : Bool := 0xDC00 ≤ n && n ≤ 0xDFFF

/-- Whether `n` is the first half of a pair. -/
def isHighSurrogate (n : Nat) : Bool := 0xD800 ≤ n && n ≤ 0xDBFF

/-- The second escape of a pair that began with `high`, and the number of
characters of both, counted from the letter of the first. -/
def lowEscape (high : Nat) (cs : List Char) : Except Stop (Char × Nat) :=
  match cs with
  | [] => stopBefore .unfinishedText []
  | '\\' :: [] => stopBefore .unfinishedText []
  | '\\' :: 'u' :: rest => do
    let low ← hexFour rest
    if isLowSurrogate low then
      return (Char.ofNat (0x10000 + (high - 0xD800) * 0x400 + (low - 0xDC00)), 11)
    else stopBefore .loneSurrogate (rest.drop 4)
  | '\\' :: rest => stopWithin .unfinishedEscape rest
  | rest => stopWithin .unfinishedEscape rest

/-- An escape by number, after its letter, and the number of characters it
takes, counted from the letter. -/
def numberEscape (cs : List Char) : Except Stop (Char × Nat) := do
  let n ← hexFour cs
  if isLowSurrogate n then stopBefore .loneSurrogate (cs.drop 4)
  else if isHighSurrogate n then lowEscape n (cs.drop 4)
  else return (Char.ofNat n, 5)

/-- The character of an escape, after the backslash, and the number of
characters it takes. -/
def escape (cs : List Char) : Except Stop (Char × Nat) :=
  match cs with
  | [] => stopBefore .unfinishedText []
  | '"' :: _ => .ok ('"', 1)
  | '\\' :: _ => .ok ('\\', 1)
  | '/' :: _ => .ok ('/', 1)
  | 'b' :: _ => .ok ('\x08', 1)
  | 'f' :: _ => .ok ('\x0c', 1)
  | 'n' :: _ => .ok ('\n', 1)
  | 'r' :: _ => .ok ('\r', 1)
  | 't' :: _ => .ok ('\t', 1)
  | 'u' :: rest => numberEscape rest
  | rest => stopWithin .badEscape rest

/-- The characters of a text up to its closing quote, after `skip` characters
that belong to an escape. -/
def readTextFrom (skip : Nat) : Reader (List Char)
  | [] => stopBefore .unfinishedText []
  | c :: rest =>
    match skip with
    | skip + 1 => readTextFrom skip rest
    | 0 =>
      if c = '"' then .ok ([], rest)
      else if c = '\\' then do
        let (ch, taken) ← escape rest
        let (chars, left) ← readTextFrom taken rest
        return (ch :: chars, left)
      else if c.toNat < 0x20 then stopBefore .controlCharacter rest
      else do
        let (chars, left) ← readTextFrom 0 rest
        return (c :: chars, left)

/-- A text after its opening quote. -/
def readText (cs : List Char) : Except Stop (String × List Char) := do
  let (chars, rest) ← readTextFrom 0 cs
  return (String.ofList chars, rest)

end BadgeEntry.Json
