/-!
# Names in ASCII letters

A label with characters beyond ASCII is written with ASCII letters, digits and dashes
alone: first its own ASCII characters and a dash behind them, if it has any, and then
a code for the others.  The code is a row of numbers, one for each of them in
ascending order.  A number counts how many insertions are passed over, if after the
last one a character is tried at every place of the text, and then the next character
at every place.

The digits of a number have weights that grow by factors which follow the size of the
number before it; the lowest digit comes first, and one below its threshold is the
last.

## Main definitions

* `Decoder` — the text so far, and what the next number is read with.
* `Decoder.insert?` — the insertion that a number stands for.
* `decodeText?` — the text that ASCII letters stand for.
-/

namespace BadgeEntry.Domain

/-- The text so far, and what the next number is read with. -/
structure Decoder where
  /-- The text. -/
  text : List Char
  /-- The code point that is tried at present. -/
  codePoint : Nat
  /-- The first place that is to be tried. -/
  place : Nat
  /-- The position of the first digit whose threshold is not the lowest one. -/
  bias : Nat
  deriving Repr

/-- Numbers and weights are smaller. -/
def numberLimit : Nat := UInt32.size

/-- The most letters that a code has. -/
def codeLimit : Nat := 2000

/-- The number of digits. -/
def codeBase : Nat := 36

/-- The value of a digit. -/
def codeDigit? (c : Char) : Option Nat :=
  if 'a' ≤ c ∧ c ≤ 'z' then some (c.toNat - 0x61)
  else if 'A' ≤ c ∧ c ≤ 'Z' then some (c.toNat - 0x41)
  else if '0' ≤ c ∧ c ≤ '9' then some (c.toNat - 0x30 + 26)
  else none

/-- The threshold of a digit; `position` is 36 times its number, counted from 1. -/
def threshold (position bias : Nat) : Nat :=
  min 26 (max 1 (position - bias))

/-- Divides a number by 35 until it is at most 455, and how often, times 36. -/
def scaleDown (delta scaled : Nat) : Nat × Nat :=
  if delta ≤ 455 then (delta, scaled) else scaleDown (delta / 35) (scaled + codeBase)
termination_by delta

/-- The bias after a number, with `count` characters in the text then. -/
def nextBias (delta count : Nat) (first : Bool) : Nat :=
  let damped := if first then delta / 700 else delta / 2
  let (delta, scaled) := scaleDown (damped + damped / count) 0
  scaled + codeBase * delta / (delta + 38)

/-- The insertion that a number stands for; `none` if there is no such character.
The number is given together with the place at which the count starts. -/
def Decoder.insert? (s : Decoder) (index : Nat) : Option Decoder :=
  let count := s.text.length + 1
  let codePoint := s.codePoint + index / count
  let place := index % count
  if codePoint.isValidChar then
    some
      { text := s.text.insertIdx place (Char.ofNat codePoint)
        codePoint := codePoint
        place := place + 1
        bias := nextBias (index - s.place) count (s.place = 0) }
  else none

/-- Reads numbers: `index` is the number so far, and the next digit has the weight
`weight` and the position `position`. -/
def Decoder.run (s : Decoder) (index weight position : Nat) : List Char → Option (List Char)
  | [] => if position = codeBase then some s.text else none
  | c :: rest => do
    let digit ← codeDigit? c
    let index := index + digit * weight
    let low := threshold position s.bias
    if numberLimit ≤ index then none
    else if digit < low then
      let s ← s.insert? index
      s.run s.place 1 codeBase rest
    else if numberLimit ≤ weight * (codeBase - low) then none
    else s.run index (weight * (codeBase - low)) (position + codeBase) rest

/-- The ASCII characters of a label and the code for the others.  A dash at the very
front is not one that ends the ASCII characters. -/
def splitCode (cs : List Char) : List Char × List Char :=
  let code := (cs.reverse.takeWhile (· ≠ '-')).reverse
  let ascii := cs.take (cs.length - code.length - 1)
  if ascii.isEmpty then ([], cs) else (ascii, code)

/-- The text that ASCII letters stand for. -/
def decodeText? (cs : List Char) : Option (List Char) :=
  if codeLimit < cs.length then none
  else
    let (ascii, code) := splitCode cs
    Decoder.run ⟨ascii, 0x80, 0, 72⟩ 0 1 codeBase code

end BadgeEntry.Domain
