import BadgeEntry.Json.Reader
import Mathlib.Algebra.Group.Nat.Defs

/-!
# What a JSON text says

The grammar of JSON as relations between what is written and what it stands for, with nothing
of how it is read: each relation has one constructor for each way of writing.  Values are
written with an allowance of brackets that may be open inside them, and an object stands for the
entries that its members leave when they are entered one after the other.

A number without a fraction and an exponent is whole if it fits into sixty-four bits.  Every
other number is the binary one that comes of its first digits, as many as sixty-four bits hold,
and there must be one.

## Main definitions

* `SpellsNumber`, `SpellsText` — numbers behind their sign, texts between their quotes.
* `Enclosed` — the elements between two brackets.
* `Spells` — values with an allowance of brackets.
* `IsObject` — texts that are objects.
-/

namespace BadgeEntry.Json

open Decimal

/-- Nothing but blanks. -/
def IsBlank (cs : List Char) : Prop :=
  ∀ c ∈ cs, isJsonBlank c = true

/-! ### Numbers -/

/-- One digit or more. -/
def IsDigits (ds : List Char) : Prop :=
  ds ≠ [] ∧ ∀ d ∈ ds, d.isDigit = true

/-- The digits in front of a decimal point: a zero stands alone. -/
def IsWhole (ds : List Char) : Prop :=
  IsDigits ds ∧ (ds.head? = some '0' → ds = ['0'])

theorem isDigits_zero : IsDigits ['0'] := by
  refine ⟨List.cons_ne_nil _ _, fun d hd => ?_⟩
  obtain rfl := List.mem_singleton.mp hd
  rfl

theorem isWhole_zero : IsWhole ['0'] :=
  ⟨isDigits_zero, fun _ => rfl⟩

/-- A decimal point with digits behind it, and these digits; or nothing. -/
inductive IsFraction : List Char → List Char → Prop
  | none : IsFraction [] []
  | some {ds : List Char} (digits : IsDigits ds) : IsFraction ('.' :: ds) ds

/-- The letter of an exponent. -/
def IsExponentLetter (c : Char) : Prop :=
  c = 'e' ∨ c = 'E'

/-- An exponent with its letter and perhaps a sign, and the number that it is; or nothing. -/
inductive IsExponent : List Char → Int → Prop
  | none : IsExponent [] 0
  | plain {letter : Char} {ds : List Char} (begins : IsExponentLetter letter)
    (digits : IsDigits ds) : IsExponent (letter :: ds) (value ds)
  | up {letter : Char} {ds : List Char} (begins : IsExponentLetter letter)
    (digits : IsDigits ds) : IsExponent (letter :: '+' :: ds) (value ds)
  | down {letter : Char} {ds : List Char} (begins : IsExponentLetter letter)
    (digits : IsDigits ds) : IsExponent (letter :: '-' :: ds) (-value ds)

/-- The number with the digits `ds` that is written without a fraction and an exponent.
Negative zero and what has more than sixty-four bits are binary numbers. -/
def wholeNumber? (negative : Bool) (ds : List Char) : Option Number :=
  let n := value ds
  let d := keptDecimal ds []
  if negative = true ∧ (n = 0 ∨ 2 ^ 63 < n) ∨ negative = false ∧ 2 ^ 64 ≤ n then
    (Binary64.ofDecimal? negative d.coefficient d.exponent).map .real
  else some (.integer (if negative then -n else n))

/-- The number `± significand · 10 ^ (scale + e)` that is written with a fraction or the
exponent `e`.  An exponent beyond the limit is too large, or leaves zero. -/
def decimalNumber? (negative : Bool) (significand : Nat) (scale e : Int) : Option Number :=
  if exponentLimit < e.natAbs then
    if significand = 0 ∨ e < 0 then some (.real (Binary64.zero negative)) else none
  else (Binary64.ofDecimal? negative significand (scale + e)).map .real

/-- Numbers behind their sign. -/
inductive SpellsNumber (negative : Bool) : List Char → Number → Prop
  /-- Digits alone. -/
  | whole {ds : List Char} {n : Number} (digits : IsWhole ds)
    (meant : wholeNumber? negative ds = some n) : SpellsNumber negative ds n
  /-- Digits, and then a fraction, an exponent, or both. -/
  | decimal {ds fs fraction es : List Char} {e : Int} {n : Number} (digits : IsWhole ds)
    (fractional : IsFraction fs fraction) (exponent : IsExponent es e) (more : fs ++ es ≠ [])
    (meant : decimalNumber? negative (keptDecimal ds fraction).coefficient
      (keptDecimal ds fraction).exponent e = some n) :
    SpellsNumber negative (ds ++ (fs ++ es)) n

/-! ### Texts -/

/-- Four hexadecimal digits, and their number. -/
inductive IsHex : List Char → Nat → Prop
  | four {a b c d : Char} {i j k l : Nat} (first : hexDigit? a = some i)
    (second : hexDigit? b = some j) (third : hexDigit? c = some k) (fourth : hexDigit? d = some l) :
    IsHex [a, b, c, d] (((i * 16 + j) * 16 + k) * 16 + l)

/-- The letters of the short escapes with the characters that they stand for. -/
def escapeLetters : List (Char × Char) :=
  [('"', '"'), ('\\', '\\'), ('/', '/'), ('b', '\x08'), ('f', '\x0c'), ('n', '\n'), ('r', '\r'),
   ('t', '\t')]

/-- Escapes behind their backslash, and the characters that they stand for. -/
inductive SpellsEscape : List Char → Char → Prop
  /-- A letter. -/
  | short {letter c : Char} (listed : (letter, c) ∈ escapeLetters) : SpellsEscape [letter] c
  /-- The number of a character. -/
  | number {ds : List Char} {n : Nat} (hex : IsHex ds n) (notHigh : isHighSurrogate n = false)
    (notLow : isLowSurrogate n = false) : SpellsEscape ('u' :: ds) (Char.ofNat n)
  /-- The two halves of a pair for a character beyond sixteen bits. -/
  | pair {ds es : List Char} {high low : Nat} (first : IsHex ds high) (second : IsHex es low)
    (isHigh : isHighSurrogate high = true) (isLow : isLowSurrogate low = true) :
    SpellsEscape ('u' :: (ds ++ '\\' :: 'u' :: es))
      (Char.ofNat (0x10000 + (high - 0xD800) * 0x400 + (low - 0xDC00)))

/-- What stands between two quotes, and the characters that it stands for. -/
inductive SpellsText : List Char → List Char → Prop
  /-- Nothing. -/
  | nil : SpellsText [] []
  /-- A character that stands for itself. -/
  | plain {c : Char} {cs meant : List Char} (notQuote : c ≠ '"') (notEscape : c ≠ '\\')
    (notControl : 0x20 ≤ c.toNat) (rest : SpellsText cs meant) : SpellsText (c :: cs) (c :: meant)
  /-- An escape. -/
  | escape {es : List Char} {c : Char} {cs meant : List Char} (begins : SpellsEscape es c)
    (rest : SpellsText cs meant) : SpellsText ('\\' :: (es ++ cs)) (c :: meant)

/-! ### Values -/

section
variable {α : Type} (E : List Char → α → Prop)

/-- What may follow an element: the other elements, each behind a comma, and blanks. -/
inductive Following : List Char → List α → Prop
  | none {gap : List Char} (blank : IsBlank gap) : Following gap []
  | more {gap before cs rest : List Char} {a : α} {as : List α} (blank : IsBlank gap)
    (leading : IsBlank before) (element : E cs a) (others : Following rest as) :
    Following (gap ++ ',' :: (before ++ (cs ++ rest))) (a :: as)

/-- What may stand between two brackets: elements with commas between them, or just blanks. -/
inductive Enclosed : List Char → List α → Prop
  | none {gap : List Char} (blank : IsBlank gap) : Enclosed gap []
  | some {before cs rest : List Char} {a : α} {as : List α} (leading : IsBlank before)
    (element : E cs a) (others : Following E rest as) : Enclosed (before ++ (cs ++ rest)) (a :: as)

end

/-- A name, a colon, and a value of some kind. -/
inductive SpellsMember (V : List Char → Value → Prop) : List Char → String × Value → Prop
  | mk {written meant gap before cs : List Char} {v : Value} (name : SpellsText written meant)
    (blank : IsBlank gap) (leading : IsBlank before) (named : V cs v) :
    SpellsMember V ('"' :: (written ++ '"' :: (gap ++ ':' :: (before ++ cs))))
      (String.ofList meant, v)

/-- Values without brackets. -/
inductive SpellsFlat : List Char → Value → Prop
  | null : SpellsFlat ['n', 'u', 'l', 'l'] .null
  | yes : SpellsFlat ['t', 'r', 'u', 'e'] (.bool true)
  | no : SpellsFlat ['f', 'a', 'l', 's', 'e'] (.bool false)
  | number {cs : List Char} {n : Number} (unsigned : SpellsNumber false cs n) :
    SpellsFlat cs (.number n)
  | negative {cs : List Char} {n : Number} (signed : SpellsNumber true cs n) :
    SpellsFlat ('-' :: cs) (.number n)
  | text {written meant : List Char} (between : SpellsText written meant) :
    SpellsFlat ('"' :: (written ++ ['"'])) (.text (String.ofList meant))

/-- Values with elements of some kind; the last value of a name counts. -/
inductive SpellsWithin (V : List Char → Value → Prop) : List Char → Value → Prop
  | flat {cs : List Char} {v : Value} (unbracketed : SpellsFlat cs v) : SpellsWithin V cs v
  | array {cs : List Char} {vs : List Value} (items : Enclosed V cs vs) :
    SpellsWithin V ('[' :: (cs ++ [']'])) (.array vs)
  | object {cs : List Char} {ms : Members} (members : Enclosed (SpellsMember V) cs ms) :
    SpellsWithin V ('\x7b' :: (cs ++ ['\x7d'])) (.object (Entries.ofPairs ms))

/-- Values in which at most `allowance` brackets are open at once. -/
def Spells : Nat → List Char → Value → Prop
  | 0 => SpellsFlat
  | allowance + 1 => SpellsWithin (Spells allowance)

/-- Whether a text is an object, with blanks around it, in which no more brackets are open at
once than there may be; `pairs` are its members as they are written. -/
inductive IsObject (text : String) (pairs : Members) : Prop
  | mk {before cs after : List Char} (leading : IsBlank before) (trailing : IsBlank after)
    (members : Enclosed (SpellsMember (Spells (bracketLimit - 1))) cs pairs)
    (whole : text.toList = before ++ '\x7b' :: (cs ++ '\x7d' :: after))

end BadgeEntry.Json
