/-!
# Numbers of fifty-three binary digits

A number with a fraction or an exponent is kept as one of the numbers
`± significand · 2 ^ exponent` with `significand < 2 ^ 53` and
`-1074 ≤ exponent ≤ 971`.  The significand is at least `2 ^ 52` unless the
exponent is the least one, so that each number is written in one way.  Zero has
both signs.

A fraction is rounded to the nearest number, and of two equally near ones to the
one with the even significand.  Products and quotients are rounded in this way as
well; they are computed on natural numbers, so no step rounds but the last.

A decimal is read with more than one rounding.  Its digits are rounded, and the
number that comes of them is multiplied or divided by a power of ten, which is
rounded too.  What comes out is close to the decimal and mostly the nearest number,
but not always: `3e23` is read as the number below the nearest one, and there are
decimals just inside the range of the numbers that are taken for too large.

## Main definitions

* `Binary64` — sign, significand and exponent.
* `roundDiv` — a quotient rounded to the nearest natural number, a half to even.
* `nearest?` — the number nearest to a fraction, if it is not too large.
* `times?`, `over?` — products and quotients.
* `raise?`, `lower?` — products with powers of ten, and quotients by them.
* `ofDecimal?` — the number that `digits · 10 ^ scale` is read as.
-/

namespace BadgeEntry.Decimal

/-- The number `± significand · 2 ^ exponent`. -/
structure Binary64 where
  /-- Whether the sign is a minus. -/
  negative : Bool
  /-- The binary digits, as a natural number below `2 ^ 53`. -/
  significand : Nat
  /-- The weight of the last binary digit. -/
  exponent : Int
  deriving DecidableEq, Repr, Inhabited

namespace Binary64

/-- The least significand that has all fifty-three binary digits, `2 ^ 52`. -/
def fullSignificand : Nat := 0x10000000000000

/-- The least exponent. -/
def leastExponent : Int := -1074

/-- The greatest exponent. -/
def greatestExponent : Int := 971

/-- Zero with a sign. -/
def zero (negative : Bool) : Binary64 :=
  ⟨negative, 0, leastExponent⟩

/-- The one way in which each number is written. -/
def Canonical (x : Binary64) : Prop :=
  x.significand < 2 * fullSignificand ∧ leastExponent ≤ x.exponent ∧ x.exponent ≤ greatestExponent ∧
    (fullSignificand ≤ x.significand ∨ x.exponent = leastExponent)

theorem canonical_zero (negative : Bool) : (zero negative).Canonical := by
  simp [zero, Canonical, fullSignificand, leastExponent, greatestExponent]

/-- `num / den` rounded to the nearest natural number, a half to the even one. -/
def roundDiv (num den : Nat) : Nat :=
  let low := num / den
  let rest := num % den
  if 2 * rest < den then low
  else if den < 2 * rest then low + 1
  else if low % 2 = 0 then low else low + 1

/-- The fraction `num / den / 2 ^ e`. -/
def scaled (num den : Nat) (e : Int) : Nat × Nat :=
  (num * Nat.pow 2 (-e).toNat, den * Nat.pow 2 e.toNat)

/-- The weight of the last of the fifty-three binary digits of `num / den`, or
the least weight there is. -/
def weight (num den : Nat) : Int :=
  let guess : Int := (num.log2 : Int) - den.log2 - 52
  let (n, d) := scaled num den guess
  max (if n / d < fullSignificand then guess - 1 else guess) leastExponent

/-- The number nearest to `± num / den`; `none` when that is beyond the greatest
number. -/
def nearest? (negative : Bool) (num den : Nat) : Option Binary64 :=
  if num = 0 then some (zero negative)
  else
    let e := weight num den
    let (n, d) := scaled num den e
    let m := roundDiv n d
    let (m, e) := if m = 2 * fullSignificand then (fullSignificand, e + 1) else (m, e)
    if e ≤ greatestExponent then some ⟨negative, m, e⟩ else none

/-! ### Products and quotients -/

/-- The product of two numbers, rounded. -/
def times? (x y : Binary64) : Option Binary64 :=
  let e := x.exponent + y.exponent
  nearest? (x.negative != y.negative) (x.significand * y.significand * Nat.pow 2 e.toNat)
    (Nat.pow 2 (-e).toNat)

/-- The quotient of two numbers, rounded. -/
def over? (x y : Binary64) : Option Binary64 :=
  let e := x.exponent - y.exponent
  nearest? (x.negative != y.negative) (x.significand * Nat.pow 2 e.toNat)
    (y.significand * Nat.pow 2 (-e).toNat)

/-! ### Decimals -/

/-- The exponent of the greatest power of ten that is a number. -/
def greatestPower : Nat := 308

/-- The number nearest to `10 ^ k`. -/
def tenPower? (k : Nat) : Option Binary64 :=
  nearest? false (Nat.pow 10 k) 1

/-- `x` multiplied by the number nearest to `10 ^ k`. -/
def raise? (x : Binary64) (k : Nat) : Option Binary64 :=
  if k ≤ greatestPower then (tenPower? k).bind x.times?
  else if x.significand = 0 then some x
  else none

/-- `x` divided `n` times by the greatest power of ten, as long as anything is
left of it. -/
def shrink? : Nat → Binary64 → Option Binary64
  | 0, x => some x
  | n + 1, x =>
    if x.significand = 0 then some x
    else (tenPower? greatestPower).bind fun p => (x.over? p).bind (shrink? n)

/-- `x` divided by the number nearest to `10 ^ k`.  Powers of ten that are no
numbers are divided by in steps. -/
def lower? (x : Binary64) (k : Nat) : Option Binary64 :=
  let steps := (k - 1) / greatestPower
  (x.shrink? steps).bind fun y => (tenPower? (k - steps * greatestPower)).bind y.over?

/-- The number that `± digits · 10 ^ scale` is read as: the digits are rounded, and
then the product or quotient with a power of ten.  `none` when that is beyond the
greatest number. -/
def ofDecimal? (negative : Bool) (digits : Nat) (scale : Int) : Option Binary64 :=
  (nearest? negative digits 1).bind fun x =>
    if 0 ≤ scale then x.raise? scale.toNat else x.lower? (-scale).toNat

end Binary64

end BadgeEntry.Decimal
