import BadgeEntry.Decimal.Binary64
import BadgeEntry.Decimal.Digits

/-!
# The shortest decimal of a binary number

A binary number stands for all the reals that round to it.  Its decimal text is
the shortest one that names a real among them, and of those the nearest to the
number itself.  Seventeen digits always suffice.

The search goes through the grids `… 10 ^ 2, 10, 1, 10 ^ -1, …` from a coarse one
to finer ones.  If any point of a grid lies in the interval, then one of the two
neighbours of the number on that grid does, so only these two are tried.

The text is positional when the number is at least `10 ^ -5` and below
`10 ^ 16`, with `.0` for a whole number, and otherwise has an exponent with its
sign: `1e+16`, `1.5e-7`.

## Main definitions

* `Binary64.shortest` — the digits and the weight of the last one.
* `Layout`, `Layout.render` — where positional text ends.
* `Binary64.text` — the text of a number.
-/

namespace BadgeEntry.Decimal

/-- The number `coefficient · 10 ^ exponent`. -/
structure Scaled where
  /-- The digits, as a natural number. -/
  coefficient : Nat
  /-- The weight of the last digit. -/
  exponent : Int
  deriving DecidableEq, Repr, Inhabited

namespace Binary64

/-- The ends of the interval of reals that round to `x`, and `x` itself between
them, in units of a quarter of its last binary digit.  Below the least number
of a binary order the spacing is half of that above it. -/
def ends (x : Binary64) : Nat × Nat × Nat :=
  let m := 4 * x.significand
  let low := if x.significand = fullSignificand ∧ leastExponent < x.exponent then m - 1 else m - 2
  (low, m, m + 2)

/-- The better of the two neighbours of `x` on the grid of weight `10 ^ k`, if
one of them rounds to `x`.  The ends of the interval round to `x` exactly when
its significand is even. -/
def onGrid (x : Binary64) (k : Int) : Option Nat :=
  let (low, m, high) := x.ends
  -- `m · num / den` is the number in units of the grid
  let num := Nat.pow 2 (x.exponent - 2).toNat * Nat.pow 10 (-k).toNat
  let den := Nat.pow 2 (2 - x.exponent).toNat * Nat.pow 10 k.toNat
  let hits (c : Nat) : Bool :=
    if x.significand % 2 = 0 then low * num ≤ c * den && c * den ≤ high * num
    else low * num < c * den && c * den < high * num
  let below := m * num / den
  let gap := m * num - below * den
  match hits below, hits (below + 1) with
  | true, false => some below
  | false, true => some (below + 1)
  | false, false => none
  | true, true =>
    if 2 * gap < den then some below
    else if den < 2 * gap then some (below + 1)
    else if below % 2 = 0 then some below else some (below + 1)

/-- The first hit on the grids of weight `10 ^ k`, `10 ^ (k - 1)`, …. -/
def search (x : Binary64) : Nat → Int → Scaled
  | 0, k => ⟨0, k⟩
  | fuel + 1, k =>
    match x.onGrid k with
    | some c => ⟨c, k⟩
    | none => search x fuel (k - 1)

/-- The shortest decimal that rounds to `x`.  The first grid is not finer than
the highest digit of `x`; the seventeen digits below it end the search. -/
def shortest (x : Binary64) : Scaled :=
  let bits : Int := x.significand.log2 + x.exponent + 1
  search x 20 (bits * 30103 / 100000 + 1)

end Binary64

/-! ### The text -/

/-- Where positional text begins and ends: the weights of the highest digit
between which no exponent is written. -/
structure Layout where
  /-- The least weight of the highest digit in positional text. -/
  least : Int
  /-- The greatest weight of the highest digit in positional text. -/
  greatest : Int

/-- Numbers are positional from `10 ^ -5` up to, and without, `10 ^ 16`. -/
def layout : Layout := ⟨-5, 15⟩

/-- Text without an exponent, for digits whose highest one has weight `top`. -/
def positional (ds : List Char) (top : Int) : List Char :=
  if top < 0 then '0' :: '.' :: (List.replicate (-top - 1).toNat '0' ++ ds)
  else
    let whole := top.toNat + 1
    let fraction := ds.drop whole
    ds.take whole ++ List.replicate (whole - ds.length) '0' ++
      '.' :: (if fraction.isEmpty then ['0'] else fraction)

/-- Text with an exponent. -/
def scientific (ds : List Char) (top : Int) : List Char :=
  let mantissa := match ds with
    | [] => []
    | [d] => [d]
    | d :: rest => d :: '.' :: rest
  mantissa ++ 'e' :: (if top < 0 then '-' else '+') :: digits top.natAbs

/-- The text of a positive decimal. -/
def Layout.render (form : Layout) (d : Scaled) : List Char :=
  let ds := digits d.coefficient
  let top : Int := ds.length - 1 + d.exponent
  if form.least ≤ top ∧ top ≤ form.greatest then positional ds top else scientific ds top

/-- The text of a binary number: the shortest decimal that rounds to it. -/
def Binary64.text (x : Binary64) : List Char :=
  let sign := if x.negative then ['-'] else []
  if x.significand = 0 then sign ++ ['0', '.', '0']
  else sign ++ layout.render x.shortest

end BadgeEntry.Decimal
