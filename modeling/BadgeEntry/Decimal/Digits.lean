/-!
# Decimal digits

Whole numbers are written without leading zeros, a negative one with a minus
sign in front.

## Main definitions

* `digits` — the digits of a natural number.
* `value` — the number that some digits write.
* `ofInt` — a whole number with its sign.
* `text` — a natural number as a string.

## Main results

* `value_digits` — reading undoes writing.
-/

namespace BadgeEntry.Decimal

/-- The digits of `n`, the highest first. -/
def digits (n : Nat) : List Char :=
  Nat.toDigits 10 n

/-- The number written by `ds`. -/
def value (ds : List Char) : Nat :=
  Nat.ofDigitChars 10 ds 0

@[simp] theorem value_digits (n : Nat) : value (digits n) = n :=
  Nat.ofDigitChars_toDigits (by decide) (by decide)

theorem digits_ne_nil (n : Nat) : digits n ≠ [] :=
  Nat.toDigits_ne_nil

theorem isDigit_of_mem_digits {n : Nat} {c : Char} (h : c ∈ digits n) : c.isDigit = true :=
  Nat.isDigit_of_mem_toDigits (by decide) (by decide) h

/-- A whole number with its sign. -/
def ofInt : Int → List Char
  | .ofNat n => digits n
  | .negSucc n => '-' :: digits (n + 1)

/-- A natural number as a string. -/
def text (n : Nat) : String :=
  String.ofList (digits n)

end BadgeEntry.Decimal
