import BadgeEntry.Decimal.Shortest
import BadgeEntry.Text.Entries

/-!
# JSON values

Numbers come in two kinds.  A whole number that fits in sixty-four bits, with or
without a sign, is kept exactly; every other number, and negative zero, is kept
as a binary number, which need not be the nearest one.  The members of an object
are listed in the order of their names, each name once.

## Main definitions

* `Number`, `Number.text` — numbers and how they are written.
* `Value` — values.
* `Value.member?` — the member of an object with a given name.
* `Value.depth` — how many brackets are open at the deepest place.
-/

namespace BadgeEntry.Json

open Decimal

/-- A number. -/
inductive Number where
  /-- A whole number of at most sixty-four bits. -/
  | integer (n : Int)
  /-- Any other number. -/
  | real (x : Binary64)
  deriving DecidableEq, Repr, Inhabited

/-- A number as it is written. -/
def Number.text : Number → List Char
  | .integer n => ofInt n
  | .real x => x.text

/-- A value. -/
inductive Value where
  /-- The value `null`. -/
  | null
  /-- A truth value. -/
  | bool (b : Bool)
  /-- A number. -/
  | number (n : Number)
  /-- A text. -/
  | text (s : String)
  /-- A list of values. -/
  | array (items : List Value)
  /-- Named values in the order of their names. -/
  | object (members : List (String × Value))
  deriving Repr, Inhabited

/-- The members of an object. -/
abbrev Members := List (String × Value)

/-- The member called `name`, if the value is an object that has one. -/
def Value.member? (name : String) : Value → Option Value
  | .object members => Entries.get? name members
  | _ => none

mutual

/-- How many brackets are open at the deepest place of a value. -/
def Value.depth : Value → Nat
  | .array items => Value.itemsDepth items + 1
  | .object members => Value.membersDepth members + 1
  | _ => 0

/-- The greatest depth among some values. -/
def Value.itemsDepth : List Value → Nat
  | [] => 0
  | v :: rest => max v.depth (Value.itemsDepth rest)

/-- The greatest depth among some members. -/
def Value.membersDepth : List (String × Value) → Nat
  | [] => 0
  | (_, v) :: rest => max v.depth (Value.membersDepth rest)

end

end BadgeEntry.Json
