import BadgeEntry.Text.Utf8

/-!
# Percent codes

A byte that must not stand for itself is written as a percent sign and two
hexadecimal digits.  Which characters stand for themselves depends on the place,
so the writer takes the set of those that do not; characters outside ASCII never
do.  A percent sign that no two digits follow is read as itself.

## Main definitions

* `percentByte` — one byte, with upper-case digits.
* `percentEncode` — a text, given the ASCII characters to be coded.
* `percentDecode` — the bytes of a text.

## Main results

* `percentDecode_percentByte` — a coded byte is read back.
-/

namespace BadgeEntry.Text

/-- The upper-case digit of a number below sixteen. -/
def upperHexDigit (n : Nat) : Char :=
  Char.ofNat (if n < 10 then 0x30 + n else 0x37 + n)

/-- The value of a byte as a hexadecimal digit in either case. -/
def hexValue? (b : UInt8) : Option Nat :=
  let n := b.toNat
  if 0x30 ≤ n ∧ n ≤ 0x39 then some (n - 0x30)
  else if 0x41 ≤ n ∧ n ≤ 0x46 then some (n - 0x37)
  else if 0x61 ≤ n ∧ n ≤ 0x66 then some (n - 0x57)
  else none

/-- The code of a byte. -/
def percentByte (b : UInt8) : List Char :=
  ['%', upperHexDigit (b.toNat / 16), upperHexDigit (b.toNat % 16)]

/-- A character, coded if it is in the set or outside ASCII. -/
def percentChar (coded : Char → Bool) (c : Char) : List Char :=
  if c.toNat < 0x80 && !coded c then [c] else (String.utf8EncodeChar c).flatMap percentByte

/-- A text in which the characters of a set and those outside ASCII are coded. -/
def percentEncode (coded : Char → Bool) (cs : List Char) : List Char :=
  cs.flatMap (percentChar coded)

@[simp] theorem percentEncode_nil (coded : Char → Bool) : percentEncode coded [] = [] := rfl

@[simp] theorem percentEncode_cons (coded : Char → Bool) (c : Char) (cs : List Char) :
    percentEncode coded (c :: cs) = percentChar coded c ++ percentEncode coded cs := rfl

/-- The bytes that some bytes stand for. -/
def percentDecode : List UInt8 → List UInt8
  | [] => []
  | [b] => [b]
  | [b, c] => [b, c]
  | b :: c :: d :: rest =>
    if b = 0x25 then
      match hexValue? c, hexValue? d with
      | some high, some low => UInt8.ofNat (high * 16 + low) :: percentDecode rest
      | _, _ => b :: percentDecode (c :: d :: rest)
    else b :: percentDecode (c :: d :: rest)

/-- A byte that is not a percent sign stands for itself. -/
theorem percentDecode_cons_of_ne {b : UInt8} (h : b ≠ 0x25) (rest : List UInt8) :
    percentDecode (b :: rest) = b :: percentDecode rest := by
  match rest with
  | [] => rfl
  | [_] => rfl
  | _ :: _ :: _ => rw [percentDecode, if_neg h]

/-- The digit of a number below sixteen is read back. -/
theorem hexValue?_upperHexDigit {n : Nat} (h : n < 16) :
    hexValue? (UInt8.ofNat (upperHexDigit n).toNat) = some n := by
  have : ∀ n : Fin 16, hexValue? (UInt8.ofNat (upperHexDigit n).toNat) = some n.val := by decide
  exact this ⟨n, h⟩

/-- The digit of a number below sixteen is one byte long. -/
theorem utf8EncodeChar_upperHexDigit {n : Nat} (h : n < 16) :
    String.utf8EncodeChar (upperHexDigit n) = [UInt8.ofNat (upperHexDigit n).toNat] := by
  have : ∀ n : Fin 16,
      String.utf8EncodeChar (upperHexDigit n) = [UInt8.ofNat (upperHexDigit n).toNat] := by decide
  exact this ⟨n, h⟩

/-- A coded byte is read back, whatever follows. -/
theorem percentDecode_percentByte (b : UInt8) (rest : List UInt8) :
    percentDecode (Utf8.encode (percentByte b) ++ rest) = b :: percentDecode rest := by
  have hb : b.toNat < 256 := b.toNat_lt
  have hhigh : b.toNat / 16 < 16 := by omega
  have hlow : b.toNat % 16 < 16 := by omega
  have hpercent : String.utf8EncodeChar '%' = [0x25] := by decide
  simp only [percentByte, Utf8.encode_cons, Utf8.encode_nil, hpercent,
    utf8EncodeChar_upperHexDigit hhigh, utf8EncodeChar_upperHexDigit hlow, List.cons_append,
    List.nil_append, List.append_nil, percentDecode, if_true, hexValue?_upperHexDigit hhigh,
    hexValue?_upperHexDigit hlow]
  rw [show b.toNat / 16 * 16 + b.toNat % 16 = b.toNat by omega, UInt8.ofNat_toNat]

end BadgeEntry.Text
