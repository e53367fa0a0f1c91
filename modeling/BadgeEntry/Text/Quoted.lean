import BadgeEntry.Text.Printable

/-!
# Quoted text

A text quoted inside a message stands between double quotes.  The quote and the
backslash are escaped, line breaks, tab and null have short escapes, and every
other hidden character is written by its number.

## Main definitions

* `quoteChar` — one character inside the quotes.
* `quoted` — the whole text with its quotes.
-/

namespace BadgeEntry.Text

/-- The number of `c` in lower-case hexadecimal. -/
def hexNumber (c : Char) : List Char :=
  Nat.toDigits 16 c.toNat

/-- One character between quotes. -/
def quoteChar (c : Char) : List Char :=
  if c = '"' then ['\\', '"']
  else if c = '\\' then ['\\', '\\']
  else if c = '\n' then ['\\', 'n']
  else if c = '\r' then ['\\', 'r']
  else if c = '\t' then ['\\', 't']
  else if c = '\x00' then ['\\', '0']
  else if isPrintable c then [c]
  else ['\\', 'u', '\x7b'] ++ hexNumber c ++ ['\x7d']

/-- The text between double quotes. -/
def quoted (s : String) : String :=
  String.ofList ('"' :: s.toList.flatMap quoteChar ++ ['"'])

end BadgeEntry.Text
