import BadgeEntry.Json.Value

/-!
# Compact JSON text

Values are written without blanks.  In a text the quote and the backslash are
escaped, and so are the characters below the space: five of them have short
escapes, the others are written by number.  Everything else stands for itself.

## Main definitions

* `writeChar`, `writeText` — texts.
* `write` — values.
* `Value.render` — the text of a value as a string.
-/

namespace BadgeEntry.Json

/-- One character inside a text. -/
def writeChar (c : Char) : List Char :=
  if c = '"' then ['\\', '"']
  else if c = '\\' then ['\\', '\\']
  else if c = '\x08' then ['\\', 'b']
  else if c = '\x0c' then ['\\', 'f']
  else if c = '\n' then ['\\', 'n']
  else if c = '\r' then ['\\', 'r']
  else if c = '\t' then ['\\', 't']
  else if c.toNat < 0x20 then
    ['\\', 'u', '0', '0', Nat.digitChar (c.toNat / 16), Nat.digitChar (c.toNat % 16)]
  else [c]

/-- A text between its quotes. -/
def writeText (s : String) : List Char :=
  '"' :: s.toList.flatMap writeChar ++ ['"']

mutual

/-- A value. -/
def write : Value → List Char
  | .null => ['n', 'u', 'l', 'l']
  | .bool true => ['t', 'r', 'u', 'e']
  | .bool false => ['f', 'a', 'l', 's', 'e']
  | .number n => n.text
  | .text s => writeText s
  | .array items => '[' :: writeItems true items ++ [']']
  | .object members => '\x7b' :: writeMembers true members ++ ['\x7d']

/-- The items of a list, each but the first after a comma. -/
def writeItems (first : Bool) : List Value → List Char
  | [] => []
  | v :: rest => (if first then [] else [',']) ++ write v ++ writeItems false rest

/-- The members of an object, each but the first after a comma. -/
def writeMembers (first : Bool) : List (String × Value) → List Char
  | [] => []
  | (name, v) :: rest =>
    (if first then [] else [',']) ++ writeText name ++ ':' :: write v ++ writeMembers false rest

end

/-- A value as a string. -/
def Value.render (v : Value) : String :=
  String.ofList (write v)

/-- A list of values as a string. -/
def renderAll (vs : List Value) : String :=
  (Value.array vs).render

end BadgeEntry.Json
