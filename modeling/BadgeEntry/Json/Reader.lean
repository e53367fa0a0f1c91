import BadgeEntry.Json.Scalar

/-!
# Reading JSON values

A value is read with an allowance of brackets that may still be opened; at most
127 brackets are open at once.  Lists and objects are loops over a reader of
their elements, bounded by the characters that are left, since each element
takes at least one.

## Main definitions

* `readItems`, `readMembers` — what follows an opening bracket.
* `readValue` — a value.
* `readObject`, `readList` — a whole text that must be an object or a list.
-/

namespace BadgeEntry.Json

/-- The items of a list after its opening bracket. -/
def readItems (item : Reader Value) (first : Bool) : Nat → Reader (List Value)
  | 0, cs => stopBefore .unfinishedList cs
  | fuel + 1, cs =>
    let more (cs : List Char) : Except Stop (List Value × List Char) := do
      let (v, rest) ← item cs
      let (vs, rest) ← readItems item false fuel rest
      return (v :: vs, rest)
    match skipBlanks cs with
    | [] => stopBefore .unfinishedList []
    | c :: rest =>
      if c = ']' then .ok ([], rest)
      else if first then more (c :: rest)
      else if c = ',' then
        match skipBlanks rest with
        | [] => stopBefore .unfinishedValue []
        | d :: tail =>
          if d = ']' then stopWithin .trailingComma (d :: tail) else more (d :: tail)
      else stopWithin .expectedItemEnd (c :: rest)

/-- A name, the colon after it and its value. -/
def readMember (value : Reader Value) : Reader (String × Value)
  | [] => stopBefore .unfinishedValue []
  | c :: rest =>
    if c = '"' then do
      let (name, rest) ← readText rest
      match skipBlanks rest with
      | [] => stopBefore .unfinishedObject []
      | d :: tail =>
        if d = ':' then do
          let (v, rest) ← value tail
          return ((name, v), rest)
        else stopWithin .expectedColon (d :: tail)
    else stopWithin .expectedName (c :: rest)

/-- The members of an object after its opening bracket, as they are written. -/
def readMembers (value : Reader Value) (first : Bool) : Nat → Reader (List (String × Value))
  | 0, cs => stopBefore .unfinishedObject cs
  | fuel + 1, cs =>
    let more (cs : List Char) : Except Stop (List (String × Value) × List Char) := do
      let (m, rest) ← readMember value cs
      let (ms, rest) ← readMembers value false fuel rest
      return (m :: ms, rest)
    match skipBlanks cs with
    | [] => stopBefore .unfinishedObject []
    | c :: rest =>
      if c = '\x7d' then .ok ([], rest)
      else if first then more (c :: rest)
      else if c = ',' then
        match skipBlanks rest with
        | [] => stopBefore .unfinishedValue []
        | d :: tail =>
          if d = '\x7d' then stopWithin .trailingComma (d :: tail) else more (d :: tail)
      else stopWithin .expectedMemberEnd (c :: rest)

/-- A list after its opening bracket. -/
def readListWith (item : Reader Value) (cs : List Char) :
    Except Stop (List Value × List Char) :=
  readItems item true (cs.length + 1) cs

/-- An object after its opening bracket; the last value of a name counts. -/
def readObjectWith (value : Reader Value) (cs : List Char) :
    Except Stop (Members × List Char) := do
  let (pairs, rest) ← readMembers value true (cs.length + 1) cs
  return (Entries.ofPairs pairs, rest)

/-- A value whose elements are read by `inner`; without `inner` no bracket may
be opened. -/
def readValueWith (inner : Option (Reader Value)) (cs : List Char) :
    Except Stop (Value × List Char) :=
  match skipBlanks cs with
  | [] => stopBefore .unfinishedValue []
  | c :: rest =>
    match c with
    | 'n' => do return (.null, ← readWord ['u', 'l', 'l'] rest)
    | 't' => do return (.bool true, ← readWord ['r', 'u', 'e'] rest)
    | 'f' => do return (.bool false, ← readWord ['a', 'l', 's', 'e'] rest)
    | '-' => do
      let (n, rest) ← readNumber true rest
      return (.number n, rest)
    | '"' => do
      let (s, rest) ← readText rest
      return (.text s, rest)
    | '[' =>
      match inner with
      | none => stopWithin .tooDeep (c :: rest)
      | some item => do
        let (vs, rest) ← readListWith item rest
        return (.array vs, rest)
    | '\x7b' =>
      match inner with
      | none => stopWithin .tooDeep (c :: rest)
      | some value => do
        let (ms, rest) ← readObjectWith value rest
        return (.object ms, rest)
    | _ =>
      if c.isDigit then do
        let (n, rest) ← readNumber false (c :: rest)
        return (.number n, rest)
      else stopWithin .expectedValue (c :: rest)

/-- A value in which at most `allowance` brackets are open at once. -/
def readValue : Nat → Reader Value
  | 0 => readValueWith none
  | allowance + 1 => readValueWith (some (readValue allowance))

/-- How many brackets may be open at once. -/
def bracketLimit : Nat := 127

/-- What stands at the front of a text that is not of the wanted shape.  A word,
a number or a text is read to its end. -/
def refuse {α : Type} (wanted : Shape) (cs : List Char) : Except Stop α :=
  match cs with
  | [] => stopBefore .unfinishedValue []
  | '[' :: _ => stopBefore (.wrongKind .list wanted) cs
  | '\x7b' :: _ => stopBefore (.wrongKind .object wanted) cs
  | _ => do
    let (v, rest) ← readValueWith none cs
    let found := match v with
      | .null => Found.null
      | .bool b => .bool b
      | .number n => .number n
      | .text s => .text s
      | .array _ => .list
      | .object _ => .object
    stopBefore (.wrongKind found wanted) rest

/-- The object at the front of a text. -/
def leadingObject (cs : List Char) : Except Stop (Members × List Char) :=
  match skipBlanks cs with
  | '\x7b' :: rest => readObjectWith (readValue (bracketLimit - 1)) rest
  | rest => refuse .object rest

/-- The list at the front of a text. -/
def leadingList (cs : List Char) : Except Stop (List Value × List Char) :=
  match skipBlanks cs with
  | '[' :: rest => readListWith (readValue (bracketLimit - 1)) rest
  | rest => refuse .list rest

/-- Nothing but blanks may follow. -/
def expectEnd (cs : List Char) : Except Stop Unit :=
  match skipBlanks cs with
  | [] => .ok ()
  | rest => stopWithin .trailingText rest

/-- A result of reading `text`, with the place of a stop in it. -/
def located {α : Type} (text : List Char) : Except Stop α → Except Fault α
  | .ok a => .ok a
  | .error stop => .error (stop.locate text)

/-- The members of the object that `text` is. -/
def readObject (text : String) : Except Fault Members :=
  located text.toList do
    let (ms, rest) ← leadingObject text.toList
    expectEnd rest
    return ms

/-- The items of the list that `text` is. -/
def readList (text : String) : Except Fault (List Value) :=
  located text.toList do
    let (vs, rest) ← leadingList text.toList
    expectEnd rest
    return vs

end BadgeEntry.Json
