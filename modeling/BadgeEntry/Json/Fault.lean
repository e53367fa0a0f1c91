import BadgeEntry.Json.Value
import BadgeEntry.Text.Quoted
import BadgeEntry.Text.Utf8

/-!
# Why a text is not the JSON that was asked for

A reader stops with a reason and with the number of bytes it has not consumed.
A reason that was found by looking ahead counts the byte it looked at as
consumed.  From the whole text and that number follow line and column: lines
count from one, the column is the number of consumed bytes since the last line
feed.

## Main definitions

* `Reason`, `Reason.message` — the reasons and their wording.
* `Stop` — a reason and the bytes that are left.
* `Fault`, `Fault.message` — a reason with its line and column.
* `Stop.locate` — from a stop to a fault.
-/

namespace BadgeEntry.Json

/-- The two kinds of text that can be asked for. -/
inductive Shape where
  /-- A list of values. -/
  | list
  /-- An object. -/
  | object
  deriving DecidableEq, Repr

/-- What stands where a list or an object was asked for. -/
inductive Found where
  /-- The value `null`. -/
  | null
  /-- A truth value. -/
  | bool (b : Bool)
  /-- A number. -/
  | number (n : Number)
  /-- A text. -/
  | text (s : String)
  /-- The beginning of a list. -/
  | list
  /-- The beginning of an object. -/
  | object
  deriving DecidableEq, Repr

/-- Why a text is refused. -/
inductive Reason where
  /-- The text ends where a value should be, or inside one. -/
  | unfinishedValue
  /-- The text ends inside a list. -/
  | unfinishedList
  /-- The text ends inside an object. -/
  | unfinishedObject
  /-- The text ends between two quotes. -/
  | unfinishedText
  /-- No value begins here. -/
  | expectedValue
  /-- A word that begins like `true`, `false` or `null` is another one. -/
  | expectedWord
  /-- A name is not followed by a colon. -/
  | expectedColon
  /-- A member is followed by neither a comma nor the end of the object. -/
  | expectedMemberEnd
  /-- An item is followed by neither a comma nor the end of the list. -/
  | expectedItemEnd
  /-- A name is not a text. -/
  | expectedName
  /-- A comma is the last thing in a list or an object. -/
  | trailingComma
  /-- Something follows the value. -/
  | trailingText
  /-- A number is malformed. -/
  | badNumber
  /-- A number is beyond the greatest one. -/
  | numberTooLarge
  /-- A backslash is followed by something that is no escape. -/
  | badEscape
  /-- A control character stands between two quotes. -/
  | controlCharacter
  /-- The second half of a pair of escapes is missing. -/
  | unfinishedEscape
  /-- Half of a pair of escapes stands alone. -/
  | loneSurrogate
  /-- Too many brackets are open. -/
  | tooDeep
  /-- The text is a value of another kind. -/
  | wrongKind (found : Found) (wanted : Shape)
  deriving DecidableEq, Repr

/-- What was found, in words. -/
def Found.words : Found → String
  | .null => "null"
  | .bool true => "boolean `true`"
  | .bool false => "boolean `false`"
  | .number (.integer n) => "integer `" ++ String.ofList (Decimal.ofInt n) ++ "`"
  | .number (.real x) => "floating point `" ++ String.ofList x.text ++ "`"
  | .text s => "string " ++ Text.quoted s
  | .list => "sequence"
  | .object => "map"

/-- What was asked for, in words. -/
def Shape.words : Shape → String
  | .list => "a sequence"
  | .object => "a map"

/-- The wording of a reason. -/
def Reason.message : Reason → String
  | .unfinishedValue => "EOF while parsing a value"
  | .unfinishedList => "EOF while parsing a list"
  | .unfinishedObject => "EOF while parsing an object"
  | .unfinishedText => "EOF while parsing a string"
  | .expectedValue => "expected value"
  | .expectedWord => "expected ident"
  | .expectedColon => "expected `:`"
  | .expectedMemberEnd => "expected `,` or `\x7d`"
  | .expectedItemEnd => "expected `,` or `]`"
  | .expectedName => "key must be a string"
  | .trailingComma => "trailing comma"
  | .trailingText => "trailing characters"
  | .badNumber => "invalid number"
  | .numberTooLarge => "number out of range"
  | .badEscape => "invalid escape"
  | .controlCharacter => "control character (\\u0000-\\u001F) found while parsing a string"
  | .unfinishedEscape => "unexpected end of hex escape"
  | .loneSurrogate => "lone leading surrogate in hex escape"
  | .tooDeep => "recursion limit exceeded"
  | .wrongKind found wanted => "invalid type: " ++ found.words ++ ", expected " ++ wanted.words

/-- A reason and the number of bytes that were not consumed. -/
structure Stop where
  /-- The reason. -/
  reason : Reason
  /-- The number of bytes left. -/
  left : Nat
  deriving DecidableEq, Repr

/-- A reason and its place in the text. -/
structure Fault where
  /-- The reason. -/
  reason : Reason
  /-- The line, from one. -/
  line : Nat
  /-- The number of bytes consumed in that line. -/
  column : Nat
  deriving DecidableEq, Repr

/-- A fault in words. -/
def Fault.message (f : Fault) : String :=
  f.reason.message ++ " at line " ++ Decimal.text f.line ++ " column " ++ Decimal.text f.column

/-- Line and column after some bytes: a line feed begins a new line. -/
def advance (place : Nat × Nat) (b : UInt8) : Nat × Nat :=
  if b = 0x0A then (place.1 + 1, 0) else (place.1, place.2 + 1)

/-- The place of a stop in the text in which it arose. -/
def Stop.locate (text : List Char) (stop : Stop) : Fault :=
  let bytes := Utf8.encode text
  let place := (bytes.take (bytes.length - stop.left)).foldl advance (1, 0)
  ⟨stop.reason, place.1, place.2⟩

/-- Stops in front of `rest`. -/
def stopBefore {α : Type} (reason : Reason) (rest : List Char) : Except Stop α :=
  .error ⟨reason, Utf8.size rest⟩

/-- Stops one byte into `rest`, or at the end if nothing is left. -/
def stopWithin {α : Type} (reason : Reason) (rest : List Char) : Except Stop α :=
  .error ⟨reason, Utf8.size rest - 1⟩

end BadgeEntry.Json
