import BadgeEntry.Text.Utf8

/-!
# Header fields

A request carries some of five fields, listed in the order of their names.  A
value may hold any character but the control characters other than the tab.  What the
transport adds to a request on its own is left out: the host and the length of the body,
`referer` when a redirection is followed, and `authorization` made of the user
information in an address.

An answer may carry fields of any name and any bytes.  Names are compared without
regard to case.  A value is text when it holds visible ASCII characters, spaces
and tabs only; other values are not read.

## Main definitions

* `Field`, `Field.name` — the fields of a request.
* `firstInvalid?` — the first field whose value cannot be sent.
* `Header` — a field of an answer.
* `textsOf`, `firstTextOf?` — the readable values of a field.
-/

namespace BadgeEntry.Http

/-- The fields of a request, in the order of their names. -/
inductive Field where
  /-- The kinds of answer that are understood. -/
  | accept
  /-- The kind of the body. -/
  | contentType
  /-- The login cookie. -/
  | cookie
  /-- The name of the client. -/
  | userAgent
  /-- The token of the page's metadata. -/
  | csrfToken
  deriving DecidableEq, Repr

/-- The name of a field. -/
def Field.name : Field → String
  | .accept => "accept"
  | .contentType => "content-type"
  | .cookie => "cookie"
  | .userAgent => "user-agent"
  | .csrfToken => "x-csrf-token"

/-- The fields of a request with their values. -/
abbrev Fields := List (Field × String)

/-- Whether a value can be sent. -/
def isSendable (value : String) : Bool :=
  value.toList.all fun c => c == '\t' || (0x20 ≤ c.toNat && c.toNat != 0x7F)

/-- The first field whose value cannot be sent. -/
def firstInvalid? (fields : Fields) : Option Field :=
  (fields.find? fun f => !isSendable f.2).map Prod.fst

/-- A field of an answer. -/
structure Header where
  /-- The name. -/
  name : List UInt8
  /-- The value. -/
  value : List UInt8
  deriving DecidableEq, Repr, Inhabited

/-- A byte of a name without regard to case. -/
def foldCase (b : UInt8) : UInt8 :=
  if 0x41 ≤ b ∧ b ≤ 0x5A then b + 0x20 else b

/-- Whether a field has the given name, which is in lower case. -/
def Header.isNamed (h : Header) (name : String) : Bool :=
  h.name.map foldCase == Utf8.encode name.toList

/-- The value as text, if it is readable. -/
def Header.text? (h : Header) : Option String :=
  if h.value.all fun b => b == 0x09 || (0x20 ≤ b.toNat && b.toNat < 0x7F) then
    some (String.ofList (h.value.map fun b => Char.ofNat b.toNat))
  else none

/-- The readable values of a field, in order. -/
def textsOf (name : String) (headers : List Header) : List String :=
  (headers.filter (·.isNamed name)).filterMap Header.text?

/-- The first value of a field, if it is readable. -/
def firstTextOf? (name : String) (headers : List Header) : Option String :=
  (headers.find? (·.isNamed name)).bind Header.text?

end BadgeEntry.Http
