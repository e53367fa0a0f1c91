import BadgeEntry.Form.Encoded
import BadgeEntry.Json.Reader

/-!
# Field updates

An update gives each named field of a project a new text.  The names are in
order and none occurs twice, so two updates with the same fields are equal.

Updates are often typed as a JSON object.  Its numbers and truth values are
taken as they are written; `null`, lists and objects have no meaning for a field
and are refused.

## Main definitions

* `Updates` and its operations `empty`, `insert`, `get?`, `ofPairs`.
* `Refusal`, `Updates.ofMembers` — fields from the members of an object.
* `Updates.decode` — fields from a JSON text.
* `Updates.decodeLeading` — the same, but the fields are judged before it is
  checked that nothing follows the object.
* `Updates.encode` — the body of the form that submits the fields.

## Main results

* `Updates.get?_insert` — what an update answers after an insertion.
-/

namespace BadgeEntry.Form

open Json

/-- Field names with their new values. -/
structure Updates where
  /-- The fields in the order of their names. -/
  fields : List (String × String)
  /-- The names increase. -/
  ordered : Entries.Ordered fields

/-- Updates with the same fields are equal. -/
instance : DecidableEq Updates := fun a b =>
  decidable_of_iff (a.fields = b.fields)
    ⟨fun h => by cases a; cases b; cases h; rfl, fun h => h ▸ rfl⟩

namespace Updates

/-- No field. -/
def empty : Updates := ⟨[], Entries.ordered_nil⟩

instance : Inhabited Updates := ⟨empty⟩

/-- Gives a field a value, whatever it had. -/
def insert (u : Updates) (field value : String) : Updates :=
  ⟨Entries.insert field value u.fields, Entries.ordered_insert field value u.ordered⟩

/-- The value of a field. -/
def get? (u : Updates) (field : String) : Option String :=
  Entries.get? field u.fields

/-- The number of fields. -/
def size (u : Updates) : Nat :=
  u.fields.length

/-- Whether there is no field. -/
def isEmpty (u : Updates) : Bool :=
  u.fields.isEmpty

/-- The fields of some pairs; the last value of a name counts. -/
def ofPairs (pairs : List (String × String)) : Updates :=
  ⟨Entries.ofPairs pairs, Entries.ordered_ofPairs pairs⟩

@[simp] theorem get?_empty (field : String) : empty.get? field = none := rfl

@[simp] theorem get?_insert (u : Updates) (field value name : String) :
    (u.insert field value).get? name = if name = field then some value else u.get? name :=
  Entries.get?_insert field value u.fields name

end Updates

/-! ### Fields from JSON -/

/-- A member that has no meaning for a field. -/
inductive Refusal where
  /-- The value is `null`. -/
  | null (field : String)
  /-- The value is a list or an object. -/
  | compound (field : String)
  deriving DecidableEq, Repr

/-- The wording of a refusal. -/
def Refusal.message : Refusal → String
  | .null field => "field '" ++ field ++ "' is null"
  | .compound field => "field '" ++ field ++ "' must be a string, number or boolean"

/-- The text that a member gives to its field. -/
def fieldText (field : String) : Value → Except Refusal String
  | .text s => .ok s
  | .number n => .ok (String.ofList n.text)
  | .bool true => .ok "true"
  | .bool false => .ok "false"
  | .null => .error (.null field)
  | .array _ => .error (.compound field)
  | .object _ => .error (.compound field)

/-- The texts of all members, or the first refusal. -/
def fieldTexts : Members → Except Refusal (List (String × String))
  | [] => .ok []
  | (field, v) :: rest => do
    let text ← fieldText field v
    return (field, text) :: (← fieldTexts rest)

/-- The fields that the members of an object give. -/
def Updates.ofMembers (members : Members) : Except Refusal Updates := do
  return ofPairs (← fieldTexts members)

/-- Why a text gives no updates. -/
inductive DecodeFault where
  /-- It is not a JSON object. -/
  | json (fault : Fault)
  /-- A member is refused. -/
  | refused (refusal : Refusal)
  deriving DecidableEq, Repr

/-- The fields that a JSON text gives. -/
def Updates.decode (text : String) : Except DecodeFault Updates := do
  let members ← (readObject text).mapError .json
  (ofMembers members).mapError .refused

/-- The fields that a JSON text gives.  The members are judged as soon as the
object is closed, so a refusal wins over text that follows it. -/
def Updates.decodeLeading (text : String) : Except DecodeFault Updates := do
  let (members, rest) ← (located text.toList (leadingObject text.toList)).mapError .json
  let updates ← (ofMembers members).mapError .refused
  (located text.toList (expectEnd rest)).mapError .json
  return updates

/-! ### The submitted form -/

/-- The scope of a project's fields in its form. -/
def projectScope : String := "project"

/-- The name under which the form submits its own token. -/
def tokenField : String := "authentication_token"

/-- A field inside a scope. -/
def scopedName (scope field : String) : String :=
  scope ++ "[" ++ field ++ "]"

/-- The pairs that are submitted: the fields in their scope, then the token. -/
def Updates.pairs (u : Updates) (token : Option String) : List (String × String) :=
  u.fields.map (fun field => (scopedName projectScope field.1, field.2)) ++
    token.toList.map fun t => (tokenField, t)

/-- The body of the form. -/
def Updates.encode (u : Updates) (token : Option String) : String :=
  String.ofList (encodePairs (u.pairs token))

end BadgeEntry.Form
