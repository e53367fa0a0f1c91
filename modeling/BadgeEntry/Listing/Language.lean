import BadgeEntry.Json.Value

/-!
# Projects by language

A project of the listing may name the languages it is written in, with commas
between them.  Spaces next to a comma do not belong to a name.

A text of names is read once.  Spaces are held back until the character after them
shows whether they belong to a name.

## Main definitions

* `Names`, `Names.take` — names that are being read, and one more character.
* `splitNames` — the names in a text.
* `languages?` — the languages that a project names.
* `countLanguage` — how many projects name a language.
-/

namespace BadgeEntry.Listing

open Json

/-- Names that are being read from a text. -/
structure Names where
  /-- The complete names, the last one first. -/
  complete : List (List Char)
  /-- The characters of the next name, the last one first. -/
  current : List Char
  /-- The spaces after them. -/
  held : List Char
  /-- Whether there was a comma, and since then nothing but spaces. -/
  afterComma : Bool

/-- What is read after one more character. -/
def Names.take (s : Names) (c : Char) : Names :=
  if c = ',' then ⟨s.current.reverse :: s.complete, [], [], true⟩
  else if c = ' ' then
    if s.afterComma then s else { s with held := c :: s.held }
  else ⟨s.complete, c :: (s.held ++ s.current), [], false⟩

/-- The names, at the end of the text. -/
def Names.toList (s : Names) : List (List Char) :=
  ((s.held ++ s.current).reverse :: s.complete).reverse

/-- The names in a text. -/
def splitNames (text : String) : List String :=
  (text.toList.foldl Names.take ⟨[], [], [], false⟩).toList.map String.ofList

/-- The member that holds the languages. -/
def languagesMember : String := "implementation_languages"

/-- The languages that a project names. -/
def languages? (project : Value) : Option (List String) :=
  match project.member? languagesMember with
  | some (.text names) => some (splitNames names)
  | _ => none

/-- Whether a project names a language. -/
def names (language : String) (project : Value) : Bool :=
  (languages? project).any (·.contains language)

/-- How many projects name a language. -/
def countLanguage (projects : List Value) (language : String) : Nat :=
  projects.countP (names language)

end BadgeEntry.Listing
