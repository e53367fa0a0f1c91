/-!
# The two tokens of an edit page

A page that may be edited carries two independent values against forgery: one in
a hidden field of the form, one in the metadata of the page.
-/

namespace BadgeEntry.EditPage

/-- The two values against forgery. -/
inductive TokenKind where
  /-- The value of the hidden field. -/
  | authenticity
  /-- The value in the metadata. -/
  | csrf
  deriving DecidableEq, Repr

/-- The name of a kind. -/
def TokenKind.name : TokenKind → String
  | .authenticity => "authenticity_token"
  | .csrf => "csrf_token"

end BadgeEntry.EditPage
