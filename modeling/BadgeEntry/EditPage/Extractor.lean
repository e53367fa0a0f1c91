import BadgeEntry.Pattern.Reader
import BadgeEntry.Pattern.Search
import BadgeEntry.World.Event

/-!
# Finding the tokens of a page

How a token is looked for is up to the one who visits.  The usual way is a pattern
whose first group holds the token.  The usual patterns are the exact text that the
site writes before a token, the token up to the next double quote, and that quote.

## Main definitions

* `opening`, `usualPattern` — the usual patterns.
* `TokenPatterns`, `TokenPatterns.extract` — one pattern for each kind of token, and the
  token they find.
* `Extractor` — any way to find a token of a page, with what there is to report.
* `Extractor.ofPatterns`, `Extractor.usual` — the ways with patterns.
-/

namespace BadgeEntry.EditPage

/-- The text before a token. -/
def opening : TokenKind → String
  | .authenticity => "<input type=\"hidden\" name=\"authenticity_token\" value=\""
  | .csrf => "<meta name=\"csrf-token\" content=\""

/-- The notation of a usual pattern. -/
def usualNotation (kind : TokenKind) : String :=
  opening kind ++ "([^\"]+)\""

/-- A token up to the next double quote. -/
def quotedToken : Pattern :=
  .seq (.group 1 (.repeated .some true (.one (.compl (.only '"'))))) (.char '"')

/-- A usual pattern. -/
def usualPattern (kind : TokenKind) : Pattern :=
  .seq (Pattern.literal (opening kind).toList) quotedToken

/-- A pattern for each kind of token. -/
structure TokenPatterns where
  /-- The pattern for the hidden field. -/
  authenticity : Pattern
  /-- The pattern for the metadata. -/
  csrf : Pattern
  deriving DecidableEq, Repr, Inhabited

namespace TokenPatterns

/-- The usual patterns. -/
def usual : TokenPatterns :=
  ⟨usualPattern .authenticity, usualPattern .csrf⟩

/-- The patterns with some notations. -/
def read? (authenticity csrf : String) : Option TokenPatterns := do
  return ⟨← Pattern.read? authenticity, ← Pattern.read? csrf⟩

/-- The pattern for a kind of token. -/
def pattern (x : TokenPatterns) : TokenKind → Pattern
  | .authenticity => x.authenticity
  | .csrf => x.csrf

/-- The token of a kind in a page, and what there is to report. -/
def extract (x : TokenPatterns) (page : String) (kind : TokenKind) :
    Option String × List Event :=
  match (x.pattern kind).group? 1 page with
  | some token => (some token, [])
  | none => (none, [.tokenMissing kind])

end TokenPatterns

/-- A way to find tokens. -/
structure Extractor where
  /-- The token of a kind in a page, and what there is to report. -/
  extract : String → TokenKind → Option String × List Event

namespace Extractor

/-- Tokens are found with patterns. -/
def ofPatterns (x : TokenPatterns) : Extractor :=
  ⟨x.extract⟩

/-- Tokens are found with the usual patterns. -/
def usual : Extractor :=
  ofPatterns TokenPatterns.usual

instance : Inhabited Extractor := ⟨usual⟩

/-- The extractor with two patterns in their notation. -/
def read? (authenticity csrf : String) : Option Extractor :=
  (TokenPatterns.read? authenticity csrf).map ofPatterns

end Extractor

end BadgeEntry.EditPage
