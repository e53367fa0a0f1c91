import BadgeEntry.EditPage.Extractor
import BadgeEntry.Session.Cookie
import BadgeEntry.Site.Settings
import BadgeEntry.Submission.Answer
import BadgeEntry.World.Visit

/-!
# Writing to a project

A client writes to a project in two steps.  It reads the edit page with a login,
which yields the tokens of that page and the login to go on with; and it submits
the form with these.  Tokens belong to the project whose page they come from.

A redirection is never followed here: the site answers in this way when a page
may not be edited, and when a form is accepted.

## Main definitions

* `Client`, `Client.create?` — a client of a site with a usable address.
* `Client.withExtractor` — the same with another way to find tokens.
* `PageTokens` — what the edit page yields.
* `Client.tokensOfAnswer`, `Client.readTokens` — the first step.
* `Client.submit` — the second step.
* `Client.mutate`, `Client.write` — both steps.
-/

namespace BadgeEntry

open Http Site EditPage Submission Form Visit

variable [Url.NameMapping]

/-- What the edit page of a project yields. -/
structure PageTokens where
  /-- The project. -/
  project : ProjectId
  /-- The token of the form. -/
  authenticity : Option String
  /-- The token of the metadata. -/
  csrf : Option String
  /-- The login to go on with. -/
  login : String
  deriving DecidableEq, Repr, Inhabited

namespace PageTokens

/-- What a page yields that may not be edited. -/
def denied (project : ProjectId) (login : String) : PageTokens :=
  ⟨project, none, none, login⟩

/-- Whether there is no token. -/
def isDenied (t : PageTokens) : Bool :=
  t.authenticity.isNone && t.csrf.isNone

end PageTokens

/-- A client of a site. -/
structure Client where
  /-- The settings, with the root of the site normalized. -/
  settings : Settings
  /-- How tokens are found. -/
  extractor : Extractor
  deriving Inhabited

namespace Client

/-- The client with some settings, if they name a site with an address. -/
def create? (settings : Settings) : Except Failure Client :=
  match normalize settings.root with
  | none => .error .missingSite
  | some root =>
    match Url.Address.parse root with
    | .error fault => .error (.badAddress root fault)
    | .ok _ => .ok ⟨{ settings with root }, Extractor.usual⟩

/-- The client with another way to find tokens. -/
def withExtractor (c : Client) (extractor : Extractor) : Client :=
  { c with extractor }

/-- The root of the site. -/
def root (c : Client) : String :=
  c.settings.root

/-- The two tokens of a page, with the warnings about missing ones. -/
def extractTokens (c : Client) (page : String) :
    Option String × Option String × List Event :=
  let authenticity := c.extractor.extract page .authenticity
  let csrf := c.extractor.extract page .csrf
  (authenticity.1, csrf.1, authenticity.2 ++ csrf.2)

/-- What an answer to the request for an edit page yields.  An answer without success,
or from another address than the one that was asked for, means that the page may not be
edited. -/
def tokensOfAnswer (c : Client) (project : ProjectId) (login : String) (address : Url.Address)
    (response : Response) : Visit PageTokens := do
  if address.requested != address ∨ !response.status.isSuccess then
    report (.editPageDenied project response.status)
    return .denied project login
  let (login, events) := Session.nextLogin response.headers c.settings.cookieName login
  reportAll events
  let page ← bodyText response
  let (authenticity, csrf, events) := c.extractTokens page
  reportAll events
  return ⟨project, authenticity, csrf, login⟩

/-- Reads the edit page of a project. -/
def readTokens (c : Client) (project : ProjectId) (login : String) : Visit PageTokens := do
  if Text.isBlankText login then throw .missingCookie
  let address ← parseAddress (editPage c.root project)
  let fields ← checkFields (c.settings.readFields login)
  report (.requestingEditPage project address.text)
  let response ← send .get address fields ""
  c.tokensOfAnswer project login address response

/-- Submits the form of a project with the tokens of its page. -/
def submit (c : Client) (project : ProjectId) (updates : Updates) (tokens : PageTokens) :
    Visit Outcome := do
  if tokens.project ≠ project then throw (.wrongProject project tokens.project)
  let address ← parseAddress (projectPage c.root project)
  let fields ← checkFields (c.settings.writeFields tokens.login tokens.csrf)
  report (.submitting project address.text updates.size)
  let response ← send .patch address fields (updates.encode tokens.authenticity)
  let answer := classify address response.status (firstTextOf? "location" response.headers)
  report (answer.event project)
  return answer.outcome

/-- Reads the edit page of a project and submits its form, unless there is no
token. -/
def mutate (c : Client) (project : ProjectId) (updates : Updates) (login : String) :
    Visit Outcome := do
  let tokens ← c.readTokens project login
  if tokens.isDenied then return .permissionDenied
  c.submit project updates tokens

/-- Writes to a project; whether the site accepted it. -/
def write (c : Client) (project : ProjectId) (updates : Updates) (login : String) :
    Visit Bool := do
  return (← c.mutate project updates login).isSuccess

end Client

/-- Writes to a project of the site with a root, in the usual way. -/
def writeToProject (root : String) (project : ProjectId) (updates : Updates) (login : String) :
    Visit Bool := do
  let client ← ofExcept id (Client.create? { root })
  client.write project updates login

end BadgeEntry
