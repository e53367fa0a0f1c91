import BadgeEntry.Http.Header
import BadgeEntry.Site.Endpoint

/-!
# Settings and the fields of requests

The settings name a site, the cookie that holds the login, and how the client
introduces itself.  The login itself is not among them: it changes from request
to request.

## Main definitions

* `Settings` — the settings.
* `cookieValue` — the login cookie as it is sent.
* `Settings.readFields` — the fields with which a page is read.
* `Settings.writeFields` — the fields with which a form is submitted.
-/

namespace BadgeEntry.Site

open Http Text

/-- The usual name of the login cookie. -/
def defaultCookieName : String := "_BadgeApp_session"

/-- How the client introduces itself unless it is told otherwise. -/
def defaultUserAgent : String := "badge-modify/0.1.0"

/-- What a page reader accepts. -/
def acceptedPages : String := "text/html,application/xhtml+xml"

/-- What a listing reader accepts. -/
def acceptedListing : String := "application/json"

/-- The kind of a submitted form. -/
def formContentType : String := "application/x-www-form-urlencoded"

/-- How a site is visited. -/
structure Settings where
  /-- The root of the site, as it was typed. -/
  root : String := ""
  /-- The name of the login cookie. -/
  cookieName : String := defaultCookieName
  /-- How the client introduces itself, if not in the usual way. -/
  userAgent : Option String := none
  /-- How long an answer may take, in milliseconds. -/
  timeout : Option Nat := none
  deriving DecidableEq, Repr, Inhabited

/-- The login cookie as it is sent. -/
def cookieValue (name session : String) : String :=
  name ++ "=" ++ session

/-- How the client introduces itself. -/
def Settings.introduction (s : Settings) : String :=
  match s.userAgent with
  | some name => if isBlankText name then defaultUserAgent else trimmed name
  | none => defaultUserAgent

/-- The fields with which a page is read. -/
def Settings.readFields (s : Settings) (session : String) : Fields :=
  [(.accept, acceptedPages), (.cookie, cookieValue s.cookieName session),
   (.userAgent, s.introduction)]

/-- The fields with which a form is submitted; without a token its field is left
out. -/
def Settings.writeFields (s : Settings) (session : String) (csrf : Option String) : Fields :=
  [(.accept, acceptedPages), (.contentType, formContentType),
   (.cookie, cookieValue s.cookieName session), (.userAgent, s.introduction)] ++
    csrf.toList.map fun token => (.csrfToken, token)

end BadgeEntry.Site
