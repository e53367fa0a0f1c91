import BadgeEntry.EditPage.Token
import BadgeEntry.Http.Status

/-!
# Events

What happens on a visit is reported as events, each with a level, a message and
named details.

## Main definitions

* `Event` — the events.
* `Event.level`, `Event.message`, `Event.details` — how they are reported.
-/

namespace BadgeEntry

open EditPage Http

/-- The number of a project. -/
abbrev ProjectId := UInt64

/-- How serious an event is. -/
inductive Level where
  /-- Of interest only when something is looked for. -/
  | debug
  /-- In the course of things. -/
  | info
  /-- Unexpected, but not in the way. -/
  | warn
  /-- In the way. -/
  | error
  deriving DecidableEq, Repr

/-- The name of a level. -/
def Level.name : Level → String
  | .debug => "DEBUG"
  | .info => "INFO"
  | .warn => "WARN"
  | .error => "ERROR"

/-- A detail of an event. -/
inductive Detail where
  /-- A text. -/
  | text (s : String)
  /-- A number. -/
  | number (n : Nat)
  deriving DecidableEq, Repr

/-- What happens on a visit. -/
inductive Event where
  /-- A page does not carry a token. -/
  | tokenMissing (kind : TokenKind)
  /-- An answer sets no cookie. -/
  | noCookie
  /-- An answer sets cookies, but not the one called `name`. -/
  | otherCookie (name : String)
  /-- The edit page is asked for. -/
  | requestingEditPage (project : ProjectId) (address : String)
  /-- The edit page may not be seen. -/
  | editPageDenied (project : ProjectId) (status : Status)
  /-- The form is submitted with a number of fields. -/
  | submitting (project : ProjectId) (address : String) (fields : Nat)
  /-- The form was accepted. -/
  | updated (project : ProjectId)
  /-- The form was answered without the usual redirection. -/
  | unconfirmed (project : ProjectId) (status : Status)
  /-- The form was not accepted. -/
  | unexpectedAnswer (project : ProjectId) (status : Status) (location : Option String)
  /-- A page of the listing has arrived. -/
  | pageRetrieved (page : UInt32) (count : Nat)
  /-- The listing is asked for. -/
  | retrieving
  /-- The listing is taken from a file. -/
  | loadingCache (path : String)
  /-- The listing is put into a file. -/
  | savingCache (path : String)
  /-- A command is about to write to a project. -/
  | writing (project : ProjectId) (site : String)
  deriving DecidableEq, Repr

namespace Event

/-- How serious an event is. -/
def level : Event → Level
  | tokenMissing _ => .warn
  | noCookie => .warn
  | otherCookie _ => .warn
  | requestingEditPage .. => .debug
  | editPageDenied .. => .error
  | submitting .. => .debug
  | updated _ => .info
  | unconfirmed .. => .warn
  | unexpectedAnswer .. => .error
  | pageRetrieved .. => .info
  | retrieving => .info
  | loadingCache _ => .info
  | savingCache _ => .info
  | writing .. => .info

/-- An event in words. -/
def message : Event → String
  | tokenMissing _ => "failed to find token in page"
  | noCookie => "no session cookie update in response"
  | otherCookie _ => "response set a different cookie"
  | requestingEditPage .. => "requesting edit page"
  | editPageDenied .. => "did not have permission to view edit page"
  | submitting .. => "submitting project form"
  | updated _ => "project updated"
  | unconfirmed .. =>
    "expected a redirect after the update; there may be an invalid key or value"
  | unexpectedAnswer .. => "unexpected response to project update"
  | pageRetrieved .. => "retrieved project page"
  | retrieving => "retrieving projects"
  | loadingCache _ => "loading cached projects"
  | savingCache _ => "saving projects"
  | writing project site =>
    "writing data to project " ++ Decimal.text project.toNat ++ " at base URL " ++ site

/-- The details of an event. -/
def details : Event → List (String × Detail)
  | tokenMissing kind => [("token", .text kind.name)]
  | noCookie => []
  | otherCookie name => [("cookie", .text name)]
  | requestingEditPage project address =>
    [("project_id", .number project.toNat), ("url", .text address)]
  | editPageDenied project status =>
    [("project_id", .number project.toNat), ("status", .number status.code)]
  | submitting project address fields =>
    [("project_id", .number project.toNat), ("url", .text address), ("fields", .number fields)]
  | updated project => [("project_id", .number project.toNat)]
  | unconfirmed project status =>
    [("project_id", .number project.toNat), ("status", .number status.code)]
  | unexpectedAnswer project status location =>
    [("project_id", .number project.toNat), ("status", .number status.code),
     ("location", .text (location.getD ""))]
  | pageRetrieved page count => [("page", .number page.toNat), ("count", .number count)]
  | retrieving => []
  | loadingCache path => [("path", .text path)]
  | savingCache path => [("path", .text path)]
  | writing .. => []

end Event

end BadgeEntry
