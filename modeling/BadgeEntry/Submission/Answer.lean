import BadgeEntry.Http.Status
import BadgeEntry.Url.Reader
import BadgeEntry.World.Event

/-!
# The answer to a submitted form

A site that accepts a form redirects back to the page that the form was submitted
to.  A plain success means that the form was shown again, which also happens when
a field or a value is not known.  Everything else is a refusal.

## Main definitions

* `Outcome` — what came of an attempt to write.
* `Answer` — how a site answered a form.
* `classify` — the answer, from its status and location.
-/

namespace BadgeEntry.Submission

open Http Url

/-- What came of an attempt to write. -/
inductive Outcome where
  /-- The form was accepted, or at least not refused. -/
  | success
  /-- The page could not be edited. -/
  | permissionDenied
  /-- The form was refused. -/
  | unexpectedAnswer
  deriving DecidableEq, Repr

/-- The name of an outcome. -/
def Outcome.name : Outcome → String
  | .success => "success"
  | .permissionDenied => "permission_denied"
  | .unexpectedAnswer => "unexpected_server_response"

/-- Whether the form was accepted, or at least not refused. -/
def Outcome.isSuccess (o : Outcome) : Bool :=
  o == .success

/-- How a site answered a form. -/
inductive Answer where
  /-- With a redirection to where the form was submitted. -/
  | redirectedToSelf
  /-- With a plain success. -/
  | unconfirmed (status : Status)
  /-- With anything else. -/
  | rejected (status : Status) (location : Option String)
  deriving DecidableEq, Repr

/-- What an answer means. -/
def Answer.outcome : Answer → Outcome
  | .redirectedToSelf => .success
  | .unconfirmed _ => .success
  | .rejected .. => .unexpectedAnswer

/-- Whether a location leads from an address to that same address. -/
def leadsBack [NameMapping] (request : Address) (location : Option String) : Bool :=
  match location.map request.resolve with
  | some (.ok target) => target == request
  | _ => false

/-- How a form that was submitted to `request` was answered. -/
def classify [NameMapping] (request : Address) (status : Status) (location : Option String) :
    Answer :=
  if status.isRedirection ∧ leadsBack request location then .redirectedToSelf
  else if status.isSuccess then .unconfirmed status
  else .rejected status location

/-- What there is to report of an answer. -/
def Answer.event (project : ProjectId) : Answer → Event
  | .redirectedToSelf => .updated project
  | .unconfirmed status => .unconfirmed project status
  | .rejected status location => .unexpectedAnswer project status location

end BadgeEntry.Submission
