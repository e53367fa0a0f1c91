import BadgeEntry.Form.Updates
import BadgeEntry.Http.Message
import BadgeEntry.Url.Reader
import BadgeEntry.World.Disk
import BadgeEntry.World.Event

/-!
# Failures

A visit ends early for one of ten reasons.  Some have a cause of their own: a
fault in a JSON text or on the disk.

## Main definitions

* `Failure` — the reasons.
* `Failure.message` — a reason in words.
* `Failure.cause?` — the words of its cause.
-/

namespace BadgeEntry

open Http Form

/-- What was being done with the cache. -/
inductive CacheUse where
  /-- The cache was being read. -/
  | reading
  /-- The cache was being written. -/
  | writing
  deriving DecidableEq, Repr

/-- A use of the cache in words. -/
def CacheUse.words : CacheUse → String
  | .reading => "reading cache"
  | .writing => "writing cache"

/-- Why a visit ends early. -/
inductive Failure where
  /-- There is no login cookie. -/
  | missingCookie
  /-- There is no site. -/
  | missingSite
  /-- A text made from the site is no address. -/
  | badAddress (text : String) (fault : Url.Fault)
  /-- The value of a field cannot be sent. -/
  | badField (field : Field)
  /-- A field update is refused. -/
  | badUpdates (refusal : Refusal)
  /-- The tokens belong to another project. -/
  | wrongProject (expected found : ProjectId)
  /-- There is no complete answer. -/
  | transport
  /-- A page of the listing is answered without success. -/
  | badStatus (status : Status) (address : String)
  /-- A text is not the JSON that was expected. -/
  | json (fault : Json.Fault)
  /-- The cache cannot be used. -/
  | disk (activity : CacheUse) (path : String) (fault : DiskFault)
  deriving DecidableEq, Repr

namespace Failure

/-- A failure in words. -/
def message : Failure → String
  | missingCookie => "a session cookie value is required"
  | missingSite => "a base URL is required"
  | badAddress text fault => "invalid base URL '" ++ text ++ "': " ++ fault.message
  | badField field => "invalid value for header " ++ field.name
  | badUpdates refusal => "invalid field updates: " ++ refusal.message
  | wrongProject expected found =>
    "tokens were rendered for project " ++ Decimal.text found.toNat ++
      " but the write targets project " ++ Decimal.text expected.toNat
  | transport => "request error"
  | badStatus status address => "HTTP " ++ status.text ++ " from " ++ address
  | json fault => "JSON error: " ++ fault.message
  | disk activity path fault =>
    "I/O error while " ++ activity.words ++ " at " ++ path ++ ": " ++ fault.message

/-- The words of what caused a failure, if it has a cause of its own. -/
def cause? : Failure → Option String
  | json fault => some fault.message
  | disk _ _ fault => some fault.message
  | _ => none

/-- A failure with its cause. -/
def chain (f : Failure) : String :=
  f.message ++ (f.cause?.elim "" (": " ++ ·))

/-- The failure that a text without updates leads to. -/
def ofDecodeFault : DecodeFault → Failure
  | .json fault => json fault
  | .refused refusal => badUpdates refusal

end Failure

end BadgeEntry
