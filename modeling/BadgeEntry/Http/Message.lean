import BadgeEntry.Http.Header
import BadgeEntry.Http.Status

/-!
# Requests and answers

## Main definitions

* `Request` — what is sent.
* `Response` — what is answered; its body is missing when the connection ends
  before the announced length.
* `Reply` — an answer, or a connection that closes without one.
-/

namespace BadgeEntry.Http

/-- What is asked for. -/
inductive Method where
  /-- Reading. -/
  | get
  /-- Changing. -/
  | patch
  /-- Opening a tunnel. -/
  | connect
  deriving DecidableEq, Repr

/-- The name of a method. -/
def Method.name : Method → String
  | .get => "GET"
  | .patch => "PATCH"
  | .connect => "CONNECT"

/-- What is sent. -/
structure Request where
  /-- The method. -/
  method : Method
  /-- The address, without user information and fragment. -/
  address : String
  /-- The fields. -/
  fields : Fields
  /-- The body. -/
  body : String
  deriving DecidableEq, Repr

/-- What is answered. -/
structure Response where
  /-- The status. -/
  status : Status
  /-- The fields. -/
  headers : List Header
  /-- The body, if it arrives completely. -/
  body : Option (List UInt8)
  deriving DecidableEq, Repr, Inhabited

/-- An answer, or none. -/
inductive Reply where
  /-- The connection closes without an answer. -/
  | dropped
  /-- There is an answer. -/
  | answered (response : Response)
  deriving DecidableEq, Repr, Inhabited

end BadgeEntry.Http
