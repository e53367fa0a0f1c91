import BadgeEntry.Http.Header
import BadgeEntry.World.Event

/-!
# The login cookie

A site may replace the login with any answer.  The next request must then carry
the new one, which is the value of the first readable cookie with the right name,
up to its first semicolon.

## Main definitions

* `cookieLogin?` — the login that a cookie carries.
* `nextLogin` — the login for the next request, with what there is to report.
-/

namespace BadgeEntry.Session

open Http

/-- The text before the first semicolon. -/
def beforeSemicolon (cs : List Char) : List Char :=
  cs.takeWhile (· != ';')

/-- The login that a cookie carries, if it has the right name. -/
def cookieLogin? (name cookie : String) : Option String :=
  ((name ++ "=").toList.isPrefixOf? cookie.toList).map fun rest =>
    String.ofList (beforeSemicolon rest)

/-- The login for the request after the one that was answered with `headers`, and
what there is to report. -/
def nextLogin (headers : List Header) (name current : String) : String × List Event :=
  match textsOf "set-cookie" headers with
  | [] => (current, [.noCookie])
  | cookies =>
    match cookies.findSome? (cookieLogin? name) with
    | some login => (login, [])
    | none => (current, [.otherCookie name])

end BadgeEntry.Session
