import BadgeEntry.Client.Basic
import BadgeEntry.Json.Writer

/-!
# The listing of all projects

The listing is public.  It comes in pages, the first of them page one; a page
without projects is the last.  Redirections are followed, up to ten in a row.

The whole listing can be kept in a file, which is then read instead.

## Main definitions

* `Client.follow` — a page, wherever it is.
* `Client.fetchProjects` — all projects, page by page.
* `Client.loadProjects` — the projects in a file, or else from the site.
-/

namespace BadgeEntry

open Http Site Json Url Visit

variable [NameMapping]

/-- How many redirections are followed in a row. -/
def redirectionLimit : Nat := 10

/-- Where an answer redirects to, if it does and a reader follows. -/
def redirection? (address : Address) (response : Response) : Option Address := do
  if !response.status.isFollowed then none
  let location ← firstTextOf? "location" response.headers
  (address.resolve location).toOption

namespace Client

/-- The answer at an address, after at most `limit` redirections. -/
def follow (limit : Nat) (address : Address) : Visit Response := do
  let response ← send .get address [(.accept, acceptedListing)] ""
  match redirection? address response with
  | none => return response
  | some target =>
    match limit with
    | 0 => throw .transport
    | limit + 1 => follow limit target

/-- The projects on a page of the listing. -/
def fetchPage (c : Client) (page : UInt32) : Visit (List Value) := do
  let text := listingPage c.root page
  let address ← ofExcept (fun _ => .transport) (Address.parse text)
  let response ← follow redirectionLimit address
  if !response.status.isSuccess then throw (.badStatus response.status text)
  let projects ← ofExcept .json (readList (← bodyText response))
  report (.pageRetrieved page projects.length)
  return projects

/-- The projects from a page on, through at most `fuel` pages. -/
def fetchFrom (c : Client) (maxPages : Option UInt32) : Nat → UInt32 → Visit (List Value)
  | 0, _ => return []
  | fuel + 1, page => do
    let projects ← c.fetchPage page
    if projects.isEmpty then return []
    if maxPages.any (· ≤ page) then return projects
    return projects ++ (← fetchFrom c maxPages fuel (page + 1))

/-- All projects, or those of the first pages; page numbers have thirty-two bits. -/
def fetchProjects (c : Client) (maxPages : Option UInt32) : Visit (List Value) :=
  c.fetchFrom maxPages (UInt32.size - 1) 1

/-- The projects in a file. -/
def readCache (path : String) : Visit (List Value) := do
  report (.loadingCache path)
  let text ← ofExcept (.disk .reading path) ((← get).disk.readText path)
  ofExcept .json (readList text)

/-- Puts projects into a file. -/
def writeCache (path : String) (projects : List Value) : Visit Unit := do
  report (.savingCache path)
  let bytes := Utf8.encode (renderAll projects).toList
  let disk ← ofExcept (.disk .writing path) ((← get).disk.write path bytes)
  modify fun w => { w with disk }

/-- The projects in a file, if there is one; else those of the site, which are put
into it. -/
def loadProjects (c : Client) (path : String) (maxPages : Option UInt32) :
    Visit (List Value) := do
  if (← get).disk.exists? path then readCache path
  else
    report .retrieving
    let projects ← c.fetchProjects maxPages
    writeCache path projects
    return projects

end Client

end BadgeEntry
