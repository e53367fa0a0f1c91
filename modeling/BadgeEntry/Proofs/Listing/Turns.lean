import BadgeEntry.Proofs.Listing.Public

/-!
# The pages of a listing, one after the other

A page is looked up at its own address first, and from there along the redirections.  What
comes of it hangs on the replies alone, so it is told here as a relation on networks, with one
constructor for each way in which it can go.  The pages are then taken in turn: each one meets
the network that the one before it left behind.

The relations say nothing of a limit or of the first empty page.  They tell what the site
gives for page one, two, three and so on; where a download stops is another matter.

## Main definitions

* `listingRequest` — the request for a page.
* `Lookup` — how an address is looked up.
* `Client.Fetches` — how a page is fetched.
* `Turn`, `Client.InTurn` — what is done for a page, and for pages in turn.

## Main results

* `Lookup.follow_run` — what is looked up is what `follow` finds.
* `Client.Fetches.fetchPage_run` — what is fetched is what `fetchPage` yields.
* `Client.exists_fetches` — **every page is fetched in one of the ways.**
-/

namespace BadgeEntry

open Http Site Json Url Visit

/-! ### Looking up an address -/

/-- The request for a page of the listing at an address. -/
def listingRequest (address : Address) : Request :=
  ⟨.get, address.requested.text, [(.accept, acceptedListing)], ""⟩

/-- How an address is looked up with at most some redirections: what is sent, and what comes
of it. -/
inductive Lookup [NameMapping] :
    Nat → Network → Address → List Request → Except Failure Response → Prop
  /-- There is no network, or none for such an address. -/
  | unsent {limit : Nat} {n : Network} {address : Address}
    (lost : n.reachable = false ∨ address.scheme ≠ "http" ∧ address.scheme ≠ "https") :
    Lookup limit n address [] (.error .transport)
  /-- A tunnel is asked for and not given. -/
  | noTunnel {limit : Nat} {n : Network} {address : Address} (reachable : n.reachable = true)
    (secure : address.scheme = "https") :
    Lookup limit n address [⟨.connect, address.hostAndPort, [], ""⟩] (.error .transport)
  /-- The connection closes without an answer. -/
  | dropped {limit : Nat} {n : Network} {address : Address} (reachable : n.reachable = true)
    (plain : address.scheme = "http") (reply : n.next.1 = .dropped) :
    Lookup limit n address [listingRequest address] (.error .transport)
  /-- There is an answer that does not redirect. -/
  | found {limit : Nat} {n : Network} {address : Address} {r : Response}
    (answers : n.Answers address r) (stays : redirection? address r = none) :
    Lookup limit n address [listingRequest address] (.ok r)
  /-- There is one redirection too many. -/
  | tooFar {n : Network} {address target : Address} {r : Response}
    (answers : n.Answers address r) (moves : redirection? address r = some target) :
    Lookup 0 n address [listingRequest address] (.error .transport)
  /-- A redirection is followed. -/
  | moved {limit : Nat} {n : Network} {address target : Address} {r : Response}
    {sent : List Request} {result : Except Failure Response} (answers : n.Answers address r)
    (moves : redirection? address r = some target)
    (further : Lookup limit n.next.2 target sent result) :
    Lookup (limit + 1) n address (listingRequest address :: sent) result

/-- What is sent to a page meets one reply. -/
@[simp] theorem replyCount_listingRequest (address : Address) (sent : List Request) :
    replyCount (listingRequest address :: sent) = replyCount sent + 1 :=
  List.countP_cons_of_pos rfl

@[simp] theorem replyCount_nil : replyCount [] = 0 := rfl

/-- The world after some requests for pages. -/
def World.lookedUp (w : World) (sent : List Request) : World :=
  { w with network := w.network.drop (replyCount sent), sent := w.sent ++ sent }

@[simp] theorem World.lookedUp_network (w : World) (sent : List Request) :
    (w.lookedUp sent).network = w.network.drop (replyCount sent) := rfl

theorem World.lookedUp_nil (w : World) : w.lookedUp [] = w := by
  simp [lookedUp, Network.drop]

/-- A request for a page, and then some more. -/
theorem World.exchanging_lookedUp (w : World) (address : Address) (sent : List Request) :
    (w.exchanging (listingRequest address)).lookedUp sent =
      w.lookedUp (listingRequest address :: sent) := by
  simp [lookedUp, exchanging, Network.drop]

theorem World.exchanging_listingRequest (w : World) (address : Address) :
    w.exchanging (listingRequest address) = w.lookedUp [listingRequest address] := by
  rw [← exchanging_lookedUp, lookedUp_nil]

namespace Lookup

variable [NameMapping] {limit : Nat} {n : Network} {address : Address} {sent : List Request}
  {result : Except Failure Response}

/-- **What is looked up is what comes of following the redirections.** -/
theorem follow_run (h : Lookup limit n address sent result) (w : World) (hn : w.network = n) :
    (Client.follow limit address).run w = (result, w.lookedUp sent) := by
  -- along the redirections; the world goes with the network
  induction h generalizing w with
  | unsent lost =>
    rw [World.lookedUp_nil, Client.follow, bind_run, send_run, hn]
    rcases lost with hreach | ⟨hplain, hsecure⟩
    · simp [hreach]
    · simp [hplain, hsecure]
  | noTunnel hreach hsecure =>
    have hplain : ¬"https" = "http" := by decide
    rw [Client.follow, bind_run, send_run, hn]
    simp only [hreach, hsecure, if_neg hplain, if_true]
    rfl
  | dropped hreach hplain hreply =>
    rw [Client.follow, bind_run, send_run, hn]
    simp only [hreach, hplain, if_true, hreply, Reply.result]
    exact congrArg _ (w.exchanging_listingRequest _)
  | found answers stays =>
    rw [Client.follow, bind_run, send_run, hn]
    simp only [answers.reachable, answers.plain, if_true, answers.reply, Reply.result, stays]
    exact congrArg _ (w.exchanging_listingRequest _)
  | tooFar answers moves =>
    rw [Client.follow, bind_run, send_run, hn]
    simp only [answers.reachable, answers.plain, if_true, answers.reply, Reply.result, moves]
    exact congrArg _ (w.exchanging_listingRequest _)
  | @moved _ _ address _ _ _ _ answers moves _ ih =>
    rw [Client.follow, bind_run, send_run, hn]
    simp only [answers.reachable, answers.plain, if_true, answers.reply, Reply.result, moves]
    rw [← World.exchanging_lookedUp]
    apply ih
    rw [World.exchanging_network, hn]

/-- What is found was first looked for at the address itself. -/
theorem exists_eq_cons {r : Response} (h : Lookup limit n address sent (.ok r)) :
    ∃ further, sent = listingRequest address :: further := by
  cases h with
  | found => exact ⟨[], rfl⟩
  | moved => exact ⟨_, rfl⟩

end Lookup

/-- A request for a page settles what is looked up, unless its answer redirects. -/
theorem lookup_or_moves [NameMapping] (limit : Nat) (n : Network) (address : Address) :
    (∃ sent result, Lookup limit n address sent result) ∨
      ∃ r target, n.Answers address r ∧ redirection? address r = some target := by
  by_cases hreach : n.reachable = true
  · by_cases hplain : address.scheme = "http"
    · cases hreply : n.next.1 with
      | dropped => exact Or.inl ⟨_, _, .dropped hreach hplain hreply⟩
      | answered r =>
        cases hmoves : redirection? address r with
        | none => exact Or.inl ⟨_, _, .found ⟨hreach, hplain, hreply⟩ hmoves⟩
        | some target => exact Or.inr ⟨r, target, ⟨hreach, hplain, hreply⟩, hmoves⟩
    · by_cases hsecure : address.scheme = "https"
      · exact Or.inl ⟨_, _, .noTunnel hreach hsecure⟩
      · exact Or.inl ⟨_, _, .unsent (Or.inr ⟨hplain, hsecure⟩)⟩
  · exact Or.inl ⟨_, _, .unsent (Or.inl (Bool.eq_false_iff.mpr hreach))⟩

/-- Every address is looked up in one of the ways. -/
theorem exists_lookup [NameMapping] (limit : Nat) (n : Network) (address : Address) :
    ∃ sent result, Lookup limit n address sent result := by
  induction limit generalizing n address with
  | zero =>
    rcases lookup_or_moves 0 n address with hsettled | ⟨r, target, answers, hmoves⟩
    · exact hsettled
    · exact ⟨_, _, .tooFar answers hmoves⟩
  | succ limit ih =>
    rcases lookup_or_moves (limit + 1) n address with hsettled | ⟨r, target, answers, hmoves⟩
    · exact hsettled
    · obtain ⟨sent, result, hfurther⟩ := ih n.next.2 target
      exact ⟨_, _, .moved answers hmoves hfurther⟩

/-! ### Fetching a page -/

/-- What is done for one page: what is sent, and what comes of it. -/
structure Turn where
  sent : List Request
  result : Except Failure (List Value)

namespace Client

/-- How a page of the listing is fetched: what is sent, and what comes of it. -/
inductive Fetches [NameMapping] (c : Client) (page : UInt32) (n : Network) :
    List Request → Except Failure (List Value) → Prop
  /-- The page has no address. -/
  | noAddress {fault : Url.Fault}
    (unread : Address.parse (listingPage c.root page) = .error fault) :
    Fetches c page n [] (.error .transport)
  /-- There is no answer, or none in reach. -/
  | lost {address : Address} {sent : List Request} {failure : Failure}
    (parse : Address.parse (listingPage c.root page) = .ok address)
    (lookup : Lookup redirectionLimit n address sent (.error failure)) :
    Fetches c page n sent (.error failure)
  /-- The answer is no success. -/
  | refused {address : Address} {sent : List Request} {r : Response}
    (parse : Address.parse (listingPage c.root page) = .ok address)
    (lookup : Lookup redirectionLimit n address sent (.ok r))
    (status : r.status.isSuccess = false) :
    Fetches c page n sent (.error (.badStatus r.status (listingPage c.root page)))
  /-- The body does not arrive completely. -/
  | truncated {address : Address} {sent : List Request} {r : Response}
    (parse : Address.parse (listingPage c.root page) = .ok address)
    (lookup : Lookup redirectionLimit n address sent (.ok r)) (status : r.status.isSuccess = true)
    (body : r.body = none) : Fetches c page n sent (.error .transport)
  /-- The body is no list. -/
  | noList {address : Address} {sent : List Request} {r : Response} {bytes : List UInt8}
    {fault : Json.Fault} (parse : Address.parse (listingPage c.root page) = .ok address)
    (lookup : Lookup redirectionLimit n address sent (.ok r)) (status : r.status.isSuccess = true)
    (body : r.body = some bytes)
    (wrong : readList (String.ofList (Utf8.decode bytes)) = .error fault) :
    Fetches c page n sent (.error (.json fault))
  /-- The page is given. -/
  | given {address : Address} {sent : List Request} {r : Response} {bytes : List UInt8}
    {projects : List Value} (parse : Address.parse (listingPage c.root page) = .ok address)
    (lookup : Lookup redirectionLimit n address sent (.ok r)) (status : r.status.isSuccess = true)
    (body : r.body = some bytes)
    (list : readList (String.ofList (Utf8.decode bytes)) = .ok projects) :
    Fetches c page n sent (.ok projects)

end Client

/-- What is reported of a page. -/
def Turn.events (page : UInt32) (t : Turn) : List Event :=
  match t.result with
  | .ok projects => [.pageRetrieved page projects.length]
  | .error _ => []

/-- The world after a page. -/
def World.afterTurn (w : World) (page : UInt32) (t : Turn) : World :=
  (w.lookedUp t.sent).reporting (t.events page)

namespace Client

variable [NameMapping] {c : Client} {page : UInt32} {n : Network} {sent : List Request}
  {result : Except Failure (List Value)}

/-- **What is fetched is what `fetchPage` yields.** -/
theorem Fetches.fetchPage_run (h : c.Fetches page n sent result) (w : World)
    (hn : w.network = n) :
    (c.fetchPage page).run w = (result, w.afterTurn page ⟨sent, result⟩) := by
  have hfound (address : Address) :
      ofExcept (fun _ => .transport) (.ok address : Except Url.Fault Address) =
        (pure address : Visit Address) := rfl
  unfold fetchPage World.afterTurn Turn.events
  dsimp only
  cases h with
  | noAddress unread =>
    rw [unread, World.lookedUp_nil, World.reporting_nil]
    rfl
  | lost parse lookup =>
    rw [parse, hfound, pure_bind, bind_run, lookup.follow_run w hn, World.reporting_nil]
  | refused parse lookup status =>
    rw [parse, hfound, pure_bind, bind_run, lookup.follow_run w hn, World.reporting_nil]
    simp only [status, Bool.not_false, if_true, bind_run, throw_run]
  | truncated parse lookup status body =>
    rw [parse, hfound, pure_bind, bind_run, lookup.follow_run w hn, World.reporting_nil]
    simp only [status, Bool.not_true, Bool.false_eq_true, if_false, bind_run, bodyText_run, body]
  | noList parse lookup status body wrong =>
    rw [parse, hfound, pure_bind, bind_run, lookup.follow_run w hn, World.reporting_nil]
    simp only [status, Bool.not_true, Bool.false_eq_true, if_false, bind_run, pure_run,
      bodyText_run, body, wrong]
    rfl
  | given parse lookup status body list =>
    rw [parse, hfound, pure_bind, bind_run, lookup.follow_run w hn]
    simp only [status, Bool.not_true, Bool.false_eq_true, if_false, bind_run, pure_run,
      bodyText_run, body, list]
    rfl

/-- A page that is given was first asked for at its own address. -/
theorem Fetches.exists_eq_cons {projects : List Value} (h : c.Fetches page n sent (.ok projects)) :
    ∃ address further, Address.parse (listingPage c.root page) = .ok address ∧
      sent = listingRequest address :: further := by
  cases h with
  | given parse lookup =>
    obtain ⟨further, hsent⟩ := lookup.exists_eq_cons
    exact ⟨_, further, parse, hsent⟩

/-- **Every page is fetched in one of the ways.** -/
theorem exists_fetches (c : Client) (page : UInt32) (n : Network) :
    ∃ t : Turn, c.Fetches page n t.sent t.result := by
  cases hparse : Address.parse (listingPage c.root page) with
  | error fault => exact ⟨⟨_, _⟩, .noAddress hparse⟩
  | ok address =>
    obtain ⟨sent, result, hlookup⟩ := exists_lookup redirectionLimit n address
    cases result with
    | error failure => exact ⟨⟨_, _⟩, .lost hparse hlookup⟩
    | ok r =>
      cases hstatus : r.status.isSuccess with
      | false => exact ⟨⟨_, _⟩, .refused hparse hlookup hstatus⟩
      | true =>
        cases hbody : r.body with
        | none => exact ⟨⟨_, _⟩, .truncated hparse hlookup hstatus hbody⟩
        | some bytes =>
          cases hlist : readList (String.ofList (Utf8.decode bytes)) with
          | error fault => exact ⟨⟨_, _⟩, .noList hparse hlookup hstatus hbody hlist⟩
          | ok projects => exact ⟨⟨_, _⟩, .given hparse hlookup hstatus hbody hlist⟩

/-! ### Pages in turn -/

/-- What is done for some pages in turn, from a page on: each one meets the network that the
one before it left behind. -/
inductive InTurn (c : Client) : UInt32 → Network → List Turn → Prop
  /-- No page. -/
  | nil {page : UInt32} {n : Network} : InTurn c page n []
  /-- A page, and the pages behind it. -/
  | cons {page : UInt32} {n : Network} {t : Turn} {ts : List Turn}
    (fetch : c.Fetches page n t.sent t.result)
    (rest : InTurn c (page + 1) (n.drop (replyCount t.sent)) ts) : InTurn c page n (t :: ts)

end Client

end BadgeEntry
