import BadgeEntry.Listing.Download
import BadgeEntry.Proofs.World.Determined

/-!
# The requests for the listing

The listing is public, and it is asked for as by anyone: a request for a page says what
kind of answer is understood, and nothing else.  This also goes for the requests that
follow redirections, wherever they lead.  So the requests depend on the replies and on
what is on the disk, but on nothing else.

## Main definitions

* `IsPublic` — the requests for the listing.

## Main results

* `Client.determined_follow` — redirections lead to public requests.
* `Client.determined_fetchProjects`, `Client.determined_loadProjects` — **downloads send
  public requests only, and are determined by the replies they meet.**
-/

namespace BadgeEntry

open Http Site Url Visit

/-- The requests for the listing: for a page at an address, or for a tunnel to it. -/
inductive IsPublic : Request → Prop
  /-- A page is asked for. -/
  | page (address : Address) :
    IsPublic ⟨.get, address.requested.text, [(.accept, acceptedListing)], ""⟩
  /-- A tunnel is asked for. -/
  | tunnel (address : Address) : IsPublic ⟨.connect, address.hostAndPort, [], ""⟩

namespace Client

/-- A page is looked for by public requests, wherever redirections lead. -/
theorem determined_follow [NameMapping] (limit : Nat) (address : Address) :
    (follow limit address).Determined IsPublic := by
  induction limit generalizing address with
  | zero =>
    rw [follow]
    refine (determined_send Method.noConfusion (.page address) (.tunnel address)).bind
      fun response => ?_
    split
    · exact determined_pure _
    · exact determined_throw _
  | succ limit ih =>
    rw [follow]
    refine (determined_send Method.noConfusion (.page address) (.tunnel address)).bind
      fun response => ?_
    split
    · exact determined_pure _
    · next target _ => exact ih target

variable (c : Client) (maxPages : Option UInt32)

/-- What an answer yields is determined. -/
theorem determined_pageOfAnswer (text : String) (page : UInt32) (response : Response) :
    (do
      if !response.status.isSuccess then throw (.badStatus response.status text)
      let projects ← ofExcept .json (Json.readList (← bodyText response))
      report (.pageRetrieved page projects.length)
      return projects : Visit (List Json.Value)).Determined IsPublic := by
  have hrest : (do
      let projects ← ofExcept .json (Json.readList (← bodyText response))
      report (.pageRetrieved page projects.length)
      return projects : Visit (List Json.Value)).Determined IsPublic := by
    refine (determined_bodyText response).bind fun text => ?_
    refine (determined_ofExcept _ _).bind fun projects => ?_
    exact (determined_report _).bind fun _ => determined_pure projects
  by_cases hsuccess : response.status.isSuccess = true
  · simp only [hsuccess, Bool.not_true, Bool.false_eq_true, if_false]
    exact hrest
  · simp only [Bool.eq_false_iff.mpr hsuccess, Bool.not_false, if_true]
    exact (determined_throw _).bind fun _ => hrest

theorem determined_fetchPage [NameMapping] (page : UInt32) :
    (c.fetchPage page).Determined IsPublic := by
  unfold fetchPage
  refine (determined_ofExcept _ _).bind fun address => ?_
  refine (determined_follow redirectionLimit address).bind fun response => ?_
  exact determined_pageOfAnswer _ page response

theorem determined_fetchFrom [NameMapping] (fuel : Nat) (page : UInt32) :
    (c.fetchFrom maxPages fuel page).Determined IsPublic := by
  induction fuel generalizing page with
  | zero => exact determined_pure _
  | succ fuel ih =>
    rw [fetchFrom]
    refine (c.determined_fetchPage page).bind fun projects => ?_
    split
    · exact determined_pure _
    · split
      · exact determined_pure _
      · exact (ih (page + 1)).bind fun rest => determined_pure _

/-- **A download sends public requests only** and is determined by the replies. -/
theorem determined_fetchProjects [NameMapping] : (c.fetchProjects maxPages).Determined IsPublic :=
  c.determined_fetchFrom maxPages _ 1

theorem determined_readCache (path : String) : (readCache path).Determined IsPublic := by
  unfold readCache
  refine (determined_report _).bind fun _ => ?_
  refine determined_onDisk (f := fun disk => do
    let text ← ofExcept (.disk .reading path) (disk.readText path)
    ofExcept .json (Json.readList text)) fun disk => ?_
  exact (determined_ofExcept _ _).bind fun text => determined_ofExcept _ _

theorem determined_writeCache (path : String) (projects : List Json.Value) :
    (writeCache path projects).Determined IsPublic := by
  unfold writeCache
  refine (determined_report _).bind fun _ => ?_
  refine determined_onDisk (f := fun disk => do
    let disk ← ofExcept (.disk .writing path)
      (disk.write path (Utf8.encode (Json.renderAll projects).toList))
    modify fun w => { w with disk }) fun disk => ?_
  exact (determined_ofExcept _ _).bind fun disk => determined_putDisk disk

/-- **A download into a file sends public requests only** and is determined by the replies
and by what is on the disk. -/
theorem determined_loadProjects [NameMapping] (path : String) :
    (c.loadProjects path maxPages).Determined IsPublic := by
  unfold loadProjects
  refine determined_onDisk (f := fun disk =>
    if disk.exists? path then readCache path
    else do
      report .retrieving
      let projects ← c.fetchProjects maxPages
      writeCache path projects
      return projects) fun disk => ?_
  split
  · exact determined_readCache path
  · refine (determined_report _).bind fun _ => ?_
    refine (c.determined_fetchProjects maxPages).bind fun projects => ?_
    exact (determined_writeCache path projects).bind fun _ => determined_pure _

end Client

end BadgeEntry
