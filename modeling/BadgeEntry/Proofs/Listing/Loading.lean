import BadgeEntry.Proofs.Listing.Cache

/-!
# How a load goes

Projects are loaded from the file if there is something at its path; else they are downloaded
page by page and written to it.  A load can fail at the file, at every page, and at the file
again when all pages have arrived.  The relation of this module lists the ways in which it
goes, each with what it takes, what comes of it and the world it leaves behind.

The file is written in one step and after everything else, so a load that fails has written
nothing.  It leaves no file behind with some of the pages, which would be taken for the whole
listing by every later load.

## Main definitions

* `Client.Loading` — the ways in which a load goes.

## Main results

* `Client.loading` — **a load goes in one of these ways.**
* `Client.loadProjects_leaves_disk` — **a load that fails leaves the disk as it was**, and one
  that finds something at its path sends nothing.
-/

namespace BadgeEntry

open Http Site Json Url Visit

namespace Client

variable (c : Client) (path : String) (maxPages : Option UInt32)

/-- How a load goes. -/
inductive Loading [NameMapping] (w : World) : Except Failure (List Value) × World → Prop
  /-- What is at the path cannot be read as text. -/
  | unreadable {fault : DiskFault} (found : w.disk.exists? path = true)
    (unread : w.disk.readText path = .error fault) :
    Loading w (.error (.disk .reading path fault), w.reporting [.loadingCache path])
  /-- The text of the file is no list. -/
  | noList {text : String} {fault : Json.Fault} (found : w.disk.exists? path = true)
    (read : w.disk.readText path = .ok text) (wrong : readList text = .error fault) :
    Loading w (.error (.json fault), w.reporting [.loadingCache path])
  /-- The projects are in the file. -/
  | cached {text : String} {projects : List Value} (found : w.disk.exists? path = true)
    (read : w.disk.readText path = .ok text) (list : readList text = .ok projects) :
    Loading w (.ok projects, w.reporting [.loadingCache path])
  /-- A page cannot be downloaded. -/
  | undelivered {u : Upshot (List Value)} {failure : Failure}
    (free : w.disk.exists? path = false)
    (fetch : (c.fetchProjects maxPages).run w = (.error failure, w.after u))
    (kept : u.disk = w.disk) :
    Loading w (.error failure, (w.reporting [.retrieving]).after u)
  /-- All pages have arrived, and the file cannot be written. -/
  | unwritten {u : Upshot (List Value)} {projects : List Value} {fault : DiskFault}
    (free : w.disk.exists? path = false)
    (fetch : (c.fetchProjects maxPages).run w = (.ok projects, w.after u))
    (kept : u.disk = w.disk)
    (refused : w.disk.write path (fileBytes projects) = .error fault) :
    Loading w (.error (.disk .writing path fault), w.saving u path)
  /-- All pages have arrived, and the file is written. -/
  | written {u : Upshot (List Value)} {projects : List Value} {disk : Disk}
    (free : w.disk.exists? path = false)
    (fetch : (c.fetchProjects maxPages).run w = (.ok projects, w.after u))
    (kept : u.disk = w.disk)
    (stored : w.disk.write path (fileBytes projects) = .ok disk) :
    Loading w (.ok projects, { w.saving u path with disk })

/-- What is in a file is read as text and then as a list. -/
theorem readCache_run (w : World) :
    (readCache path).run w = match w.disk.readText path with
      | .error fault => (.error (.disk .reading path fault), w.reporting [.loadingCache path])
      | .ok text => match readList text with
        | .error fault => (.error (.json fault), w.reporting [.loadingCache path])
        | .ok projects => (.ok projects, w.reporting [.loadingCache path]) := by
  unfold readCache
  rw [bind_run, report_run]
  change run (do
    let text ← ofExcept (.disk .reading path) (w.disk.readText path)
    ofExcept .json (readList text)) (w.reporting _) = _
  cases w.disk.readText path with
  | error fault => rfl
  | ok text =>
    change run (ofExcept .json (readList text)) _ = _
    cases hread : readList text <;> simp only [hread] <;> rfl

section

variable [NameMapping]

/-- A download leaves the disk as it was. -/
theorem disk_of_fetchProjects {w : World} {u : Upshot (List Value)}
    {result : Except Failure (List Value)}
    (h : (c.fetchProjects maxPages).run w = (result, w.after u)) : u.disk = w.disk := by
  have hdisk := (c.collects_fetchProjects maxPages w).1
  rw [h] at hdisk
  exact hdisk

/-- **A load goes in one of these ways.** -/
theorem loading (w : World) :
    c.Loading path maxPages w ((c.loadProjects path maxPages).run w) := by
  cases hfound : w.disk.exists? path with
  | true =>
    rw [loadProjects_run, if_pos hfound, readCache_run]
    cases htext : w.disk.readText path with
    | error fault => exact .unreadable hfound htext
    | ok text =>
      dsimp only
      cases hlist : readList text with
      | error fault => exact .noList hfound htext hlist
      | ok projects => exact .cached hfound htext hlist
  | false =>
    obtain ⟨u, hfetch, hload⟩ := c.loadProjects_run_of_free maxPages hfound
    have hkept := c.disk_of_fetchProjects maxPages hfetch
    rw [hload]
    cases hresult : u.result with
    | error failure =>
      rw [hresult] at hfetch
      exact .undelivered hfound hfetch hkept
    | ok projects =>
      rw [hresult] at hfetch
      dsimp only
      cases hwrite : w.disk.write path (fileBytes projects) with
      | error fault => exact .unwritten hfound hfetch hkept hwrite
      | ok disk => exact .written hfound hfetch hkept hwrite

variable {c path maxPages} {w after : World} {result : Except Failure (List Value)}

/-- A load that fails leaves the disk as it was. -/
theorem Loading.disk_eq_of_error {failure : Failure}
    (h : c.Loading path maxPages w (.error failure, after)) : after.disk = w.disk := by
  cases h with
  | unreadable => rfl
  | noList => rfl
  | undelivered _ _ kept => exact kept
  | unwritten _ _ kept => exact kept

/-- A load that finds something at its path only reports that it does. -/
theorem Loading.eq_reporting (h : c.Loading path maxPages w (result, after))
    (hfound : w.disk.exists? path = true) : after = w.reporting [.loadingCache path] := by
  cases h with
  | unreadable => rfl
  | noList => rfl
  | cached => rfl
  | undelivered free => exact absurd (free.symm.trans hfound) Bool.false_ne_true
  | unwritten free => exact absurd (free.symm.trans hfound) Bool.false_ne_true
  | written free => exact absurd (free.symm.trans hfound) Bool.false_ne_true

/-- **A load that fails leaves the disk as it was**, for every client, network and disk: all
files hold what they held, and a path that was free is free.  A load that finds something at
its path sends nothing, takes no reply and leaves the disk as it was, whatever comes of it. -/
theorem loadProjects_leaves_disk (c : Client) (path : String) (maxPages : Option UInt32)
    (w : World) :
    let load := c.loadProjects path maxPages
    let after := (load.run w).2
    (∀ failure, (load.run w).1 = .error failure →
      after.disk = w.disk ∧ (w.disk.exists? path = false → after.disk.exists? path = false)) ∧
    (w.disk.exists? path = true →
      load.requests w = [] ∧ after.network = w.network ∧ after.disk = w.disk) := by
  intro load after
  have hload : c.Loading path maxPages w ((load.run w).1, after) := c.loading path maxPages w
  constructor
  · intro failure hfails
    rw [hfails] at hload
    have hdisk := hload.disk_eq_of_error
    exact ⟨hdisk, fun hfree => by rw [hdisk, hfree]⟩
  · intro hfound
    have hafter := hload.eq_reporting hfound
    refine ⟨requests_eq ?_, ?_, ?_⟩
    · change after.sent = w.sent ++ []
      rw [hafter, List.append_nil]
      rfl
    · rw [hafter]
      rfl
    · rw [hafter]
      rfl

end

/-! ### A listing that breaks off -/

/-- A page that is answered without success, and not elsewhere, cannot be downloaded. -/
theorem fetchPage_run_of_refused [NameMapping] (c : Client) (page : UInt32) {address : Address}
    {answer : Response} {w : World}
    (hparse : Address.parse (listingPage c.root page) = .ok address)
    (hanswers : w.network.Answers address answer) (hstays : redirection? address answer = none)
    (hrefused : answer.status.isSuccess = false) :
    (c.fetchPage page).run w = (.error (.badStatus answer.status (listingPage c.root page)),
      w.exchanging ⟨.get, address.requested.text, [(.accept, acceptedListing)], ""⟩) := by
  have hfound : ofExcept (fun _ => .transport) (.ok address : Except Url.Fault Address) =
      (pure address : Visit Address) := rfl
  have hfollow : (follow redirectionLimit address).run w = (.ok answer,
      w.exchanging ⟨.get, address.requested.text, [(.accept, acceptedListing)], ""⟩) := by
    rw [redirectionLimit, follow, bind_run, send_run, if_pos hanswers.reachable,
      if_pos hanswers.plain, hanswers.reply]
    dsimp only [Reply.result]
    rw [hstays]
    rfl
  unfold fetchPage
  dsimp only
  rw [hparse, hfound, pure_bind, bind_run, hfollow]
  simp only [hrefused, Bool.not_false, if_true, bind_run, throw_run]

/-- A listing of which the second page is not given. -/
def brokenListing : World :=
  World.replying [.answered (.page 200 (renderAll shortProjects)), .answered (.page 503 "")]

theorem fetchProjects_brokenListing : ∃ failure after,
    (onThisMachine.fetchProjects none).run brokenListing = (.error failure, after) := by
  have hread : readList (renderAll shortProjects) = .ok shortProjects :=
    readList_renderAll_of_kept areKept_shortProjects realsReadBack_shortProjects
  have hfirst := onThisMachine.fetchPage_run_of_answers 1 (w := brokenListing) rfl
    ⟨rfl, rfl, rfl⟩ hread
  generalize hmid : World.reporting _ _ = mid at hfirst
  have hsecond := onThisMachine.fetchPage_run_of_refused 2 (w := mid) rfl
    ⟨by rw [← hmid]; rfl, rfl, by rw [← hmid]; rfl⟩ rfl rfl
  have hfuel : UInt32.size - 1 = 4294967293 + 1 + 1 := rfl
  rw [fetchProjects, hfuel, fetchFrom, bind_run, hfirst]
  change ∃ failure after, run (do
    return shortProjects ++ (← onThisMachine.fetchFrom none (4294967293 + 1) 2)) mid = _
  rw [fetchFrom, bind_run, bind_run, hsecond]
  exact ⟨_, _, rfl⟩

/-- On this machine, a listing that breaks off leaves no file with its first page. -/
theorem loadProjects_leaves_disk_onThisMachine : ∃ failure after,
    (onThisMachine.loadProjects "projects.json" none).run brokenListing = (.error failure, after) ∧
      after.disk.exists? "projects.json" = false := by
  have hfree : brokenListing.disk.exists? "projects.json" = false := rfl
  obtain ⟨failure, after, hown⟩ := fetchProjects_brokenListing
  obtain ⟨u, hfetch, hload⟩ := onThisMachine.loadProjects_run_of_free none hfree
  rw [hown] at hfetch
  rw [← (Prod.mk.inj hfetch).1] at hload
  dsimp only at hload
  obtain ⟨hkeeps, -⟩ :=
    onThisMachine.loadProjects_leaves_disk "projects.json" none brokenListing
  obtain ⟨-, hstays⟩ := hkeeps failure (by rw [hload])
  rw [hload] at hstays
  exact ⟨failure, _, hload, hstays hfree⟩

end Client

end BadgeEntry
