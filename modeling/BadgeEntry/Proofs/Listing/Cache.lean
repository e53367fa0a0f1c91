import BadgeEntry.Proofs.Client.Made
import BadgeEntry.Proofs.Json.Kept
import BadgeEntry.Proofs.Json.Reals
import BadgeEntry.Proofs.Listing.Public
import BadgeEntry.Proofs.World.Files

/-!
# Projects that are kept in a file

A download leaves the disk alone, and what it yields was read from JSON text.  So what is
put into the file can be read from it again, by anyone and at any time, without a request.

## Main definitions

* `Visit.Collects` — a visit that leaves the disk alone and yields results of a kind.
* `Client.fileBytes` — what is put into the file.

## Main results

* `Client.collects_fetchProjects` — **the projects of a download fit.**
* `Client.loadProjects_run_of_read` — projects come from a file without a request.
* `Client.loadProjects_transparent` — **a file stands for the download that filled it.**
-/

namespace BadgeEntry

open Http Site Json Url

namespace Visit

variable {α β : Type}

/-- Whether a visit leaves the disk alone, and what it yields is of some kind. -/
def Collects (v : Visit α) (P : α → Prop) : Prop :=
  ∀ w, (v.run w).2.disk = w.disk ∧ ∀ a, (v.run w).1 = .ok a → P a

theorem collects_pure {P : α → Prop} {a : α} (h : P a) : (pure a : Visit α).Collects P := by
  intro w
  refine ⟨rfl, fun b hb => ?_⟩
  cases hb
  exact h

theorem collects_throw (e : Failure) (P : α → Prop) : (throw e : Visit α).Collects P :=
  fun _ => ⟨rfl, nofun⟩

theorem collects_report (e : Event) : (report e).Collects fun _ => True :=
  fun _ => ⟨rfl, fun _ _ => trivial⟩

theorem collects_ofExcept {ε : Type} (fail : ε → Failure) {x : Except ε α} {P : α → Prop}
    (h : ∀ a, x = .ok a → P a) : (ofExcept fail x).Collects P := by
  cases x with
  | error e => exact collects_throw _ P
  | ok a => exact collects_pure (h a rfl)

theorem collects_bodyText (r : Response) : (bodyText r).Collects fun _ => True := by
  unfold bodyText
  cases r.body with
  | none => exact collects_throw _ _
  | some bytes => exact collects_pure trivial

theorem collects_send (method : Method) (address : Address) (fields : Fields) (body : String) :
    (send method address fields body).Collects fun _ => True := by
  intro w
  refine ⟨?_, fun _ _ => trivial⟩
  have hsending := sending w method address fields body
  generalize (send method address fields body).run w = out at hsending
  cases hsending <;> rfl

/-- **A sequence** yields what its second part makes of what its first part yields. -/
theorem Collects.bind {v : Visit α} {f : α → Visit β} {P : α → Prop} {Q : β → Prop}
    (hv : v.Collects P) (hf : ∀ a, P a → (f a).Collects Q) : (v >>= f).Collects Q := by
  intro w
  obtain ⟨hdisk, hfirst⟩ := hv w
  rw [bind_run]
  generalize v.run w = out at hdisk hfirst
  obtain ⟨result, after⟩ := out
  cases result with
  | error e => exact ⟨hdisk, nofun⟩
  | ok a =>
    obtain ⟨hrest, hlast⟩ := hf a (hfirst a rfl) after
    exact ⟨hrest.trans hdisk, hlast⟩

end Visit

open Visit

/-- The world after a download of which the projects are about to be put into a file. -/
def World.saving (w : World) (u : Upshot (List Value)) (path : String) : World :=
  ((w.reporting [.retrieving]).after u).reporting [.savingCache path]

namespace Client

/-! ### The file -/

/-- What is put into a file: the compact JSON text of the projects. -/
def fileBytes (projects : List Value) : List UInt8 :=
  Utf8.encode (renderAll projects).toList

theorem writeCache_run (path : String) (projects : List Value) (w : World) :
    (writeCache path projects).run w =
      match w.disk.write path (fileBytes projects) with
      | .error fault => (.error (.disk .writing path fault), w.reporting [.savingCache path])
      | .ok disk => (.ok (), { w.reporting [.savingCache path] with disk }) := by
  unfold writeCache
  rw [bind_run, report_run]
  change run (do
    let disk ← ofExcept (.disk .writing path) (w.disk.write path (fileBytes projects))
    modify fun w => { w with disk }) (w.reporting _) = _
  cases w.disk.write path (fileBytes projects) <;> rfl

/-! ### Downloads -/

/-- Projects of which each was read from JSON text. -/
def AreKept (projects : List Value) : Prop :=
  ∀ v ∈ projects, v.Fits Number.IsKept (bracketLimit - 1)

section

variable [NameMapping]

theorem collects_follow (limit : Nat) (address : Address) :
    (follow limit address).Collects fun _ => True := by
  induction limit generalizing address with
  | zero =>
    rw [follow]
    refine (collects_send _ _ _ _).bind fun response _ => ?_
    split
    · exact collects_pure trivial
    · exact collects_throw _ _
  | succ limit ih =>
    rw [follow]
    refine (collects_send _ _ _ _).bind fun response _ => ?_
    split
    · exact collects_pure trivial
    · next target _ => exact ih target

variable (c : Client) (maxPages : Option UInt32)

theorem collects_fetchPage (page : UInt32) : (c.fetchPage page).Collects AreKept := by
  unfold fetchPage
  refine (collects_ofExcept _ fun _ _ => trivial).bind fun address (_ : True) => ?_
  refine (collects_follow redirectionLimit address).bind fun response _ => ?_
  have hread : (do
      let projects ← ofExcept .json (readList (← bodyText response))
      report (.pageRetrieved page projects.length)
      return projects : Visit (List Value)).Collects AreKept := by
    refine (collects_bodyText response).bind fun text _ => ?_
    refine (collects_ofExcept _ fun _ => fits_of_readList).bind fun projects hfits => ?_
    exact (collects_report _).bind fun _ _ => collects_pure hfits
  split
  · exact (collects_throw _ fun _ => True).bind fun _ _ => hread
  · exact hread

theorem collects_fetchFrom (fuel : Nat) (page : UInt32) :
    (c.fetchFrom maxPages fuel page).Collects AreKept := by
  induction fuel generalizing page with
  | zero => exact collects_pure (List.forall_mem_nil _)
  | succ fuel ih =>
    rw [fetchFrom]
    refine (c.collects_fetchPage page).bind fun projects hfits => ?_
    split
    · exact collects_pure (List.forall_mem_nil _)
    · split
      · exact collects_pure hfits
      · refine (ih (page + 1)).bind fun rest hrest => collects_pure fun v hv => ?_
        rcases List.mem_append.mp hv with hpage | hlater
        · exact hfits v hpage
        · exact hrest v hlater

/-- **The projects of a download fit**, and it leaves the disk alone. -/
theorem collects_fetchProjects : (c.fetchProjects maxPages).Collects AreKept :=
  c.collects_fetchFrom maxPages _ 1

/-- The run of a page that is answered. -/
theorem fetchPage_run_of_answers (page : UInt32) {address : Address} {text : String}
    {projects : List Value} {w : World}
    (hparse : Address.parse (listingPage c.root page) = .ok address)
    (hanswers : w.network.Answers address (Response.page 200 text))
    (hread : readList text = .ok projects) :
    (c.fetchPage page).run w =
      (.ok projects, (w.exchanging ⟨.get, address.requested.text, [(.accept, acceptedListing)],
        ""⟩).reporting [.pageRetrieved page projects.length]) := by
  have hfound : ofExcept (fun _ => .transport) (.ok address : Except Url.Fault Address) =
      (pure address : Visit Address) := rfl
  have hfollow : (follow redirectionLimit address).run w = (.ok (Response.page 200 text),
      w.exchanging ⟨.get, address.requested.text, [(.accept, acceptedListing)], ""⟩) := by
    rw [redirectionLimit, follow, bind_run, send_run, if_pos hanswers.reachable,
      if_pos hanswers.plain, hanswers.reply]
    rfl
  have hbody : bodyText (Response.page 200 text) = pure text := by
    unfold bodyText Response.page
    dsimp only
    rw [Utf8.decode_encode, String.ofList_toList]
  unfold fetchPage
  dsimp only
  rw [hparse, hfound, pure_bind, bind_run, hfollow]
  change run (do
    let projects ← ofExcept .json (readList (← bodyText (Response.page 200 text)))
    report (.pageRetrieved page projects.length)
    return projects) _ = _
  rw [hbody, pure_bind, hread]
  rfl

/-! ### Loads -/

/-- Whether every binary number in some projects is read from its text. -/
def RealsReadBack (projects : List Value) : Prop :=
  ∀ v ∈ projects, ∀ x, v.Holds (.real x) → (Number.real x).ReadsBack

variable {path : String} {projects : List Value}

/-- **The run of a load**: the file is read if there is something, else it is filled. -/
theorem loadProjects_run (w : World) :
    (c.loadProjects path maxPages).run w =
      if w.disk.exists? path = true then (readCache path).run w
      else (do
        let projects ← c.fetchProjects maxPages
        writeCache path projects
        return projects : Visit (List Value)).run (w.reporting [.retrieving]) := by
  have hopen : (c.loadProjects path maxPages).run w =
      (if w.disk.exists? path = true then readCache path
        else do
          report .retrieving
          let projects ← c.fetchProjects maxPages
          writeCache path projects
          return projects : Visit (List Value)).run w := rfl
  rw [hopen]
  split
  · rfl
  · rw [bind_run, report_run]

/-- Projects come from a file without a request. -/
theorem loadProjects_run_of_read {w : World} (h : w.disk.read path = .ok (fileBytes projects))
    (hread : readList (renderAll projects) = .ok projects) :
    (c.loadProjects path maxPages).run w = (.ok projects, w.reporting [.loadingCache path]) := by
  have htext := Disk.readText_of_read h
  rw [loadProjects_run, if_pos (Disk.exists?_of_read h)]
  unfold readCache
  rw [bind_run]
  change run (do
    let text ← ofExcept (.disk .reading path) (w.disk.readText path)
    ofExcept .json (readList text)) (w.reporting _) = _
  rw [htext]
  change run (ofExcept .json (readList (renderAll projects))) _ = _
  rw [hread]
  rfl

/-- **Projects are put into a file where nothing is**: what is sent, and what comes of it, is
as for a download, unless the file cannot be written. -/
theorem loadProjects_run_of_free {w : World} (hfree : w.disk.exists? path = false) :
    ∃ u : Upshot (List Value), (c.fetchProjects maxPages).run w = (u.result, w.after u) ∧
      (c.loadProjects path maxPages).run w = match u.result with
        | .error e => (.error e, (w.reporting [.retrieving]).after u)
        | .ok projects =>
          match w.disk.write path (fileBytes projects) with
          | .error fault => (.error (.disk .writing path fault), w.saving u path)
          | .ok disk => (.ok projects, { w.saving u path with disk }) := by
  obtain ⟨u, -, hrun⟩ := c.determined_fetchProjects maxPages w
  have hfetch := hrun w (.refl _ w)
  have hlater := hrun (w.reporting [.retrieving]) ⟨rfl, rfl, rfl⟩
  refine ⟨u, hfetch, ?_⟩
  rw [loadProjects_run, hfree, if_neg Bool.false_ne_true, bind_run, hlater]
  cases hresult : u.result with
  | error e => rfl
  | ok found =>
    -- the download leaves the disk as it was, so the path is still free
    have hdisk := (c.collects_fetchProjects maxPages w).1
    rw [hfetch] at hdisk
    have hmid : ((w.reporting [.retrieving]).after u).disk = w.disk := hdisk
    change run (writeCache path found >>= fun _ => pure found) _ = _
    rw [bind_run, writeCache_run, hmid]
    dsimp only
    cases w.disk.write path (fileBytes found) <;> rfl

/-- If a load that found nothing succeeds, so does the download, and its projects are
written. -/
theorem exists_of_loadProjects {w after : World} (hfree : w.disk.exists? path = false)
    (h : (c.loadProjects path maxPages).run w = (.ok projects, after)) :
    ∃ u : Upshot (List Value), (c.fetchProjects maxPages).run w = (.ok projects, w.after u) ∧
      after.sent = w.sent ++ u.sent ∧
        w.disk.write path (fileBytes projects) = .ok after.disk := by
  obtain ⟨u, hfetch, hload⟩ := c.loadProjects_run_of_free maxPages hfree
  rw [h] at hload
  cases hresult : u.result with
  | error e =>
    rw [hresult] at hload
    cases hload
  | ok found =>
    rw [hresult] at hload hfetch
    dsimp only at hload
    cases hwrite : w.disk.write path (fileBytes found) with
    | error fault =>
      rw [hwrite] at hload
      cases hload
    | ok disk =>
      rw [hwrite] at hload
      cases hload
      exact ⟨u, hfetch, rfl, hwrite⟩

/-- **A file stands for the download that filled it.**  If projects are loaded and nothing
is at the path, the same requests are sent and the same projects are found as by a
download, and their text is in the file.  As long as it is there, whoever loads the
projects, in whatever world, finds the same ones without a request, if their binary
numbers are read from their texts. -/
theorem loadProjects_transparent {w after : World} (hfree : w.disk.exists? path = false)
    (h : (c.loadProjects path maxPages).run w = (.ok projects, after)) :
    ((c.fetchProjects maxPages).run w).1 = .ok projects ∧
      (c.loadProjects path maxPages).requests w = (c.fetchProjects maxPages).requests w ∧
      after.disk.read path = .ok (fileBytes projects) ∧
      (RealsReadBack projects → ∀ (other : Client) (pages : Option UInt32) (later : World),
        later.disk.read path = after.disk.read path →
          (other.loadProjects path pages).run later =
            (.ok projects, later.reporting [.loadingCache path])) := by
  obtain ⟨u, hfetch, hsent, hwrite⟩ := c.exists_of_loadProjects maxPages hfree h
  have hfile := Disk.read_of_write hfree hwrite
  have hkept : AreKept projects := by
    refine (c.collects_fetchProjects maxPages w).2 projects ?_
    rw [hfetch]
  have hload : (c.loadProjects path maxPages).requests w = u.sent := requests_eq (by rw [h, hsent])
  have hdownload : (c.fetchProjects maxPages).requests w = u.sent := by
    refine requests_eq ?_
    rw [hfetch]
    rfl
  refine ⟨by rw [hfetch], hload.trans hdownload.symm, hfile, ?_⟩
  intro hreal other pages later hlater
  have hread := readList_renderAll_of_kept hkept hreal
  exact other.loadProjects_run_of_read pages (hlater.trans hfile) hread

end

/-! ### A short listing -/

/-- The number `1.5`. -/
def oneAndAHalf : Decimal.Binary64 := ⟨false, 6755399441055744, -52⟩

/-- A project with a number that is not whole. -/
def shortProjects : List Value :=
  [.object [("id", .number (.integer 1)), ("score", .number (.real oneAndAHalf))]]

/-- A listing with one project on one page. -/
def shortListing : World :=
  World.replying [.answered (.page 200 (renderAll shortProjects)), .answered (.page 200 "[]")]

theorem readsBack_oneAndAHalf : (Number.real oneAndAHalf).ReadsBack := by
  have hcanonical : oneAndAHalf.Canonical :=
    ⟨by decide, by decide, by decide, Or.inl (by decide)⟩
  exact readsBack_real hcanonical (by decide +kernel) (by decide +kernel)

theorem realsReadBack_shortProjects : RealsReadBack shortProjects := by
  intro v hv x hx
  obtain rfl := List.mem_singleton.mp hv
  obtain _ | _ | ⟨hm, hx⟩ := hx
  rcases List.mem_cons.mp hm with rfl | hm
  · cases hx
  · obtain rfl := List.mem_singleton.mp hm
    cases hx
    exact readsBack_oneAndAHalf

theorem areKept_shortProjects : AreKept shortProjects := by
  intro v hv
  obtain rfl := List.mem_singleton.mp hv
  refine .object ?_ fun m hm => ?_
  · exact List.pairwise_pair.mpr (by decide +kernel)
  · rcases List.mem_cons.mp hm with rfl | hm
    · exact .number ⟨by decide, by decide⟩
    · obtain rfl := List.mem_singleton.mp hm
      exact .number trivial

theorem fetchProjects_shortListing : ∃ after,
    (onThisMachine.fetchProjects none).run shortListing = (.ok shortProjects, after) := by
  have hread : readList (renderAll shortProjects) = .ok shortProjects :=
    readList_renderAll_of_kept areKept_shortProjects realsReadBack_shortProjects
  have hfirst := onThisMachine.fetchPage_run_of_answers 1 (w := shortListing) rfl
    ⟨rfl, rfl, rfl⟩ hread
  generalize hmid : World.reporting _ _ = mid at hfirst
  have hsecond := onThisMachine.fetchPage_run_of_answers 2 (w := mid) rfl
    ⟨by rw [← hmid]; rfl, rfl, by rw [← hmid]; rfl⟩ (rfl : readList "[]" = .ok [])
  have hfuel : UInt32.size - 1 = 4294967293 + 1 + 1 := rfl
  rw [fetchProjects, hfuel, fetchFrom, bind_run, hfirst]
  change ∃ after, run (do
    return shortProjects ++ (← onThisMachine.fetchFrom none (4294967293 + 1) 2)) mid = _
  rw [fetchFrom, bind_run, bind_run, hsecond]
  exact ⟨_, rfl⟩

theorem loadProjects_transparent_onThisMachine : ∃ after,
    shortListing.disk.exists? "projects.json" = false ∧
      (onThisMachine.loadProjects "projects.json" none).run shortListing =
        (.ok shortProjects, after) ∧
      RealsReadBack shortProjects ∧
      (onThisMachine.loadProjects "projects.json" (some 7)).run after =
        (.ok shortProjects, after.reporting [.loadingCache "projects.json"]) := by
  have hfree : shortListing.disk.exists? "projects.json" = false := rfl
  obtain ⟨u, hfetch, hload⟩ := onThisMachine.loadProjects_run_of_free none hfree
  obtain ⟨mid, hown⟩ := fetchProjects_shortListing
  rw [hown] at hfetch
  rw [← (Prod.mk.inj hfetch).1] at hload
  refine ⟨_, hfree, hload, realsReadBack_shortProjects, ?_⟩
  exact (onThisMachine.loadProjects_transparent none hfree hload).2.2.2
    realsReadBack_shortProjects onThisMachine (some 7) _ rfl

end Client

end BadgeEntry
