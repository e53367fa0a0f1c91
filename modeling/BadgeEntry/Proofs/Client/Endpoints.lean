import BadgeEntry.Proofs.Client.Made
import BadgeEntry.Proofs.Client.Sent
import BadgeEntry.Proofs.Site.Places

/-!
# The pages that a client uses

A client is made for a root that has an address.  Then every page that it uses has an
address too, so that no step of it fails for that; and on a site of the web all of them are
on that site.  Their paths go on behind the path of the root, unless the root has a query
or a fragment: what is put behind it then is a part of that, and the path stays as it is.

## Main definitions

* `Client.HasPages` — the addresses of the pages of a client.
* `Client.NeverBlames` — a visit that does not fail for an address.
* `Address.Extends` — an address of which the path goes on behind that of another one.

## Main results

* `Client.IsMade.usable` — **a client that was made can use all its pages.**
* `Client.IsMade.paths_extend` — **the paths of the pages go on behind that of the root**, just if
  it has neither a query nor a fragment.
-/

namespace BadgeEntry

open Http Site Submission Form Url Visit

/-- An address of which the path goes on behind that of another one, with a query. -/
structure Url.Address.Extends (u base : Address) (place : List Char) (query : Option (List Char)) :
    Prop where
  path : u.path.render = base.path.render ++ place
  query : u.query = query
  fragment : u.fragment = none

namespace Client

/-- The addresses of the pages that a client uses for a project and for the listing. -/
structure HasPages [NameMapping] (c : Client) (project : ProjectId) (page : UInt32)
    (edit form listing : Address) : Prop where
  edit : Address.parse (editPage c.root project) = .ok edit
  form : Address.parse (projectPage c.root project) = .ok form
  listing : Address.parse (listingPage c.root page) = .ok listing

/-- A visit that does not fail because a text made from the root is no address. -/
def NeverBlames {α : Type} (v : Visit α) : Prop :=
  ∀ w text fault, (v.run w).1 ≠ .error (.badAddress text fault)

variable {c : Client} {project : ProjectId} {page : UInt32} {edit form listing base : Address}

/-! ### Steps that do not fail for an address -/

namespace HasPages

variable [NameMapping] (h : c.HasPages project page edit form listing) (login : String)
  (updates : Updates)
  (tokens : PageTokens)
include h

theorem neverBlames_readTokens : NeverBlames (c.readTokens project login) := by
  intro w text fault
  have hread := c.reading project login w
  generalize (c.readTokens project login).run w = out at hread
  cases hread with
  | noAddress _ hunreadable =>
    rw [h.edit] at hunreadable
    cases hunreadable
  | _ => exact nofun

theorem neverBlames_submit : NeverBlames (c.submit project updates tokens) := by
  intro w text fault
  have hsubmit := c.submission project updates tokens w
  generalize (c.submit project updates tokens).run w = out at hsubmit
  cases hsubmit with
  | noAddress _ hunreadable =>
    rw [h.form] at hunreadable
    cases hunreadable
  | _ => exact nofun

theorem neverBlames_mutate : NeverBlames (c.mutate project updates login) := by
  intro w text fault hblames
  have hread := h.neverBlames_readTokens login w text fault
  rw [mutate_run] at hblames
  generalize (c.readTokens project login).run w = out at hread hblames
  obtain ⟨result, after⟩ := out
  cases result with
  | error failure =>
    refine hread ?_
    cases hblames
    rfl
  | ok tokens =>
    dsimp only at hblames
    split at hblames
    · cases hblames
    · exact h.neverBlames_submit updates tokens after text fault hblames

theorem neverBlames_write : NeverBlames (c.write project updates login) := by
  intro w text fault hblames
  have hmutate := h.neverBlames_mutate login updates w text fault
  rw [write_run] at hblames
  generalize (c.mutate project updates login).run w = out at hmutate hblames
  obtain ⟨result, after⟩ := out
  cases result with
  | error failure =>
    refine hmutate ?_
    cases hblames
    rfl
  | ok outcome => cases hblames

end HasPages

section

variable [NameMapping]

theorem IsMade.getLast?_root (h : c.IsMade) : c.root.toList.getLast? = some '/' := by
  obtain ⟨_, _, hroot, -⟩ := h.exists_normalize
  exact getLast?_normalize hroot

theorem IsMade.exists_hasPages (h : c.IsMade) (project : ProjectId) (page : UInt32) :
    ∃ edit form listing, c.HasPages project page edit form listing := by
  obtain ⟨base, hbase⟩ := h.exists_parse_root
  obtain ⟨edit, hedit⟩ := exists_parse_editPage project hbase h.getLast?_root
  obtain ⟨form, hform⟩ := exists_parse_projectPage project hbase h.getLast?_root
  obtain ⟨listing, hlisting⟩ := exists_parse_listingPage page hbase h.getLast?_root
  exact ⟨edit, form, listing, hedit, hform, hlisting⟩

/-- On a site of the web the pages lie at their places below the root. -/
theorem IsMade.hasPages_extended (h : c.IsMade) (hbase : Address.parse c.root = .ok base)
    (hweb : base.kind = .web) (project : ProjectId) (page : UInt32) :
    c.HasPages project page (base.extended (editPlace project))
      (base.extended (formPlace project)) (base.extended (listingPlace page)) where
  edit := parse_editPage project hbase hweb h.getLast?_root
  form := parse_projectPage project hbase hweb h.getLast?_root
  listing := parse_listingPage page hbase hweb h.getLast?_root

/-- **A client that was made can use all its pages**: they have addresses, so that no step
fails for one, and on a site of the web they have the scheme and the authority of the root. -/
theorem IsMade.usable (h : c.IsMade) :
    ∃ base, Address.parse c.root = .ok base ∧ ∀ (project : ProjectId) (page : UInt32),
      (∃ edit form listing, c.HasPages project page edit form listing ∧
        (base.kind = .web → edit.IsOnSite base ∧ form.IsOnSite base ∧ listing.IsOnSite base)) ∧
      ∀ (login : String) (updates : Updates) (tokens : PageTokens),
        NeverBlames (c.readTokens project login) ∧
          NeverBlames (c.submit project updates tokens) ∧
            NeverBlames (c.mutate project updates login) ∧
              NeverBlames (c.write project updates login) := by
  obtain ⟨base, hbase⟩ := h.exists_parse_root
  refine ⟨base, hbase, fun project page => ?_⟩
  obtain ⟨edit, form, listing, hpages⟩ := h.exists_hasPages project page
  refine ⟨⟨edit, form, listing, hpages, fun hweb => ?_⟩, fun login updates tokens => ?_⟩
  · -- the addresses of the pages are those of their places below the root
    have hextended := h.hasPages_extended hbase hweb project page
    obtain rfl := Except.ok.inj (hpages.edit.symm.trans hextended.edit)
    obtain rfl := Except.ok.inj (hpages.form.symm.trans hextended.form)
    obtain rfl := Except.ok.inj (hpages.listing.symm.trans hextended.listing)
    exact ⟨isOnSite_extended _ _, isOnSite_extended _ _, isOnSite_extended _ _⟩
  · exact ⟨hpages.neverBlames_readTokens login, hpages.neverBlames_submit updates tokens,
      hpages.neverBlames_mutate login updates, hpages.neverBlames_write login updates⟩

end

theorem usable_onThisMachine :
    onThisMachine.IsMade ∧ ∃ base, Address.parse localRoot = .ok base ∧ base.kind = .web ∧
      (∃ edit form listing, onThisMachine.HasPages 1 1 edit form listing ∧
        edit.IsOnSite base ∧ form.IsOnSite base ∧ listing.IsOnSite base) ∧
      NeverBlames (onThisMachine.write 1 Updates.empty "login") := by
  have hmade := isMade_of_create? create?_localRoot
  obtain ⟨base, hbase, hall⟩ := hmade.usable
  obtain ⟨⟨edit, form, listing, hpages, hsite⟩, hblames⟩ := hall 1 1
  have hweb : base.kind = .web := by
    obtain rfl := Except.ok.inj (hbase.symm.trans (rfl : Address.parse localRoot = .ok _))
    rfl
  exact ⟨hmade, base, hbase, hweb, ⟨edit, form, listing, hpages, hsite hweb⟩,
    (hblames "login" Updates.empty default).2.2.2⟩

/-! ### Where the pages are -/

theorem extends_extended (hbase : base.IsOpen) (hquery : base.query = none)
    (hfragment : base.fragment = none) (place : Place) :
    (base.extended place).Extends base (segmentsText place.segments) place.query where
  path := extended_path_render hbase hquery hfragment place
  query := extended_query hquery hfragment place
  fragment := extended_fragment hquery hfragment place

/-- Reading and writing ask for the addresses of the pages, but for tunnels. -/
theorem HasPages.address_of_mem_requests [NameMapping]
    (h : c.HasPages project page edit form listing)
    {updates : Updates} {login : String} {w : World} {q : Request}
    (hq : q ∈ (c.mutate project updates login).requests w) :
    (q.method = .get → q.address = edit.requested.text) ∧
      (q.method = .patch → q.address = form.requested.text) := by
  obtain ⟨qs, hsent, hasks⟩ := (c.leads_mutate project updates login w).sent
  rw [requests_eq hsent] at hq
  cases hasks q hq with
  | page hparse =>
    obtain rfl := Except.ok.inj (h.edit.symm.trans hparse)
    exact ⟨fun _ => rfl, fun hmethod => Method.noConfusion hmethod⟩
  | form hparse =>
    obtain rfl := Except.ok.inj (h.form.symm.trans hparse)
    exact ⟨fun hmethod => Method.noConfusion hmethod, fun _ => rfl⟩
  | tunnel address =>
    exact ⟨fun hmethod => Method.noConfusion hmethod, fun hmethod => Method.noConfusion hmethod⟩

/-- A request comes first, whatever is done with the answer. -/
theorem requests_send_bind {α : Type} {P : Request → Prop} {f : Response → Visit α}
    (hf : ∀ r, (f r).Determined P) {method : Method} {address : Address} {fields : Fields}
    {body : String} (hplain : address.scheme = "http") {w : World}
    (hreach : w.network.reachable = true) :
    ∃ qs, (send method address fields body >>= f).requests w =
      ⟨method, address.requested.text, fields, body⟩ :: qs := by
  suffices hsent : ∃ qs, ((send method address fields body >>= f).run w).2.sent =
      w.sent ++ ⟨method, address.requested.text, fields, body⟩ :: qs by
    obtain ⟨qs, hqs⟩ := hsent
    exact ⟨qs, requests_eq hqs⟩
  rw [bind_run, send_run, if_pos hreach, if_pos hplain]
  cases w.network.next.1 with
  | dropped => exact ⟨[], rfl⟩
  | answered r =>
    obtain ⟨u, -, hrun⟩ := (hf r).exists_run (w.exchanging ⟨method, address.requested.text, fields,
      body⟩)
    refine ⟨u.sent, ?_⟩
    change ((f r).run _).2.sent = _
    rw [hrun, World.after, World.exchanging_sent, List.append_assoc, List.singleton_append]

/-- A page of the listing is looked for at its address first. -/
theorem HasPages.requests_fetchPage [NameMapping] (h : c.HasPages project page edit form listing)
    (hplain : listing.scheme = "http") {w : World} (hreach : w.network.reachable = true) :
    ∃ qs, (c.fetchPage page).requests w =
      ⟨.get, listing.requested.text, [(.accept, acceptedListing)], ""⟩ :: qs := by
  have hfound : ofExcept (fun _ => .transport) (.ok listing : Except Fault Address) =
      (pure listing : Visit Address) := rfl
  unfold fetchPage
  dsimp only
  rw [h.listing, hfound, pure_bind, redirectionLimit, follow, bind_assoc]
  refine requests_send_bind (P := IsPublic) (fun response => ?_) hplain hreach
  refine Determined.bind ?_ fun response => determined_pageOfAnswer _ page response
  split
  · exact determined_pure _
  · next target _ => exact determined_follow _ target

/-- **The paths of the pages go on behind that of the root** if it has neither a query nor a
fragment; else they are that of the root.  The requests go to these pages. -/
theorem IsMade.paths_extend [NameMapping] (h : c.IsMade) (hbase : Address.parse c.root = .ok base)
    (hweb : base.kind = .web) (project : ProjectId) (page : UInt32) :
    ∃ edit form listing, c.HasPages project page edit form listing ∧
      (base.query = none → base.fragment = none →
        edit.Extends base (projectPlace project ++ "/edit".toList) none ∧
          form.Extends base (projectPlace project) none ∧
            listing.Extends base "projects.json".toList (some (listingQuery page))) ∧
      (¬(base.query = none ∧ base.fragment = none) →
        edit.path = base.path ∧ form.path = base.path ∧ listing.path = base.path) ∧
      (∀ updates login w, ∀ q ∈ (c.mutate project updates login).requests w,
        (q.method = .get → q.address = edit.requested.text) ∧
          (q.method = .patch → q.address = form.requested.text)) ∧
      (listing.scheme = "http" → ∀ w : World, w.network.reachable = true →
        ∃ qs, (c.fetchPage page).requests w =
          ⟨.get, listing.requested.text, [(.accept, acceptedListing)], ""⟩ :: qs) := by
  have hpages := h.hasPages_extended hbase hweb project page
  have hopen := isOpen_of_parse hbase hweb h.getLast?_root
  refine ⟨_, _, _, hpages, fun hquery hfragment => ?_, fun hnot => ?_,
    fun updates login w q hq => hpages.address_of_mem_requests hq,
    fun hplain w hreach => hpages.requests_fetchPage hplain hreach⟩
  · have hextends := extends_extended hopen hquery hfragment
    have hedit := hextends (editPlace project)
    have hform := hextends (formPlace project)
    have hlisting := hextends (listingPlace page)
    rw [segmentsText_editPlace] at hedit
    rw [segmentsText_formPlace] at hform
    rw [segmentsText_listingPlace] at hlisting
    exact ⟨hedit, hform, hlisting⟩
  · exact ⟨extended_path_of_not_none hnot _, extended_path_of_not_none hnot _,
      extended_path_of_not_none hnot _⟩

theorem paths_extend_onThisMachine : onThisMachine.IsMade ∧
    ∃ base edit, Address.parse localRoot = .ok base ∧ base.query = none ∧ base.fragment = none ∧
      Address.parse (editPage localRoot 1) = .ok edit ∧
        edit.path.render = base.path.render ++ "en/projects/1/edit".toList := by
  have hmade := isMade_of_create? create?_localRoot
  obtain ⟨edit, form, listing, hpages, hextends, -⟩ :=
    hmade.paths_extend (rfl : Address.parse localRoot = .ok _) rfl 1 1
  exact ⟨hmade, _, edit, rfl, rfl, rfl, hpages.edit, (hextends rfl rfl).1.path⟩

/-- A client of a site of which the root has a query. -/
def withQuery : Client :=
  ⟨{ root := "http://badge.test/?x=1/" }, EditPage.Extractor.usual⟩

theorem create?_withQuery : create? { root := "http://badge.test/?x=1" } = .ok withQuery := rfl

/-- A root with a query takes what is put behind it for a part of that. -/
theorem path_not_extended_withQuery : withQuery.IsMade ∧
    ∃ base edit, Address.parse withQuery.root = .ok base ∧ base.kind = .web ∧
      Address.parse (editPage withQuery.root 1) = .ok edit ∧
        edit.path.render ≠ base.path.render ++ "en/projects/1/edit".toList ∧
          edit.query = some "x=1/en/projects/1/edit".toList :=
  ⟨isMade_of_create? create?_withQuery, _, _, rfl, rfl, rfl, by decide, rfl⟩

end Client

end BadgeEntry
