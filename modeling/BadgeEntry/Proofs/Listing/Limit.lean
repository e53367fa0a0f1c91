import BadgeEntry.Proofs.Client.Endpoints
import BadgeEntry.Proofs.Listing.Cache
import BadgeEntry.Proofs.Listing.Downloads

/-!
# The limit of a download

A download with a limit asks for no page beyond the limit, and yields nothing from there.  But
the limit is looked at behind a page with projects only, so the first page is asked for in any
case: a limit of no page at all is not kept.

## Main definitions

* `Client.IsLimited` — the downloads with a limit.
* `Client.StaysWithin` — a download that stays within its first pages.

## Main results

* `Client.exists_downloads` — a download with a limit takes that many turns, or one.
* `Client.IsLimited.staysWithin` — **the limit of a download is kept**, just if it is not zero.
-/

namespace BadgeEntry

open Http Site Json Url Visit

/-! ### What is asked for first -/

/-- Something is sent to an address of the web, if there is a network. -/
theorem Lookup.sent_ne_nil [NameMapping] {limit : Nat} {n : Network} {address : Address}
    {sent : List Request}
    {result : Except Failure Response} (h : Lookup limit n address sent result)
    (hreach : n.reachable = true) (hweb : address.scheme = "http" ∨ address.scheme = "https") :
    sent ≠ [] := by
  cases h with
  | unsent lost =>
    rcases lost with hlost | ⟨hplain, hsecure⟩
    · exact absurd (hreach.symm.trans hlost) Bool.noConfusion
    · exact absurd hweb (not_or.mpr ⟨hplain, hsecure⟩)
  | noTunnel | dropped | found | tooFar | moved => exact List.cons_ne_nil _ _

namespace Client

section

variable [NameMapping] {c : Client} {m : UInt32} {page : UInt32} {n : Network} {ts : List Turn}
  {w : World}

/-- Something is sent for a page with an address on the web, if there is a network. -/
theorem Fetches.sent_ne_nil {address : Address} {sent : List Request}
    {result : Except Failure (List Value)} (h : c.Fetches page n sent result)
    (hparse : Address.parse (listingPage c.root page) = .ok address) (hreach : n.reachable = true)
    (hweb : address.scheme = "http" ∨ address.scheme = "https") : sent ≠ [] := by
  cases h with
  | noAddress unread => cases hparse.symm.trans unread
  | lost parse lookup | refused parse lookup | truncated parse lookup | noList parse lookup
  | given parse lookup =>
    obtain rfl := Except.ok.inj (hparse.symm.trans parse)
    exact lookup.sent_ne_nil hreach hweb

/-! ### The turns of a download with a limit -/

/-- A download with a limit takes the pages from the first one up to the limit at most. -/
theorem exists_downloads (c : Client) (m : UInt32) (page : UInt32) (n : Network) :
    ∃ ts, c.Downloads (some m) page n ts ∧ ts.length ≤ m.toNat - page.toNat + 1 := by
  -- on what is left up to the limit
  induction hleft : m.toNat - page.toNat generalizing page n with
  | zero =>
    obtain ⟨t, fetch⟩ := c.exists_fetches page n
    refine ⟨[t], .last fetch ?_, Nat.le_refl _⟩
    rintro ⟨-, -, -, hbelow⟩
    have hlt : page.toNat < m.toNat := by
      simpa [UInt32.le_iff_toNat_le] using hbelow
    omega
  | succ left ih =>
    obtain ⟨t, fetch⟩ := c.exists_fetches page n
    by_cases hgoesOn : t.GoesOn (some m) page
    · have hnext : (page + 1).toNat = page.toNat + 1 := by
        have hm := m.toNat_lt
        refine toNat_nextPage ?_
        change page.toNat + 1 < 2 ^ 32
        omega
      obtain ⟨ts, hrest, hlength⟩ := ih (page + 1) (n.drop (replyCount t.sent)) (by omega)
      exact ⟨t :: ts, .more fetch hgoesOn hrest, Nat.succ_le_succ hlength⟩
    · exact ⟨[t], .last fetch hgoesOn, by simp⟩

/-- What a download with a limit comes to. -/
theorem exists_fetchProjects_run (c : Client) (m : UInt32) (w : World) :
    ∃ ts, c.Downloads (some m) 1 w.network ts ∧ ts.length ≤ max 1 m.toNat ∧
      (c.fetchProjects (some m)).run w = (joined ts, w.afterTurns 1 ts) := by
  obtain ⟨ts, hdownloads, hlength⟩ := c.exists_downloads m 1 w.network
  have hbound : ts.length ≤ max 1 m.toNat := by
    change ts.length ≤ m.toNat - 1 + 1 at hlength
    omega
  refine ⟨ts, hdownloads, hbound, hdownloads.fetchFrom_run ?_ w rfl⟩
  have hm := m.toNat_lt
  change ts.length ≤ 2 ^ 32 - 1
  omega

/-! ### Downloads that stay within their first pages -/

/-- A download with a limit: of the listing as it is, or for a file that is missing. -/
inductive IsLimited (c : Client) (m : UInt32) (w : World) : Visit (List Value) → Prop
  /-- The listing itself. -/
  | fetch : IsLimited c m w (c.fetchProjects (some m))
  /-- The listing for a file. -/
  | load {path : String} (free : w.disk.exists? path = false) :
    IsLimited c m w (c.loadProjects path (some m))

/-- A download that stays within its first pages: apart from redirections it asks for at most
some of them in turn, and it yields their projects only. -/
def StaysWithin (c : Client) (bound : Nat) (v : Visit (List Value)) (w : World) : Prop :=
  ∃ ts, c.InTurn 1 w.network ts ∧ ts.length ≤ bound ∧ v.requests w = sentIn ts ∧
    ∀ projects, (v.run w).1 = .ok projects → joined ts = .ok projects

/-- A download that stays within no page asks for nothing. -/
theorem StaysWithin.requests_eq_nil {v : Visit (List Value)} (h : c.StaysWithin 0 v w) :
    v.requests w = [] := by
  obtain ⟨ts, -, hlength, hrequests, -⟩ := h
  obtain rfl := List.length_eq_zero_iff.mp (Nat.le_zero.mp hlength)
  exact hrequests

/-- A load for a file sends what the download sends. -/
theorem requests_loadProjects {path : String} (maxPages : Option UInt32)
    (hfree : w.disk.exists? path = false) :
    (c.loadProjects path maxPages).requests w = (c.fetchProjects maxPages).requests w := by
  obtain ⟨u, hfetch, hload⟩ := c.loadProjects_run_of_free maxPages hfree
  have hdownload : (c.fetchProjects maxPages).requests w = u.sent := by
    refine requests_eq ?_
    rw [hfetch]
    rfl
  rw [hdownload]
  refine requests_eq ?_
  rw [hload]
  cases u.result with
  | error failure => rfl
  | ok found =>
    dsimp only
    cases w.disk.write path (fileBytes found) <;> rfl

/-- What is sent and yielded with a limit is what some turns come to. -/
theorem IsLimited.exists_turns {v : Visit (List Value)} (h : c.IsLimited m w v) :
    ∃ ts, c.Downloads (some m) 1 w.network ts ∧ ts.length ≤ max 1 m.toNat ∧
      v.requests w = sentIn ts ∧
        ∀ projects, (v.run w).1 = .ok projects → joined ts = .ok projects := by
  obtain ⟨ts, hdownloads, hlength, hrun⟩ := c.exists_fetchProjects_run m w
  have hrequests : (c.fetchProjects (some m)).requests w = sentIn ts :=
    requests_eq (by rw [hrun, World.afterTurns_sent])
  refine ⟨ts, hdownloads, hlength, ?_⟩
  cases h with
  | fetch =>
    refine ⟨hrequests, fun projects hok => ?_⟩
    rw [hrun] at hok
    exact hok
  | load hfree =>
    refine ⟨(requests_loadProjects (some m) hfree).trans hrequests, fun projects hok => ?_⟩
    obtain ⟨u, hfetch, -⟩ := c.exists_of_loadProjects (some m) hfree (Prod.ext hok rfl)
    rw [hrun] at hfetch
    exact (Prod.mk.inj hfetch).1

/-- **The limit of a download is kept**, just if it is not zero.  In any case the download
stays within the pages up to the limit or, if the limit is zero, within the first page; and on
a site of the web that is in reach it does ask for that page. -/
theorem IsLimited.staysWithin {v : Visit (List Value)} (h : c.IsLimited m w v) :
    c.StaysWithin (max 1 m.toNat) v w ∧
      (c.IsMade → ∀ base, Address.parse c.root = .ok base →
        (base.scheme = "http" ∨ base.scheme = "https") → w.network.reachable = true →
          (c.StaysWithin m.toNat v w ↔ m ≠ 0)) := by
  obtain ⟨ts, hdownloads, hlength, hrequests, hok⟩ := h.exists_turns
  have hwithin : c.StaysWithin (max 1 m.toNat) v w :=
    ⟨ts, hdownloads.inTurn, hlength, hrequests, hok⟩
  refine ⟨hwithin, fun hmade base hbase hscheme hreach => ⟨?_, fun hm => ?_⟩⟩
  · rintro hlimit rfl
    have hnothing : sentIn ts = [] := hrequests.symm.trans hlimit.requests_eq_nil
    have hweb : base.kind = .web := by
      rcases hscheme with hplain | hsecure
      · exact kind_of_http hplain
      · rw [Address.kind, hsecure]
        rfl
    have hlisting := (hmade.hasPages_extended hbase hweb 1 1).listing
    rw [← (isOnSite_extended base (listingPlace 1)).scheme] at hscheme
    -- but something is sent in the first turn
    cases hdownloads with
    | last fetch _ | more fetch _ _ =>
      rw [sentIn_cons] at hnothing
      refine fetch.sent_ne_nil hlisting hreach hscheme ?_
      exact (List.append_eq_nil_iff.mp hnothing).1
  · have hpos : m.toNat ≠ 0 := fun hzero => hm (UInt32.toNat_inj.mp hzero)
    rwa [Nat.max_eq_right (Nat.one_le_iff_ne_zero.mpr hpos)] at hwithin

end

theorem staysWithin_onThisMachine :
    onThisMachine.IsLimited 1 movedListing (onThisMachine.loadProjects "p.json" (some 1)) ∧
      onThisMachine.StaysWithin 1 (onThisMachine.loadProjects "p.json" (some 1)) movedListing := by
  have hlimited : onThisMachine.IsLimited 1 movedListing
      (onThisMachine.loadProjects "p.json" (some 1)) := .load rfl
  exact ⟨hlimited, hlimited.staysWithin.1⟩

/-- A download of no page asks for the first one, and so does a load for a file. -/
theorem not_staysWithin_noPage :
    ¬onThisMachine.StaysWithin 0 (onThisMachine.fetchProjects (some 0)) movedListing ∧
      ¬onThisMachine.StaysWithin 0 (onThisMachine.loadProjects "p.json" (some 0)) movedListing := by
  have hasked : ((onThisMachine.fetchProjects (some 0)).requests movedListing).length = 2 := by
    decide +kernel
  have hfree : movedListing.disk.exists? "p.json" = false := rfl
  refine ⟨fun hwithin => ?_, fun hwithin => ?_⟩
  · rw [hwithin.requests_eq_nil] at hasked
    cases hasked
  · rw [← requests_loadProjects (some 0) hfree, hwithin.requests_eq_nil] at hasked
    cases hasked

end Client

end BadgeEntry
