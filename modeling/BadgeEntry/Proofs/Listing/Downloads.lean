import BadgeEntry.Proofs.Client.Made
import BadgeEntry.Proofs.Listing.Turns
import Mathlib.Tactic.Common

/-!
# What a download comes to

A download takes the pages in turn.  It goes on behind a page with projects, as long as the
page is below the limit, and stops at a page that fails, at one without projects, or at the
limit.  What it comes to is read off its turns: the projects of all of them, one list after
the other, or the failure of the last one; never a part of the projects.

## Main definitions

* `Turn.GoesOn` — whether a download goes on behind a page.
* `Client.Downloads` — the turns of a download.
* `joined` — what some turns come to.

## Main results

* `Client.Downloads.fetchFrom_run` — **what a download comes to.**
* `Client.fetchProjects_in_turn` — **a download is complete, in order, and all or nothing.**
-/

namespace BadgeEntry

open Http Site Json Url Visit

/-! ### Turns -/

theorem toNat_nextPage {page : UInt32} (h : page.toNat + 1 < UInt32.size) :
    (page + 1).toNat = page.toNat + 1 := by
  rw [UInt32.toNat_add]
  exact Nat.mod_eq_of_lt h

/-- Whether a download goes on behind a page: there are projects on it, and it is below the
limit. -/
def Turn.GoesOn (maxPages : Option UInt32) (page : UInt32) (t : Turn) : Prop :=
  ∃ projects, t.result = .ok projects ∧ projects ≠ [] ∧ maxPages.any (· ≤ page) = false

/-- What some turns come to: all their projects in order, or the first failure. -/
def joined : List Turn → Except Failure (List Value)
  | [] => .ok []
  | t :: ts => do
    let projects ← t.result
    return projects ++ (← joined ts)

/-- What is reported of some pages, from a page on. -/
def eventsFrom (page : UInt32) : List Turn → List Event
  | [] => []
  | t :: ts => t.events page ++ eventsFrom (page + 1) ts

/-- What is sent for some pages. -/
def sentIn (ts : List Turn) : List Request :=
  ts.flatMap Turn.sent

@[simp] theorem sentIn_cons (t : Turn) (ts : List Turn) : sentIn (t :: ts) = t.sent ++ sentIn ts :=
  List.flatMap_cons

/-- The world after some pages. -/
def World.afterTurns (w : World) (page : UInt32) (ts : List Turn) : World :=
  (w.lookedUp (sentIn ts)).reporting (eventsFrom page ts)

@[simp] theorem World.afterTurns_sent (w : World) (page : UInt32) (ts : List Turn) :
    (w.afterTurns page ts).sent = w.sent ++ sentIn ts := rfl

@[simp] theorem World.afterTurns_events (w : World) (page : UInt32) (ts : List Turn) :
    (w.afterTurns page ts).events = w.events ++ eventsFrom page ts := rfl

@[simp] theorem World.afterTurn_network (w : World) (page : UInt32) (t : Turn) :
    (w.afterTurn page t).network = w.network.drop (replyCount t.sent) := rfl

theorem World.afterTurns_singleton (w : World) (page : UInt32) (t : Turn) :
    w.afterTurns page [t] = w.afterTurn page t := by
  simp [afterTurns, afterTurn, eventsFrom, sentIn]

/-- A page, and then some more. -/
theorem World.afterTurn_afterTurns (w : World) (page : UInt32) (t : Turn) (ts : List Turn) :
    (w.afterTurn page t).afterTurns (page + 1) ts = w.afterTurns page (t :: ts) := by
  simp [afterTurns, afterTurn, eventsFrom, lookedUp, reporting, Network.drop_add]

theorem joined_append_of_error {ts : List Turn} {t : Turn} {failure : Failure}
    (hts : ∀ u ∈ ts, ∃ projects, u.result = .ok projects) (ht : t.result = .error failure) :
    joined (ts ++ [t]) = .error failure := by
  induction ts with
  | nil =>
    rw [List.nil_append, joined, ht]
    rfl
  | cons u ts ih =>
    rw [List.forall_mem_cons] at hts
    obtain ⟨⟨projects, hu⟩, hrest⟩ := hts
    rw [List.cons_append, joined, hu, ih hrest]
    rfl

/-- Turns of which each one yields a list come to all these lists. -/
theorem joined_of_lists {ts : List Turn} {lists : List (List Value)}
    (h : ts.map Turn.result = lists.map Except.ok) : joined ts = .ok lists.flatten := by
  induction ts generalizing lists with
  | nil =>
    obtain rfl := List.map_eq_nil_iff.mp h.symm
    rfl
  | cons t ts ih =>
    obtain ⟨list, lists, rfl, ht, hts⟩ := List.map_eq_cons_iff.mp h.symm
    rw [joined, ← ht, ih hts.symm]
    rfl

namespace Client

/-! ### The turns of a download -/

/-- The turns of a download from a page on: it goes on behind all of them but the last. -/
inductive Downloads [NameMapping] (c : Client) (maxPages : Option UInt32) :
    UInt32 → Network → List Turn → Prop
  /-- The download stops here. -/
  | last {page : UInt32} {n : Network} {t : Turn} (fetch : c.Fetches page n t.sent t.result)
    (stops : ¬t.GoesOn maxPages page) : Downloads c maxPages page n [t]
  /-- The download goes on. -/
  | more {page : UInt32} {n : Network} {t : Turn} {ts : List Turn}
    (fetch : c.Fetches page n t.sent t.result) (goesOn : t.GoesOn maxPages page)
    (rest : Downloads c maxPages (page + 1) (n.drop (replyCount t.sent)) ts) :
    Downloads c maxPages page n (t :: ts)

variable {c : Client} {maxPages : Option UInt32} {page : UInt32} {n : Network} {ts : List Turn}

theorem Downloads.inTurn [NameMapping] (h : c.Downloads maxPages page n ts) :
    c.InTurn page n ts := by
  induction h with
  | last fetch => exact .cons fetch .nil
  | more fetch _ _ ih => exact .cons fetch ih

/-- **What a download comes to** is what its turns come to. -/
theorem Downloads.fetchFrom_run [NameMapping] (h : c.Downloads maxPages page n ts) {fuel : Nat}
    (hfuel : ts.length ≤ fuel) (w : World) (hn : w.network = n) :
    (c.fetchFrom maxPages fuel page).run w = (joined ts, w.afterTurns page ts) := by
  -- turn by turn; each one takes one page from the fuel
  induction h generalizing fuel w with
  | @last page n t fetch stops =>
    obtain ⟨fuel, rfl⟩ := Nat.exists_eq_succ_of_ne_zero (Nat.ne_zero_of_lt hfuel)
    have hpage : (c.fetchPage page).run w = (t.result, w.afterTurn page t) :=
      fetch.fetchPage_run w hn
    rw [fetchFrom, bind_run, hpage, World.afterTurns_singleton]
    cases hresult : t.result with
    | error failure =>
      rw [joined, hresult]
      rfl
    | ok projects =>
      rw [joined, hresult]
      show _ = (Except.ok (projects ++ []), _)
      rw [List.append_nil]
      by_cases hempty : projects = []
      · simp [hempty]
      · -- there are projects, so it is the limit that stops the download
        have hlimit : maxPages.any (· ≤ page) = true := by
          by_contra hbelow
          exact stops ⟨projects, hresult, hempty, Bool.eq_false_iff.mpr hbelow⟩
        simp [hempty, hlimit]
  | @more page n t ts fetch goesOn rest ih =>
    obtain ⟨fuel, rfl⟩ := Nat.exists_eq_succ_of_ne_zero (Nat.ne_zero_of_lt hfuel)
    have hpage : (c.fetchPage page).run w = (t.result, w.afterTurn page t) :=
      fetch.fetchPage_run w hn
    obtain ⟨projects, hresult, hsome, hbelow⟩ := goesOn
    have hlater := ih (Nat.le_of_succ_le_succ hfuel) (w.afterTurn page t) (by simp [hn])
    rw [fetchFrom, bind_run, hpage, joined, hresult]
    simp only [List.isEmpty_iff, hsome, if_false, hbelow, Bool.false_eq_true]
    rw [bind_run, hlater, World.afterTurn_afterTurns]
    cases joined ts <;> rfl

/-! ### Listings that end, and listings that break off -/

variable {full : List Turn} {last : Turn}

/-- How many pages a download may ask for, from a page on; `count` is the number of those that
there are. -/
def allowed (maxPages : Option UInt32) (page : UInt32) (count : Nat) : Nat :=
  match maxPages with
  | none => count
  | some m => m.toNat - page.toNat + 1

/-- From a page at the limit on, only that page. -/
theorem allowed_of_atLimit (h : maxPages.any (· ≤ page) = true) (count : Nat) :
    allowed maxPages page count = 1 := by
  obtain ⟨m, rfl, hm⟩ := (Option.any_eq_true _ _).mp h
  have hle : m.toNat ≤ page.toNat := UInt32.le_iff_toNat_le.mp (of_decide_eq_true hm)
  simp only [allowed]
  omega

/-- From a page below the limit on, that page and those that are allowed from the next one on. -/
theorem allowed_of_below (h : maxPages.any (· ≤ page) = false)
    (hnext : (page + 1).toNat = page.toNat + 1) (count : Nat) :
    allowed maxPages page (count + 1) = allowed maxPages (page + 1) count + 1 := by
  cases maxPages with
  | none => rfl
  | some m =>
    have hlt : page.toNat < m.toNat := by
      simpa [UInt32.le_iff_toNat_le] using h
    simp only [allowed, hnext]
    omega

/-- A download takes all pages up to the first one that is empty or fails, or those that are
allowed. -/
theorem InTurn.downloads [NameMapping] (h : c.InTurn page n (full ++ [last]))
    (hfull : ∀ t ∈ full, ∃ projects, t.result = .ok projects ∧ projects ≠ [])
    (hlast : ∀ projects, last.result = .ok projects → projects = [])
    (hsize : page.toNat + full.length < UInt32.size) :
    c.Downloads maxPages page n
      ((full ++ [last]).take (allowed maxPages page (full.length + 1))) := by
  induction full generalizing page n with
  | nil =>
    have htake : ([] ++ [last]).take (allowed maxPages page (0 + 1)) = [last] := by
      cases maxPages <;> simp [allowed]
    cases h with
    | cons fetch _ =>
      rw [List.length_nil, htake]
      refine .last fetch ?_
      rintro ⟨projects, hresult, hsome, -⟩
      exact hsome (hlast projects hresult)
  | cons t full ih =>
    rw [List.forall_mem_cons] at hfull
    obtain ⟨⟨projects, hresult, hsome⟩, hrest⟩ := hfull
    rw [List.length_cons] at hsize ⊢
    have hnext : (page + 1).toNat = page.toNat + 1 := toNat_nextPage (by omega)
    cases h with
    | cons fetch rest =>
      cases hlimit : maxPages.any (· ≤ page) with
      | true =>
        rw [allowed_of_atLimit hlimit, List.cons_append, List.take_succ_cons, List.take_zero]
        refine .last fetch ?_
        rintro ⟨-, -, -, hbelow⟩
        exact Bool.false_ne_true (hbelow.symm.trans hlimit)
      | false =>
        rw [allowed_of_below hlimit hnext, List.cons_append, List.take_succ_cons]
        refine .more fetch ⟨projects, hresult, hsome, hlimit⟩ (ih rest hrest ?_)
        rw [hnext]
        omega

/-! ### Whole downloads -/

/-- Whether a turn begins with the request for a page; what follows are redirections. -/
def AsksFor [NameMapping] (c : Client) (page : UInt32) (t : Turn) : Prop :=
  ∃ address further, Address.parse (listingPage c.root page) = .ok address ∧
    t.sent = listingRequest address :: further

/-- The turn number `i` is that of the page number `i`, counted from the first one. -/
theorem InTurn.exists_fetches_getElem [NameMapping] (h : c.InTurn page n ts) {i : Nat} {t : Turn}
    (hi : ts[i]? = some t) : ∃ later, c.Fetches (page + UInt32.ofNat i) later t.sent t.result := by
  induction h generalizing i with
  | nil => simp at hi
  | @cons page n u us fetch rest ih =>
    cases i with
    | zero =>
      obtain rfl := Option.some.inj hi
      exact ⟨n, by simpa using fetch⟩
    | succ i =>
      obtain ⟨later, hlater⟩ := ih hi
      have hpage : page + 1 + UInt32.ofNat i = page + UInt32.ofNat (i + 1) := by
        rw [UInt32.ofNat_add, UInt32.add_assoc, UInt32.add_comm 1]
        rfl
      exact ⟨later, hpage ▸ hlater⟩

/-- A page is reported by its number. -/
theorem le_of_mem_eventsFrom {p : UInt32} {count : Nat}
    (hsize : page.toNat + ts.length ≤ UInt32.size)
    (h : .pageRetrieved p count ∈ eventsFrom page ts) : p.toNat < page.toNat + ts.length := by
  induction ts generalizing page with
  | nil => simp [eventsFrom] at h
  | cons t ts ih =>
    rw [List.length_cons] at hsize ⊢
    rw [eventsFrom, List.mem_append] at h
    rcases h with hown | hlater
    · unfold Turn.events at hown
      cases hresult : t.result with
      | error failure => simp [hresult] at hown
      | ok projects =>
        simp only [hresult, List.mem_singleton, Event.pageRetrieved.injEq] at hown
        rw [hown.1]
        omega
    · cases ts with
      | nil => simp [eventsFrom] at hlater
      | cons u us =>
        have hnext : (page + 1).toNat = page.toNat + 1 := by
          rw [List.length_cons] at hsize
          exact toNat_nextPage (by omega)
        have hlt := ih (by omega) hlater
        omega

/-- What a download of a listing comes to that ends or breaks off. -/
theorem InTurn.fetchProjects_run [NameMapping] {w : World}
    (h : c.InTurn 1 w.network (full ++ [last]))
    (hfull : ∀ t ∈ full, ∃ projects, t.result = .ok projects ∧ projects ≠ [])
    (hlast : ∀ projects, last.result = .ok projects → projects = [])
    (hsize : full.length + 1 < UInt32.size) {ts : List Turn}
    (hts : (full ++ [last]).take (allowed maxPages 1 (full.length + 1)) = ts) :
    (c.fetchProjects maxPages).run w = (joined ts, w.afterTurns 1 ts) := by
  have hdownloads : c.Downloads maxPages 1 w.network ts := by
    rw [← hts]
    refine h.downloads hfull hlast ?_
    change 1 + full.length < UInt32.size
    omega
  refine hdownloads.fetchFrom_run ?_ w rfl
  rw [← hts, List.length_take, List.length_append, List.length_singleton]
  omega

/-- The first turns report no page beyond their number. -/
theorem le_of_mem_eventsFrom_take {m p : UInt32} {count : Nat}
    (h : .pageRetrieved p count ∈ eventsFrom 1 (ts.take m.toNat)) : p ≤ m := by
  have hm := m.toNat_lt
  have htake : (ts.take m.toNat).length ≤ m.toNat := List.length_take_le _ _
  have hsize : (1 : UInt32).toNat + (ts.take m.toNat).length ≤ UInt32.size := by
    change 1 + _ ≤ UInt32.size
    change m.toNat < UInt32.size at hm
    omega
  have hpage := le_of_mem_eventsFrom hsize h
  change p.toNat < 1 + _ at hpage
  refine UInt32.le_iff_toNat_le.mpr ?_
  omega

/-- A page that is found was asked for by its number, counted from one. -/
theorem InTurn.asksFor [NameMapping] (h : c.InTurn 1 n ts) {i : Nat} {t : Turn}
    (hi : ts[i]? = some t) {projects : List Value} (hresult : t.result = .ok projects) :
    c.AsksFor (UInt32.ofNat (i + 1)) t := by
  obtain ⟨later, hfetch⟩ := h.exists_fetches_getElem hi
  rw [hresult] at hfetch
  have hpage : (1 : UInt32) + UInt32.ofNat i = UInt32.ofNat (i + 1) := by
    rw [UInt32.ofNat_add, UInt32.add_comm]
    rfl
  rw [hpage] at hfetch
  exact hfetch.exists_eq_cons

/-! ### Pages with projects, and what is behind them -/

theorem exists_projects {lists : List (List Value)}
    (hlists : full.map Turn.result = lists.map Except.ok) (hfull : [] ∉ lists) :
    ∀ t ∈ full, ∃ projects, t.result = .ok projects ∧ projects ≠ [] := by
  intro t ht
  have hmem : t.result ∈ lists.map Except.ok := by
    rw [← hlists]
    exact List.mem_map_of_mem ht
  obtain ⟨projects, hprojects, hresult⟩ := List.mem_map.mp hmem
  refine ⟨projects, hresult.symm, ?_⟩
  rintro rfl
  exact hfull hprojects

/-- The lists of all pages, the empty one among them. -/
theorem map_result_of_empty {lists : List (List Value)}
    (hlists : full.map Turn.result = lists.map Except.ok) (hempty : last.result = .ok []) :
    (full ++ [last]).map Turn.result = (lists ++ [[]]).map Except.ok := by
  simp [hlists, hempty]

section
variable [NameMapping] {w : World} {lists : List (List Value)}
  (hturns : c.InTurn 1 w.network (full ++ [last]))
  (hlists : full.map Turn.result = lists.map Except.ok) (hfull : [] ∉ lists)
  (hsize : full.length + 1 < UInt32.size)

include hturns hlists hfull hsize

/-- Without a limit, a listing that ends comes to all its projects. -/
theorem run_fetchProjects_none (hempty : last.result = .ok []) :
    (c.fetchProjects none).run w = (.ok lists.flatten, w.afterTurns 1 (full ++ [last])) := by
  have hlast : ∀ projects, last.result = .ok projects → projects = [] := by
    intro projects hprojects
    exact Except.ok.inj (hprojects.symm.trans hempty)
  have hwhole : (full ++ [last]).take (allowed none 1 (full.length + 1)) = full ++ [last] :=
    List.take_of_length_le (by simp [allowed])
  rw [hturns.fetchProjects_run (exists_projects hlists hfull) hlast hsize hwhole,
    joined_of_lists (map_result_of_empty hlists hempty)]
  simp

/-- With a limit, it comes to the projects of the pages up to the limit. -/
theorem run_fetchProjects_some (hempty : last.result = .ok []) {m : UInt32} (hm : 1 ≤ m) :
    (c.fetchProjects (some m)).run w =
      (.ok (lists.take m.toNat).flatten, w.afterTurns 1 ((full ++ [last]).take m.toNat)) := by
  have hlast : ∀ projects, last.result = .ok projects → projects = [] := by
    intro projects hprojects
    exact Except.ok.inj (hprojects.symm.trans hempty)
  have hone : 1 ≤ m.toNat := UInt32.le_iff_toNat_le.mp hm
  have hallowed : allowed (some m) 1 (full.length + 1) = m.toNat := by
    change m.toNat - 1 + 1 = m.toNat
    omega
  have htaken : ((full ++ [last]).take m.toNat).map Turn.result =
      ((lists ++ [[]]).take m.toNat).map Except.ok := by
    rw [List.map_take, map_result_of_empty hlists hempty, List.map_take]
  have hrun : (c.fetchProjects (some m)).run w = _ :=
    hturns.fetchProjects_run (exists_projects hlists hfull) hlast hsize rfl
  rw [hallowed, joined_of_lists htaken, List.take_append] at hrun
  rw [hrun]
  cases m.toNat - lists.length <;> simp

/-- A listing that breaks off comes to the failure, if the limit lies behind it. -/
theorem run_fetchProjects_of_error {failure : Failure} (hfails : last.result = .error failure)
    (hreached : ∀ m, maxPages = some m → full.length < m.toNat ∨ full = []) :
    (c.fetchProjects maxPages).run w = (.error failure, w.afterTurns 1 (full ++ [last])) := by
  have hyields := exists_projects hlists hfull
  have hlast : ∀ projects, last.result = .ok projects → projects = [] := by
    intro projects hprojects
    rw [hfails] at hprojects
    cases hprojects
  have hwhole : (full ++ [last]).take (allowed maxPages 1 (full.length + 1)) = full ++ [last] := by
    refine List.take_of_length_le ?_
    rw [List.length_append, List.length_singleton]
    cases maxPages with
    | none => exact Nat.le_refl _
    | some m =>
      have hone : (1 : UInt32).toNat = 1 := rfl
      simp only [allowed, hone]
      rcases hreached m rfl with hlt | rfl
      · omega
      · simp
  rw [hturns.fetchProjects_run hyields hlast hsize hwhole,
    joined_append_of_error (fun t ht => (hyields t ht).imp fun _ h => h.1) hfails]

end

/-- **A download is complete, in order, and all or nothing.**  Let pages be given in turn, each
with projects, and let `last` be what is done for the page behind them.

If that page has no projects, then a download yields the projects of all pages in order, and
asks for each page once; with a limit it yields those of the pages up to the limit, a part at
the front of all projects, asks for no other page, and reports no page beyond the limit.  If
that page fails in any way, so does every download that comes to it, and it asks for no later
page. -/
theorem fetchProjects_in_turn [NameMapping] {w : World} {lists : List (List Value)}
    (hturns : c.InTurn 1 w.network (full ++ [last]))
    (hlists : full.map Turn.result = lists.map Except.ok) (hfull : [] ∉ lists)
    (hsize : full.length + 1 < UInt32.size) :
    (∀ i t projects, (full ++ [last])[i]? = some t → t.result = .ok projects →
      c.AsksFor (UInt32.ofNat (i + 1)) t) ∧
    (last.result = .ok [] →
      ((c.fetchProjects none).run w).1 = .ok lists.flatten ∧
      (c.fetchProjects none).requests w = sentIn (full ++ [last]) ∧
      ∀ m : UInt32, 1 ≤ m →
        ((c.fetchProjects (some m)).run w).1 = .ok (lists.take m.toNat).flatten ∧
        (c.fetchProjects (some m)).requests w = sentIn ((full ++ [last]).take m.toNat) ∧
        (lists.take m.toNat).flatten <+: lists.flatten ∧
        ∀ page count, .pageRetrieved page count ∈ (c.fetchProjects (some m)).reports w →
          page ≤ m) ∧
    (∀ failure, last.result = .error failure →
      ∀ maxPages, (∀ m, maxPages = some m → full.length < m.toNat ∨ full = []) →
        ((c.fetchProjects maxPages).run w).1 = .error failure ∧
        (c.fetchProjects maxPages).requests w = sentIn (full ++ [last])) := by
  refine ⟨fun i t projects hi hresult => hturns.asksFor hi hresult, fun hempty => ?_,
    fun failure hfails maxPages hreached => ?_⟩
  · have hrun := run_fetchProjects_none hturns hlists hfull hsize hempty
    refine ⟨congrArg Prod.fst hrun, requests_eq (by rw [hrun, World.afterTurns_sent]), ?_⟩
    intro m hm
    have hrun := run_fetchProjects_some hturns hlists hfull hsize hempty hm
    refine ⟨congrArg Prod.fst hrun, requests_eq (by rw [hrun, World.afterTurns_sent]), ?_, ?_⟩
    · have hsplit := congrArg List.flatten (List.take_append_drop m.toNat lists)
      rw [List.flatten_append] at hsplit
      exact ⟨_, hsplit⟩
    · intro page count hreport
      rw [reports_eq (by rw [hrun, World.afterTurns_events])] at hreport
      exact le_of_mem_eventsFrom_take hreport
  · have hrun := run_fetchProjects_of_error hturns hlists hfull hsize hfails hreached
    exact ⟨congrArg Prod.fst hrun, requests_eq (by rw [hrun, World.afterTurns_sent])⟩

/-! ### A listing of two pages -/

/-- A world with a listing of two pages; the first of them has moved. -/
def movedListing : World :=
  .replying [
    .answered ⟨⟨302⟩, [⟨Utf8.encode "location".toList, Utf8.encode "/first".toList⟩], none⟩,
    .answered (.page 200 "[1]"), .answered (.page 200 "[2]"), .answered (.page 200 "[]")]

/-- The number `n` as the only project of a page. -/
def lonely (n : Nat) : List Value := [.number (.integer n)]

theorem inTurn_movedListing : ∃ full last,
    onThisMachine.InTurn 1 movedListing.network (full ++ [last]) ∧
      full.map Turn.result = [lonely 1, lonely 2].map Except.ok ∧ last.result = .ok [] := by
  have hfirst : onThisMachine.Fetches 1 movedListing.network _ (.ok (lonely 1)) :=
    .given rfl (.moved ⟨rfl, rfl, rfl⟩ rfl (.found ⟨rfl, rfl, rfl⟩ rfl)) rfl rfl rfl
  have hsecond : onThisMachine.Fetches 2 (movedListing.network.drop 2) _ (.ok (lonely 2)) :=
    .given rfl (.found ⟨rfl, rfl, rfl⟩ rfl) rfl rfl rfl
  have hthird : onThisMachine.Fetches 3 (movedListing.network.drop 3) _ (.ok []) :=
    .given rfl (.found ⟨rfl, rfl, rfl⟩ rfl) rfl rfl rfl
  exact ⟨[⟨_, _⟩, ⟨_, _⟩], ⟨_, _⟩, .cons hfirst (.cons hsecond (.cons hthird .nil)), rfl, rfl⟩

theorem fetchProjects_in_turn_onThisMachine :
    ((onThisMachine.fetchProjects none).run movedListing).1 = .ok (lonely 1 ++ lonely 2) ∧
      ((onThisMachine.fetchProjects (some 1)).run movedListing).1 = .ok (lonely 1) := by
  obtain ⟨full, last, hturns, hlists, hempty⟩ := inTurn_movedListing
  have hlength : full.length = 2 := by simpa using congrArg List.length hlists
  have hsize : full.length + 1 < UInt32.size := by
    rw [hlength]
    decide
  obtain ⟨-, hends, -⟩ := fetchProjects_in_turn hturns hlists (by simp [lonely]) hsize
  obtain ⟨hall, -, hlimited⟩ := hends hempty
  obtain ⟨hone, -⟩ := hlimited 1 (by decide)
  exact ⟨hall, hone⟩

end Client

end BadgeEntry
