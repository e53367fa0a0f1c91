import BadgeEntry.Proofs.Client.Outcome
import BadgeEntry.Proofs.Client.Sent

/-!
# Where logins and tokens go

A login is sent to two places: to the edit page of a project, and to the page of the
project when its form is submitted; and it is the project that the step was asked about.
A token of the metadata goes to the latter only.  The listing is asked for without
either, also where redirections lead.

More is true of downloads: they do not depend on logins and tokens in any way.  Two runs
that differ in nothing else ask for the listing in the same words, as long as it is
answered in the same way.

## Main definitions

* `Client.Reads` — a request for an edit page.
* `Step.Confines` — where the parts of a request may occur.
* `Step.withoutCredentials` — a step without its login and its tokens.
* `Sitting.downloads`, `Moment.met` — the downloads of a run, and the replies they meet.

## Main results

* `Step.Sends.confines` — what a step sends is confined.
* `Sitting.sent_downloads_eq` — downloads are the same, whatever the logins and tokens.
* `Sitting.confinement` — **both of these, for every run.**
-/

namespace BadgeEntry

open Http Site Url Visit

/-! ### Single requests -/

/-- A request for the edit page of a project, at an address. -/
structure Client.Reads [NameMapping] (c : Client) (project : ProjectId) (q : Request)
    (page : Address) : Prop where
  method : q.method = .get
  parses : Address.parse (editPage c.root project) = .ok page
  address : q.address = page.requested.text

/-- Where the parts of a request that a step sends may occur: a cookie in a request for the
edit page or with the form of the project that the step is about, the token of the metadata
with the form only, and none of them, nor a body, in a download. -/
structure Step.Confines [NameMapping] (c : Client) (step : Step) (q : Request) : Prop where
  cookie : q.field? .cookie ≠ none → ∃ user project address, step.client? c = some user ∧
    step.project? = some project ∧
      (user.Reads project q address ∨ user.Submits project q address)
  csrfToken : q.field? .csrfToken ≠ none → ∃ user project address, step.client? c = some user ∧
    step.project? = some project ∧ user.Submits project q address
  download : step.isDownload = true → q.field? .cookie = none ∧ q.field? .csrfToken = none ∧
    q.field? .contentType = none ∧ q.body = ""

theorem IsPublic.body_eq {q : Request} (h : IsPublic q) : q.body = "" := by
  cases h with
  | page address => rfl
  | tunnel address => rfl

theorem Client.pageRequest_csrfToken (c : Client) (login : String) (page : Address) :
    (c.pageRequest login page).field? .csrfToken = none := rfl

/-- **What a step sends is confined.** -/
theorem Step.Sends.confines [NameMapping] {c : Client} {step : Step} {q : Request}
    (h : step.Sends c q) : step.Confines c q := by
  cases h with
  | @asks user project _ huser hproject hasks =>
    -- a step about a project is no download, so nothing is said about downloads here
    have hdownload := Step.isDownload_of_project? hproject
    have hnever {p : Prop} (h : step.isDownload = true) : p := by
      rw [hdownload] at h
      cases h
    cases hasks with
    | @page login page hparses =>
      refine ⟨fun _ => ⟨user, project, page, huser, hproject, Or.inl ⟨rfl, hparses, rfl⟩⟩,
        fun htoken => ?_, hnever⟩
      exact absurd (user.pageRequest_csrfToken login page) htoken
    | @form updates tokens form hparses =>
      have hsubmits : user.Submits project (user.formRequest updates tokens form) form :=
        ⟨rfl, hparses, rfl⟩
      exact ⟨fun _ => ⟨user, project, form, huser, hproject, Or.inr hsubmits⟩,
        fun _ => ⟨user, project, form, huser, hproject, hsubmits⟩, hnever⟩
    | tunnel address => exact ⟨fun h => absurd rfl h, fun h => absurd rfl h, hnever⟩
  | listing _ hpublic =>
    have hcookie := hpublic.field?_eq_none (f := .cookie) (by decide)
    have htoken := hpublic.field?_eq_none (f := .csrfToken) (by decide)
    have hkind := hpublic.field?_eq_none (f := .contentType) (by decide)
    exact ⟨fun h => absurd hcookie h, fun h => absurd htoken h,
      fun _ => ⟨hcookie, htoken, hkind, hpublic.body_eq⟩⟩

/-! ### Two runs -/

namespace Step

/-- A step without the login and the tokens that it is given. -/
def withoutCredentials : Step → Step
  | .readTokens project _ => .readTokens project ""
  | .hold tokens => .hold (.denied tokens.project "")
  | .mutate project _ source => .mutate project "" source
  | .write project _ source => .write project "" source
  | .writeAnew root project _ source => .writeAnew root project "" source
  | step => step

theorem isDownload_withoutCredentials (step : Step) :
    step.withoutCredentials.isDownload = step.isDownload := by
  cases step <;> rfl

theorem onDisk_withoutCredentials (step : Step) :
    step.withoutCredentials.onDisk = step.onDisk := by
  cases step <;> rfl

/-- A download is given neither a login nor tokens. -/
theorem withoutCredentials_of_isDownload {step : Step} (h : step.isDownload = true) :
    step.withoutCredentials = step := by
  cases step with
  | fetch maxPages => rfl
  | load path maxPages => rfl
  | _ => cases h

end Step

/-- The replies that a step meets. -/
def Moment.met [NameMapping] (m : Moment) : List Reply :=
  m.sitting.world.network.take (replyCount m.record.sent)

namespace Sitting

/-- The downloads of a run. -/
def downloads [NameMapping] (s : Sitting) (steps : List Step) : List Moment :=
  (s.moments steps).filter fun m => m.step.isDownload

/-- Two sittings of one client that differ only in what is held, sent and reported, and in
the replies that are to come. -/
structure SameSite (s t : Sitting) : Prop where
  client : t.client = s.client
  disk : t.world.disk = s.world.disk
  reachable : t.world.network.reachable = s.world.network.reachable

variable {s t : Sitting} {step other : Step}

theorem SameSite.fresh (h : s.SameSite t) : s.fresh.SameSite t.fresh :=
  ⟨h.client, h.disk, h.reachable⟩

section

variable [NameMapping]

/-- A download that meets the same replies sends the same, and leaves the same disk. -/
theorem SameSite.download (h : s.SameSite t) (hdownload : step.isDownload = true)
    (hmet : Moment.met ⟨t, step⟩ = Moment.met ⟨s, step⟩) :
    (Moment.record ⟨t, step⟩).sent = (Moment.record ⟨s, step⟩).sent ∧
      (Moment.next ⟨s, step⟩).SameSite (Moment.next ⟨t, step⟩) := by
  -- both steps are the same visit, and its requests show which replies it meets
  obtain ⟨v, hv, hworld⟩ := s.fresh.step_of_download hdownload
  have hown : (s.fresh.step step).2.world = (v.run s.fresh.world).2 := hworld s.fresh rfl
  have hother : (t.fresh.step step).2.world = (v.run t.fresh.world).2 :=
    hworld t.fresh h.client
  have hvisit {r : Sitting} (hr : (r.fresh.step step).2.world = (v.run r.fresh.world).2) :
      v.met r.fresh.world = Moment.met ⟨r, step⟩ := by
    have hrequests : v.requests r.fresh.world = (Moment.record ⟨r, step⟩).sent :=
      requests_eq (by rw [← hr]; rfl)
    rw [Visit.met, hrequests]
    rfl
  rw [← hvisit hown, ← hvisit hother] at hmet
  obtain ⟨u, hrun, hrun'⟩ := hv.exists_upshot h.fresh.disk h.fresh.reachable hmet
  rw [record_sent, record_sent, hown, hother, hrun, hrun']
  refine ⟨rfl, ?_, ?_, ?_⟩
  · rw [Moment.next, Moment.next, recordStep_client, recordStep_client]
    exact h.client
  · rw [record_next, record_next, hown, hother, hrun, hrun']
    rfl
  · rw [record_next, record_next, hown, hother, hrun, hrun']
    simp only [World.after, Network.drop_reachable]
    exact h.fresh.reachable

/-- Steps that differ in logins and tokens only leave the same disk. -/
theorem SameSite.next (h : s.SameSite t) (hstep : step.isDownload = false)
    (hsame : other.withoutCredentials = step.withoutCredentials) :
    (Moment.next ⟨s, step⟩).SameSite (Moment.next ⟨t, other⟩) := by
  have hother : other.isDownload = false := by
    rw [← other.isDownload_withoutCredentials, hsame, step.isDownload_withoutCredentials, hstep]
  have honDisk : other.onDisk = step.onDisk := by
    rw [← other.onDisk_withoutCredentials, hsame, step.onDisk_withoutCredentials]
  have hleads := s.fresh.step_of_not_download hstep
  have hleads' := t.fresh.step_of_not_download hother
  refine ⟨?_, ?_, ?_⟩
  · rw [Moment.next, Moment.next, recordStep_client, recordStep_client]
    exact h.client
  · rw [record_next, record_next, hleads.disk, hleads'.disk, honDisk, h.fresh.disk]
  · rw [record_next, record_next, hleads.reachable, hleads'.reachable]
    exact h.fresh.reachable

theorem downloads_cons (s : Sitting) (step : Step) (rest : List Step) :
    s.downloads (step :: rest) =
      if step.isDownload then ⟨s, step⟩ :: (Moment.next ⟨s, step⟩).downloads rest
      else (Moment.next ⟨s, step⟩).downloads rest := by
  rw [downloads, moments_cons, List.filter_cons]
  rfl

/-- **Downloads are the same, whatever the logins and tokens**, if they meet the same
replies. -/
theorem sent_downloads_eq {steps others : List Step} (h : s.SameSite t)
    (hsteps : others.map Step.withoutCredentials = steps.map Step.withoutCredentials)
    (hmet : (t.downloads others).map Moment.met = (s.downloads steps).map Moment.met) :
    (t.downloads others).map (·.record.sent) = (s.downloads steps).map (·.record.sent) := by
  induction steps generalizing s t others with
  | nil =>
    rw [List.map_nil, List.map_eq_nil_iff] at hsteps
    rw [hsteps]
    rfl
  | cons step rest ih =>
    cases others with
    | nil => cases hsteps
    | cons other others =>
      obtain ⟨hsame, hrest⟩ := List.cons.inj hsteps
      have hkind : other.isDownload = step.isDownload := by
        rw [← other.isDownload_withoutCredentials, hsame, step.isDownload_withoutCredentials]
      rw [downloads_cons, downloads_cons, hkind] at hmet ⊢
      by_cases hdownload : step.isDownload = true
      · -- a download is given no credentials, so both runs take the same step here
        have hother : other = step := by
          rw [← Step.withoutCredentials_of_isDownload (hkind.trans hdownload), hsame,
            Step.withoutCredentials_of_isDownload hdownload]
        rw [hother] at hmet ⊢
        rw [if_pos hdownload, if_pos hdownload] at hmet ⊢
        obtain ⟨hfirst, hlater⟩ := List.cons.inj hmet
        obtain ⟨hsent, hnext⟩ := h.download hdownload hfirst
        rw [List.map_cons, List.map_cons, hsent, ih hnext hrest hlater]
      · -- whatever another step is given, it leaves both runs at the same site
        rw [if_neg hdownload, if_neg hdownload] at hmet ⊢
        exact ih (h.next (Bool.eq_false_iff.mpr hdownload) hsame) hrest hmet

/-- **Logins and tokens are confined**, in every run of every client.

A cookie occurs only in a request for the edit page, or with the form, of the project that
the step is about; the token of the metadata only with the form; and no request of a
download, wherever redirections lead, has a cookie, a token, a kind of body, or a body.

And another run of the same client on the same disk, which differs in nothing but the logins
and tokens that the steps are given and in what is held at first, sends the same requests in
its downloads if they meet the same replies. -/
theorem confinement (s : Sitting) (steps : List Step) :
    (∀ m ∈ s.moments steps, ∀ q ∈ m.record.sent, m.step.Confines s.client q) ∧
    ∀ (t : Sitting) (others : List Step), s.SameSite t →
      others.map Step.withoutCredentials = steps.map Step.withoutCredentials →
      (t.downloads others).map Moment.met = (s.downloads steps).map Moment.met →
      (t.downloads others).map (·.record.sent) = (s.downloads steps).map (·.record.sent) := by
  refine ⟨fun m hm q hq => ?_, fun t others hsite hsteps hmet => ?_⟩
  · rw [← client_of_mem_moments hm]
    exact (sends_of_mem_sent hq).confines
  · exact sent_downloads_eq hsite hsteps hmet

end

/-- On this machine, two logins lead to the same download. -/
theorem confinement_onThisMachine :
    let s : Sitting := ⟨.onThisMachine, none,
      .replying [.answered (.page 200 ""), .answered (.page 200 "[]")]⟩
    (s.downloads [.readTokens 1 "t", .fetch none]).map (·.record.sent) =
      (s.downloads [.readTokens 1 "s", .fetch none]).map (·.record.sent) := by
  intro s
  have hmet : (s.downloads [.readTokens 1 "t", .fetch none]).map Moment.met =
      (s.downloads [.readTokens 1 "s", .fetch none]).map Moment.met := by
    decide +kernel
  exact (s.confinement _).2 s _ ⟨rfl, rfl, rfl⟩ rfl hmet

end Sitting

end BadgeEntry
