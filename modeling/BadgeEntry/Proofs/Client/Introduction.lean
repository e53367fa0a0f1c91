import BadgeEntry.Proofs.Client.Sent

/-!
# How the client introduces itself

The client has a name: the one that the settings give it, without blanks around it, or the
usual one if they give none.  It says this name in every request about a project.  It does
not say it when it asks for the listing: a download sends its requests without a name,
whatever the settings say.

## Main definitions

* `Settings.Names` — the name that some settings give.
* `Step.settings` — the settings that a step is taken with.

## Main results

* `Client.field?_userAgent_of_sends` — who says a name in a request.
* `Client.introduces_iff` — **the client says its name in every request but those of a
  download.**
* `Client.not_introduced_listing` — a download without a name.
-/

namespace BadgeEntry

open Http Site EditPage Text

/-- The name that some settings give: theirs, without blanks around it, unless it is blank
or missing; then it is the usual one. -/
def Site.Settings.Names (s : Settings) (name : String) : Prop :=
  (∀ given, s.userAgent = some given → isBlankText given = false → name = trimmed given) ∧
    ((∀ given, s.userAgent = some given → isBlankText given = true) →
      name = "badge-modify/0.1.0")

theorem Site.Settings.names_introduction (s : Settings) : s.Names s.introduction := by
  unfold Settings.Names Settings.introduction
  cases s.userAgent with
  | none => exact ⟨fun _ h => (by cases h), fun _ => rfl⟩
  | some given =>
    by_cases hblank : isBlankText given = true
    · simp [hblank, defaultUserAgent]
    · simp [hblank]

/-- The settings that a step is taken with. -/
def Step.settings (given : Settings) : Step → Settings
  | .writeAnew root .. => { root }
  | _ => given

namespace Client

section

variable [Url.NameMapping] {c user : Client} {settings : Settings} {step : Step} {q : Request}

theorem create?_userAgent (h : create? settings = .ok c) :
    c.settings.userAgent = settings.userAgent := by
  obtain ⟨root, base, -, -, rfl⟩ := create?_eq_ok h
  rfl

/-- Whoever takes a step is called what the settings of the step say. -/
theorem names_of_client? (hsettings : c.settings.userAgent = settings.userAgent)
    (huser : step.client? c = some user) :
    (step.settings settings).Names user.settings.introduction := by
  -- one step makes a client of its own, whose settings give no name
  have hname : user.settings.userAgent = (step.settings settings).userAgent := by
    cases step with
    | writeAnew root project login source =>
      change (create? { root }).toOption = some user at huser
      cases hmade : create? { root } with
      | error failure =>
        rw [hmade] at huser
        cases huser
      | ok made =>
        rw [hmade] at huser
        obtain rfl := Option.some.inj huser
        exact create?_userAgent hmade
    | _ =>
      obtain rfl := Option.some.inj huser
      exact hsettings
  have hnames := user.settings.names_introduction
  unfold Settings.Names at hnames ⊢
  rw [hname] at hnames
  exact hnames

theorem field?_userAgent_of_asks {project : ProjectId} (h : user.Asks project q)
    (hplain : q.method ≠ .connect) : q.field? .userAgent = some user.settings.introduction := by
  cases h with
  | page => rfl
  | @form _ tokens =>
    unfold formRequest Request.field? Settings.writeFields
    cases tokens.csrf <;> rfl
  | tunnel => exact absurd rfl hplain

/-- Who says a name in a request: whoever takes a step that is no download. -/
theorem field?_userAgent_of_sends (h : step.Sends c q) (hplain : q.method ≠ .connect) :
    (step.isDownload = false ∧ ∃ user, step.client? c = some user ∧
      q.field? .userAgent = some user.settings.introduction) ∨
    step.isDownload = true ∧ q.field? .userAgent = none := by
  cases h with
  | @asks user project _ huser hproject hasks =>
    exact Or.inl ⟨Step.isDownload_of_project? hproject, user, huser,
      field?_userAgent_of_asks hasks hplain⟩
  | listing hdownload hpublic =>
    exact Or.inr ⟨hdownload, hpublic.field?_eq_none (by decide)⟩

/-- **The client says its name in every request but those of a download**, and it is the
name that the settings give.  This goes for every run of every client that was made for a
site, and for every request that is not for a tunnel. -/
theorem introduces_iff {s : Sitting} (hmade : create? settings = .ok c)
    (hclient : s.client = c.withExtractor s.client.extractor) (steps : List Step) :
    ∀ m ∈ s.moments steps, ∀ q ∈ m.record.sent, q.method ≠ .connect →
      (m.step.isDownload = false ↔ ∃ name, q.field? .userAgent = some name) ∧
      ∀ name, q.field? .userAgent = some name → (m.step.settings settings).Names name := by
  intro m hm q hq hplain
  have hname := create?_userAgent hmade
  have hsettings : m.sitting.client.settings.userAgent = settings.userAgent := by
    rw [Sitting.client_of_mem_moments hm, hclient]
    exact hname
  rcases field?_userAgent_of_sends (Sitting.sends_of_mem_sent hq) hplain with
    ⟨hstep, user, huser, hfield⟩ | ⟨hstep, hfield⟩
  · rw [hfield, hstep]
    refine ⟨⟨fun _ => ⟨_, rfl⟩, fun _ => rfl⟩, fun name hname => ?_⟩
    rw [← Option.some.inj hname]
    exact names_of_client? hsettings huser
  · rw [hfield, hstep]
    exact ⟨⟨fun h => (by cases h), fun ⟨_, h⟩ => (by cases h)⟩, fun name hname => (by cases hname)⟩

end

/-- On this machine, the client says its name when it asks for an edit page. -/
theorem introduces_onThisMachine :
    ∃ m ∈ (⟨onThisMachine, none, .replying []⟩ : Sitting).moments [.readTokens 1 "s"],
      ∃ q ∈ m.record.sent, q.method = .get ∧
        ∃ name, q.field? .userAgent = some name ∧ onThisMachine.settings.Names name := by
  let s : Sitting := ⟨onThisMachine, none, .replying []⟩
  have hm : ⟨s, .readTokens 1 "s"⟩ ∈ s.moments [.readTokens 1 "s"] := List.mem_singleton_self _
  have hsent : (Moment.record ⟨s, .readTokens 1 "s"⟩).sent =
      [⟨.get, "http://localhost:3000/en/projects/1/edit", onThisMachine.settings.readFields "s",
        ""⟩] := by
    decide +kernel
  have hq := List.mem_singleton_self (⟨.get, "http://localhost:3000/en/projects/1/edit",
    onThisMachine.settings.readFields "s", ""⟩ : Request)
  rw [← hsent] at hq
  obtain ⟨hsaid, hnames⟩ := introduces_iff (s := s) create?_localRoot rfl _ _ hm _ hq
    (by decide)
  obtain ⟨name, hname⟩ := hsaid.mp rfl
  exact ⟨_, hm, _, hq, rfl, name, hname, hnames name hname⟩

/-- **A download without a name**: the listing of the site on this machine is asked for by a
client that does not say who it is. -/
theorem not_introduced_listing :
    let s : Sitting := ⟨onThisMachine, none, .replying [.answered (.page 200 "[]")]⟩
    create? onThisMachine.settings = .ok onThisMachine ∧
    ∃ m ∈ s.moments [.fetch none], ∃ q ∈ m.record.sent, q.method = .get ∧
      q.address = "http://localhost:3000/projects.json?page=1" ∧
        q.field? .userAgent = none := by
  intro s
  have hsent : (Moment.record ⟨s, .fetch none⟩).sent =
      [⟨.get, "http://localhost:3000/projects.json?page=1", [(.accept, acceptedListing)], ""⟩] := by
    decide +kernel
  refine ⟨rfl, ⟨s, .fetch none⟩, List.mem_singleton_self _,
    ⟨.get, "http://localhost:3000/projects.json?page=1", [(.accept, acceptedListing)], ""⟩, ?_,
    rfl, rfl, rfl⟩
  rw [hsent]
  exact List.mem_singleton_self _

end Client

end BadgeEntry
