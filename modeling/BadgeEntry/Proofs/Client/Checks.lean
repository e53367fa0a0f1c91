import BadgeEntry.Proofs.Client.Endpoints
import BadgeEntry.Proofs.Http.Refused

/-!
# What is checked before anything is sent

Reading an edit page and submitting a form each check what they were given before the
network is used.  So a step that fails, other than for want of a complete answer, has sent
nothing and met no reply.  For a client that was made the address of a page never is the
reason; there remain a blank login, tokens of another project, and fields that cannot be
sent, of which the least one is reported.

Both steps at once can fail between the two requests for one reason only.  The tokens
belong to the project, for they come from its page, and all fields of the form were fields
of the first request or can be sent anyway, but for the token of the metadata.

## Main definitions

* `Client.NotAsked`, `Client.NotSubmitted` — the reasons for which a step sends nothing.
* `Visit.Checks` — a visit that fails for such a reason and only then.
* `Visit.StopsForToken` — a visit that stops after one request for a token.

## Main results

* `Client.HasPages.checks_readTokens`, `Client.HasPages.checks_submit` — the two steps.
* `Client.HasPages.stopsForToken_mutate`, `Client.stopsForToken_writeToProject` — both of them.
* `Client.IsMade.failures` — **all failures of a client that was made** are accounted for.
-/

namespace BadgeEntry

open Http Site Submission Form Url Visit Session

/-! ### Visits that check first -/

namespace Visit

variable {α : Type}

/-- Whether a visit is refused for some reasons, whatever the world is, and for no others
but that no complete answer arrives; it leaves the world as it is then. -/
def Checks (reason : Failure → Prop) (v : Visit α) : Prop :=
  ∀ w failure, failure ≠ .transport →
    ((v.run w).1 = .error failure ↔ reason failure) ∧
      ((v.run w).1 = .error failure → (v.run w).2 = w)

/-- Whether a visit that fails is refused for some reasons and leaves the world as it is, or
sends one request of a kind and stops for a token that cannot be sent, unless no complete
answer arrives.  Tokens of another project are never the reason. -/
def StopsForToken (reason : Failure → Prop) (kind : Request → Prop) (v : Visit α) : Prop :=
  ∀ w failure, (v.run w).1 = .error failure →
    (∀ expected found, failure ≠ .wrongProject expected found) ∧
    (failure ≠ .transport → reason failure ∧ (v.run w).2 = w ∨
      failure = .badField .csrfToken ∧ ∃ q, v.requests w = [q] ∧ kind q)

/-- A visit checks first if it is refused for one reason, or else can fail for want of a
complete answer only. -/
theorem checks_of_run {reason : Failure → Prop} {v : Visit α}
    (unique : ∀ failure other, reason failure → reason other → failure = other)
    (h : ∀ w, (∃ failure, reason failure ∧ v.run w = (.error failure, w)) ∨
      (∀ failure, ¬reason failure) ∧
        ∀ failure, (v.run w).1 = .error failure → failure = .transport) : v.Checks reason := by
  intro w failure hanswered
  rcases h w with ⟨found, hreason, hrun⟩ | ⟨hnone, hlost⟩
  · rw [hrun]
    refine ⟨⟨?_, fun hfailure => ?_⟩, fun _ => rfl⟩
    · rintro ⟨⟩
      exact hreason
    · rw [unique failure found hfailure hreason]
  · exact ⟨iff_of_false (fun hfailure => hanswered (hlost failure hfailure)) (hnone failure),
      fun hfailure => absurd (hlost failure hfailure) hanswered⟩

end Visit

namespace Client

/-- The reasons for which an edit page is not asked for: a blank login, or else a field that
cannot be sent. -/
inductive NotAsked (c : Client) (login : String) : Failure → Prop
  /-- The login is blank. -/
  | noLogin (blank : ∀ ch ∈ login.toList, Text.isBlank ch = true) : NotAsked c login .missingCookie
  /-- A field cannot be sent, and it is the least one. -/
  | badField {f : Field} (given : ∃ ch ∈ login.toList, Text.isBlank ch = false)
    (first : IsFirstRefused (c.settings.readFields login) f) : NotAsked c login (.badField f)

/-- The reasons for which a form is not submitted: tokens of another project, or else a field
that cannot be sent. -/
inductive NotSubmitted (c : Client) (project : ProjectId) (tokens : PageTokens) : Failure → Prop
  /-- The tokens belong to another project. -/
  | wrongProject (other : tokens.project ≠ project) :
    NotSubmitted c project tokens (.wrongProject project tokens.project)
  /-- A field cannot be sent, and it is the least one. -/
  | badField {f : Field} (same : tokens.project = project)
    (first : IsFirstRefused (c.settings.writeFields tokens.login tokens.csrf) f) :
    NotSubmitted c project tokens (.badField f)

/-- The request for the edit page of a project. -/
def IsPageRequest [NameMapping] (c : Client) (project : ProjectId) (login : String) (q : Request) :
    Prop :=
  ∃ page, Address.parse (editPage c.root project) = .ok page ∧ q = c.pageRequest login page

variable {c : Client} {project : ProjectId} {login : String} {updates : Updates}
  {tokens : PageTokens} {page : Address} {w after : World} {failure : Failure} {f : Field}

/-! ### The reasons, as they are looked for -/

theorem notAsked_missingCookie_iff :
    c.NotAsked login .missingCookie ↔ Text.isBlankText login = true := by
  rw [Text.isBlankText, List.all_eq_true]
  exact ⟨fun | .noLogin hblank => hblank, .noLogin⟩

theorem notAsked_badField_iff : c.NotAsked login (.badField f) ↔
    Text.isBlankText login = false ∧ firstInvalid? (c.settings.readFields login) = some f := by
  rw [Text.isBlankText, List.all_eq_false, firstInvalid?_eq_some_iff (inOrder_readFields _ login)]
  simp only [Bool.not_eq_true]
  exact ⟨fun | .badField hgiven hfirst => ⟨hgiven, hfirst⟩, fun h => .badField h.1 h.2⟩

theorem notSubmitted_badField_iff : c.NotSubmitted project tokens (.badField f) ↔
    tokens.project = project ∧
      firstInvalid? (c.settings.writeFields tokens.login tokens.csrf) = some f := by
  rw [firstInvalid?_eq_some_iff (inOrder_writeFields _ tokens.login tokens.csrf)]
  exact ⟨fun | .badField hsame hfirst => ⟨hsame, hfirst⟩, fun h => .badField h.1 h.2⟩

theorem CanAsk.not_notAsked [NameMapping] (h : c.CanAsk project login page) :
    ¬c.NotAsked login failure
  | .noLogin hblank => by
    have hgiven := h.given
    rw [Text.isBlankText, List.all_eq_true.mpr hblank] at hgiven
    cases hgiven
  | .badField hgiven hfirst => by
    have hinvalid := (notAsked_badField_iff.mp (.badField hgiven hfirst)).2
    rw [h.sendable] at hinvalid
    cases hinvalid

theorem CanSubmit.not_notSubmitted [NameMapping] {form : Address}
    (h : c.CanSubmit project tokens form) : ¬c.NotSubmitted project tokens failure
  | .wrongProject hother => hother h.same
  | .badField hsame hfirst => by
    have hinvalid := (notSubmitted_badField_iff.mp (.badField hsame hfirst)).2
    rw [h.sendable] at hinvalid
    cases hinvalid

/-! ### The two steps -/

/-- There is at most one reason not to ask for a page. -/
theorem NotAsked.unique {other : Failure} (h : c.NotAsked login failure)
    (h' : c.NotAsked login other) : failure = other := by
  -- a field is looked at only if there is a login
  have hapart (hblank : ∀ ch ∈ login.toList, Text.isBlank ch = true) :
      ¬∃ ch ∈ login.toList, Text.isBlank ch = false := by
    rintro ⟨ch, hch, hvisible⟩
    rw [hblank ch hch] at hvisible
    cases hvisible
  cases h with
  | noLogin hblank =>
    cases h' with
    | noLogin => rfl
    | badField hgiven => exact absurd hgiven (hapart hblank)
  | badField hgiven hfirst =>
    cases h' with
    | noLogin hblank => exact absurd hgiven (hapart hblank)
    | badField _ hfirst' => rw [hfirst.unique (inOrder_readFields _ login) hfirst']

/-- There is at most one reason not to submit a form. -/
theorem NotSubmitted.unique {other : Failure} (h : c.NotSubmitted project tokens failure)
    (h' : c.NotSubmitted project tokens other) : failure = other := by
  cases h with
  | wrongProject hother =>
    cases h' with
    | wrongProject => rfl
    | badField hsame => exact absurd hsame hother
  | badField hsame hfirst =>
    cases h' with
    | wrongProject hother => exact absurd hsame hother
    | badField _ hfirst' =>
      rw [hfirst.unique (inOrder_writeFields _ tokens.login tokens.csrf) hfirst']

section
variable [NameMapping] {n : UInt32} {edit form listing : Address}
  (h : c.HasPages project n edit form listing)
include h

/-- **Reading an edit page is checked first.** -/
theorem HasPages.checks_readTokens (login : String) :
    (c.readTokens project login).Checks (c.NotAsked login) := by
  refine checks_of_run (fun _ _ => NotAsked.unique) fun w => ?_
  have hcourse := c.reading project login w
  generalize (c.readTokens project login).run w = out at hcourse
  cases hcourse with
  | noLogin hblank => exact .inl ⟨_, notAsked_missingCookie_iff.mpr hblank, rfl⟩
  | noAddress _ hunreadable =>
    rw [h.edit] at hunreadable
    cases hunreadable
  | badField hgiven _ hinvalid =>
    exact .inl ⟨_, notAsked_badField_iff.mpr ⟨hgiven, hinvalid⟩, rfl⟩
  | unanswered hready =>
    exact .inr ⟨fun _ => hready.not_notAsked, fun _ => Eq.symm ∘ Except.error.inj⟩
  | denied hready => exact .inr ⟨fun _ => hready.not_notAsked, nofun⟩
  | cutShort hready =>
    exact .inr ⟨fun _ => hready.not_notAsked, fun _ => Eq.symm ∘ Except.error.inj⟩
  | read hready => exact .inr ⟨fun _ => hready.not_notAsked, nofun⟩

/-- **Submitting a form is checked first.** -/
theorem HasPages.checks_submit (updates : Updates) (tokens : PageTokens) :
    (c.submit project updates tokens).Checks (c.NotSubmitted project tokens) := by
  refine checks_of_run (fun _ _ => NotSubmitted.unique) fun w => ?_
  have hcourse := c.submission project updates tokens w
  generalize (c.submit project updates tokens).run w = out at hcourse
  cases hcourse with
  | wrongProject hother => exact .inl ⟨_, .wrongProject hother, rfl⟩
  | noAddress _ hunreadable =>
    rw [h.form] at hunreadable
    cases hunreadable
  | badField hsame _ hinvalid =>
    exact .inl ⟨_, notSubmitted_badField_iff.mpr ⟨hsame, hinvalid⟩, rfl⟩
  | unanswered hready =>
    exact .inr ⟨fun _ => hready.not_notSubmitted, fun _ => Eq.symm ∘ Except.error.inj⟩
  | answered hready => exact .inr ⟨fun _ => hready.not_notSubmitted, nofun⟩

end

/-! ### Both steps -/

/-- A login that goes on from a page that was read can be sent. -/
theorem HasRead.isSendable_login [NameMapping] {answer : Response}
    (h : c.HasRead project login w page answer tokens after) :
    isSendable tokens.login = true := by
  obtain ⟨-, hlogin, -⟩ := firstInvalid?_readFields_eq_none_iff.mp h.ready.sendable
  by_cases hshows : Shows page answer
  · obtain ⟨_, -, rfl⟩ := h.shown hshows
    exact isSendable_nextLogin hlogin
  · rw [h.hidden hshows]
    exact hlogin

/-- With tokens that were read, only that of the metadata can keep a form from being sent. -/
theorem HasRead.firstInvalid?_writeFields [NameMapping] {answer : Response}
    (h : c.HasRead project login w page answer tokens after) :
    firstInvalid? (c.settings.writeFields tokens.login tokens.csrf) =
      if tokens.csrf.any (!isSendable ·) then some .csrfToken else none :=
  Site.firstInvalid?_writeFields h.ready.sendable h.isSendable_login

theorem HasRead.eq_csrfToken [NameMapping] {answer : Response}
    (h : c.HasRead project login w page answer tokens after)
    (hreason : c.NotSubmitted project tokens failure) : failure = .badField .csrfToken := by
  cases hreason with
  | wrongProject hother => exact absurd h.project_eq hother
  | badField hsame hfirst =>
    have hinvalid := (notSubmitted_badField_iff.mp (.badField hsame hfirst)).2
    rw [h.firstInvalid?_writeFields] at hinvalid
    split at hinvalid
    · rw [Option.some.inj hinvalid]
    · cases hinvalid

section
variable [NameMapping] {n : UInt32} {edit form listing : Address}
  (h : c.HasPages project n edit form listing)
include h

/-- **Both steps stop between the two requests for a token only.** -/
theorem HasPages.stopsForToken_mutate (updates : Updates) (login : String) :
    (c.mutate project updates login).StopsForToken (c.NotAsked login)
      (c.IsPageRequest project login) := by
  intro w failure hfailure
  have hread := c.reading project login w
  have hchecked := h.checks_readTokens login w failure
  rw [mutate_run] at hfailure
  rw [requests, mutate_run]
  generalize (c.readTokens project login).run w = out at hread hchecked hfailure
  obtain ⟨result, after⟩ := out
  cases result with
  | error found =>
    obtain rfl := Except.error.inj hfailure
    constructor
    · rintro expected other rfl
      have hanswered : Failure.wrongProject expected other ≠ .transport := by rintro ⟨⟩
      cases (hchecked hanswered).1.mp rfl
    · exact fun hanswered => .inl ⟨(hchecked hanswered).1.mp rfl, (hchecked hanswered).2 rfl⟩
  | ok tokens =>
    obtain ⟨page, answer, hread⟩ := hread.hasRead
    by_cases hnone : tokens.isDenied = true
    · simp only [if_pos hnone] at hfailure
      cases hfailure
    · have hsubmit := h.checks_submit updates tokens after failure
      simp only [if_neg hnone] at hfailure ⊢
      have htoken (hanswered : failure ≠ .transport) : failure = .badField .csrfToken :=
        hread.eq_csrfToken ((hsubmit hanswered).1.mp hfailure)
      constructor
      · rintro expected other rfl
        have hanswered : Failure.wrongProject expected other ≠ .transport := by rintro ⟨⟩
        cases htoken hanswered
      · intro hanswered
        -- the form was not sent, so the request for the page is the only one
        refine .inr ⟨htoken hanswered, c.pageRequest login page, ?_, page, hread.ready.parses, rfl⟩
        rw [(hsubmit hanswered).2 hfailure, hread.sent, List.drop_left]

theorem HasPages.stopsForToken_write (updates : Updates) (login : String) :
    (c.write project updates login).StopsForToken (c.NotAsked login)
      (c.IsPageRequest project login) := by
  intro w failure hfailure
  have hstops := h.stopsForToken_mutate updates login w failure
  rw [write_run] at hfailure
  rw [requests, write_run]
  rw [requests] at hstops
  generalize (c.mutate project updates login).run w = out at hstops hfailure
  obtain ⟨result, after⟩ := out
  cases result with
  | error found =>
    refine hstops ?_
    cases hfailure
    rfl
  | ok outcome => cases hfailure

end

theorem create?_ne_wrongProject [NameMapping] {settings : Settings} {expected found : ProjectId} :
    create? settings ≠ .error (.wrongProject expected found) := by
  intro h
  unfold create? at h
  split at h
  · cases h
  · split at h <;> cases h

/-- Writing in the usual way stops for a token only, too; or no client can be made. -/
theorem stopsForToken_writeToProject [NameMapping] (root : String) (project : ProjectId)
    (updates : Updates) (login : String) :
    (writeToProject root project updates login).StopsForToken
      (fun failure => create? { root } = .error failure ∨
        ∃ client, create? { root } = .ok client ∧ client.NotAsked login failure)
      (fun q => ∃ client, create? { root } = .ok client ∧
        client.IsPageRequest project login q) := by
  intro w failure hfailure
  rw [writeToProject_run] at hfailure
  rw [requests, writeToProject_run]
  cases hmade : create? { root } with
  | error found =>
    rw [hmade] at hfailure
    obtain rfl := Except.error.inj hfailure
    constructor
    · rintro expected other rfl
      exact create?_ne_wrongProject hmade
    · exact fun _ => .inl ⟨.inl rfl, rfl⟩
  | ok client =>
    rw [hmade] at hfailure
    obtain ⟨_, _, _, hpages⟩ := (isMade_of_create? hmade).exists_hasPages project 1
    have hstops := hpages.stopsForToken_write updates login w failure hfailure
    refine ⟨hstops.1, fun hanswered => ?_⟩
    rcases hstops.2 hanswered with ⟨hrefused, hsame⟩ | ⟨htoken, q, hsent, hq⟩
    · exact .inl ⟨.inr ⟨client, rfl, hrefused⟩, hsame⟩
    · exact .inr ⟨htoken, q, hsent, client, rfl, hq⟩

/-- **The failures of a client that was made**, other than for want of a complete answer.

A page is not asked for just if the login is blank, or else if a field cannot be sent; a form
is not submitted just if the tokens belong to another project, or else if a field cannot be
sent.  The field that is reported is the least one.  In all these cases nothing is sent.

Both steps at once are never refused for tokens of another project.  If they fail after a
request, then that was the one for the edit page, and its token cannot be sent. -/
theorem IsMade.failures [NameMapping] (h : c.IsMade) (project : ProjectId) (login : String)
    (updates : Updates) (tokens : PageTokens) :
    (c.readTokens project login).Checks (c.NotAsked login) ∧
    (c.submit project updates tokens).Checks (c.NotSubmitted project tokens) ∧
    (c.mutate project updates login).StopsForToken (c.NotAsked login)
      (c.IsPageRequest project login) ∧
    (c.write project updates login).StopsForToken (c.NotAsked login)
      (c.IsPageRequest project login) := by
  obtain ⟨_, _, _, hpages⟩ := h.exists_hasPages project 1
  exact ⟨hpages.checks_readTokens login, hpages.checks_submit updates tokens,
    hpages.stopsForToken_mutate updates login, hpages.stopsForToken_write updates login⟩

/-- On this machine, a blank login and a login with a line break are refused, and a page with
a line break in its token is the last thing that is asked for. -/
theorem failures_onThisMachine :
    let w := World.replying
      [.answered (.page 200 "<meta name=\"csrf-token\" content=\"a\nb\">")]
    onThisMachine.IsMade ∧
    (onThisMachine.readTokens 1 " \t").run w = (.error .missingCookie, w) ∧
    (onThisMachine.readTokens 1 "s\n").run w = (.error (.badField .cookie), w) ∧
    ((onThisMachine.write 1 .empty "s").run w).1 = .error (.badField .csrfToken) ∧
    ∃ q, (onThisMachine.write 1 .empty "s").requests w = [q] ∧
      onThisMachine.IsPageRequest 1 "s" q := by
  intro w
  have hmade := isMade_of_create? create?_localRoot
  have hread (login : String) := (IsMade.failures hmade 1 login .empty (.denied 1 "s")).1 w
  have hblank := hread " \t" .missingCookie nofun
  have hbroken := hread "s\n" (.badField .cookie) nofun
  have hblankFails := hblank.1.mpr (notAsked_missingCookie_iff.mpr (by decide))
  have hbrokenFails := hbroken.1.mpr (notAsked_badField_iff.mpr ⟨by decide, by decide⟩)
  have hwrite : ((onThisMachine.write 1 .empty "s").run w).1 = .error (.badField .csrfToken) := by
    decide +kernel
  refine ⟨hmade, Prod.ext hblankFails (hblank.2 hblankFails),
    Prod.ext hbrokenFails (hbroken.2 hbrokenFails), hwrite, ?_⟩
  have hstops := (IsMade.failures hmade 1 "s" .empty (.denied 1 "s")).2.2.2 w _ hwrite
  rcases hstops.2 nofun with ⟨-, hsame⟩ | ⟨-, hsent⟩
  · -- the world is not the same, for a request was sent
    have hlength : ((onThisMachine.write 1 .empty "s").run w).2.sent.length = 1 := by
      decide +kernel
    rw [hsame] at hlength
    cases hlength
  · exact hsent

end Client

end BadgeEntry
