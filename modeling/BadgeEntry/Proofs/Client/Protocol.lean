import BadgeEntry.Proofs.Client.Course
import BadgeEntry.Proofs.Client.Made
import BadgeEntry.Proofs.Site.Sendable

/-!
# The requests of an attempt to write

An attempt to write sends at most two requests.  The first one asks for the edit page
with the login that was given.  The second one submits the form, and everything in it
that protects against forgery comes from the answer to the first: the login that the
answer set, the token of the metadata as a field, the token of the form in the body.

## Main definitions

* `Client.AsksForPage`, `Client.SubmitsForm` — the two requests.
* `Client.Yields` — what a reply to the first one yields.

## Main results

* `Client.requests_mutate` — **the requests of an attempt to write.**
-/

namespace BadgeEntry

open Http Site EditPage Submission Form Url Visit Session

/-- The value of a field of a request. -/
def Http.Request.field? (q : Request) (f : Field) : Option String :=
  q.fields.lookup f

namespace Client

variable {c : Client} {project : ProjectId} {updates : Updates} {login : String}
  {tokens : PageTokens} {w : World}

/-- A request that asks for the edit page of a project with a login.  It carries no token
and announces no form. -/
structure AsksForPage [NameMapping] (c : Client) (project : ProjectId) (login : String)
    (q : Request) : Prop where
  method : q.method = .get
  address : ∃ page, Address.parse (editPage c.root project) = .ok page ∧ q.address = page.text
  cookie : q.field? .cookie = some (c.settings.cookieName ++ "=" ++ login)
  noToken : q.field? .csrfToken = none
  noForm : q.field? .contentType = none

/-- A request that submits the form of a project with some tokens.  The login and the token
of the metadata are fields of it, the token of the form is in its body with the updates;
a token that is missing is left out. -/
structure SubmitsForm [NameMapping] (c : Client) (project : ProjectId) (updates : Updates)
    (tokens : PageTokens) (q : Request) : Prop where
  method : q.method = .patch
  address : ∃ form, Address.parse (projectPage c.root project) = .ok form ∧ q.address = form.text
  cookie : q.field? .cookie = some (c.settings.cookieName ++ "=" ++ tokens.login)
  csrf : q.field? .csrfToken = tokens.csrf
  body : q.body = updates.encode tokens.authenticity

/-- What a reply yields that shows a page with at least one token: the tokens of the page
and the login that the answer leads to. -/
inductive Yields (c : Client) (project : ProjectId) (login : String) :
    Reply → PageTokens → Prop
  /-- The answer is a success and arrives completely. -/
  | intro {answer : Response} {bytes : List UInt8} (success : answer.status.isSuccess = true)
    (complete : answer.body = some bytes)
    (found : ∃ kind, (c.findToken (pageText bytes) kind).isSome = true) :
    Yields c project login (.answered answer)
      ⟨project, c.findToken (pageText bytes) .authenticity, c.findToken (pageText bytes) .csrf,
        (nextLogin answer.headers c.settings.cookieName login).1⟩

theorem asksForPage_pageRequest [NameMapping] {page : Address}
    (hpage : Address.parse (editPage c.root project) = .ok page) (hplain : page.IsPlain) :
    c.AsksForPage project login (c.pageRequest login page) where
  method := rfl
  address := ⟨page, hpage, by rw [pageRequest, Address.requested_eq_self hplain]⟩
  cookie := rfl
  noToken := rfl
  noForm := rfl

theorem submitsForm_formRequest [NameMapping] {form : Address}
    (hform : Address.parse (projectPage c.root project) = .ok form) (hplain : form.IsPlain) :
    c.SubmitsForm project updates tokens (c.formRequest updates tokens form) where
  method := rfl
  address := ⟨form, hform, by rw [formRequest, Address.requested_eq_self hplain]⟩
  cookie := rfl
  csrf := by
    unfold formRequest Request.field? Settings.writeFields
    cases tokens.csrf <;> rfl
  body := rfl

/-- The tokens of a page deny it if none of either kind is found. -/
theorem isDenied_tokensIn {headers : List Header} {bytes : List UInt8} :
    (c.tokensIn project login headers bytes).isDenied = false ↔
      ∃ kind, (c.findToken (pageText bytes) kind).isSome = true := by
  rw [PageTokens.isDenied, tokensIn, Bool.and_eq_false_iff, Option.isNone_eq_false_iff,
    Option.isNone_eq_false_iff]
  constructor
  · rintro (h | h)
    exacts [⟨_, h⟩, ⟨_, h⟩]
  · rintro ⟨_ | _, h⟩
    exacts [Or.inl h, Or.inr h]

/-- An answer yields the tokens of its page if it is a success that arrives completely and
at least one token is found. -/
theorem yields_answered_iff {answer : Response} :
    c.Yields project login (.answered answer) tokens ↔
      answer.status.isSuccess = true ∧ ∃ bytes, answer.body = some bytes ∧
        tokens = c.tokensIn project login answer.headers bytes ∧ tokens.isDenied = false := by
  constructor
  · rintro ⟨hsuccess, hcomplete, hfound⟩
    exact ⟨hsuccess, _, hcomplete, rfl, isDenied_tokensIn.mpr hfound⟩
  · rintro ⟨hsuccess, bytes, hcomplete, rfl, hfound⟩
    exact .intro hsuccess hcomplete (isDenied_tokensIn.mp hfound)

/-- What may be sent in an attempt to write, and when. -/
inductive Sends [NameMapping] (c : Client) (project : ProjectId) (updates : Updates)
    (login : String) (w : World) : List Request → Prop
  /-- Nothing is sent if there is no network or a field cannot be sent. -/
  | nothing (lost : w.network.reachable = false ∨
      firstInvalid? (c.settings.readFields login) ≠ none) :
    Sends c project updates login w []
  /-- Only the page is asked for, unless it arrives with a token and a form with its token
  can be sent. -/
  | page {first : Request} (reachable : w.network.reachable = true)
    (sendable : firstInvalid? (c.settings.readFields login) = none)
    (asks : c.AsksForPage project login first)
    (stop : ∀ tokens, c.Yields project login w.network.next.1 tokens →
      tokens.csrf.all isSendable = false) :
    Sends c project updates login w [first]
  /-- The page is asked for, and the form is submitted with what the page yields. -/
  | both {first second : Request} {tokens : PageTokens} (reachable : w.network.reachable = true)
    (sendable : firstInvalid? (c.settings.readFields login) = none)
    (asks : c.AsksForPage project login first)
    (yields : c.Yields project login w.network.next.1 tokens)
    (submits : c.SubmitsForm project updates tokens second) :
    Sends c project updates login w [first, second]

/-- If a form with the tokens of a page cannot be sent, then because of its token. -/
theorem csrf_of_firstInvalid? {s : Settings} {field : Field} {headers : List Header} {name : String}
    {csrf : Option String} (hread : firstInvalid? (s.readFields login) = none)
    (hinvalid : firstInvalid? (s.writeFields (nextLogin headers name login).1 csrf) = some field) :
    csrf.all isSendable = false := by
  obtain ⟨-, hlogin, -⟩ := firstInvalid?_readFields_eq_none_iff.mp hread
  rw [firstInvalid?_writeFields hread (isSendable_nextLogin hlogin)] at hinvalid
  cases csrf with
  | none => cases hinvalid
  | some token => by_cases h : isSendable token = true <;> simp_all

/-! ### What each step sends -/

section
variable [NameMapping] {page form : Address} {answer : Response} {after last : World}

/-- If no tokens can be read, at most the page was asked for, and it did not arrive. -/
theorem sends_of_unread {failure : Failure} (given : Text.isBlankText login = false)
    (hpage : Address.parse (editPage c.root project) = .ok page) (hhttp : page.scheme = "http")
    (hplain : page.IsPlain) (hread : c.Reading project login w (.error failure, after)) :
    ∃ qs, after.sent = w.sent ++ qs ∧ c.Sends project updates login w qs := by
  have hasks : c.AsksForPage project login (c.pageRequest login page) :=
    asksForPage_pageRequest hpage hplain
  have hnothing : w.sent = w.sent ++ [] := (List.append_nil _).symm
  cases hread with
  | noLogin hblank =>
    rw [given] at hblank
    cases hblank
  | noAddress _ hunreadable =>
    rw [hpage] at hunreadable
    cases hunreadable
  | badField _ _ hinvalid =>
    refine ⟨[], hnothing, .nothing (Or.inr ?_)⟩
    rw [hinvalid]
    exact Option.some_ne_none _
  | unanswered hready hfails =>
    obtain rfl := Except.ok.inj (hpage.symm.trans hready.parses)
    cases hfails with
    | unsent hlost =>
      have hunreachable := hlost.resolve_right fun hother => hother.1 hhttp
      exact ⟨[], hnothing, .nothing (Or.inl hunreachable)⟩
    | noTunnel _ hsecure =>
      rw [hhttp] at hsecure
      exact absurd hsecure (by decide)
    | dropped hreach _ hreply =>
      -- the request was sent, but a connection that closes yields nothing
      refine ⟨_, rfl, .page hreach hready.sendable hasks fun tokens hyields => ?_⟩
      rw [show w.network.next.1 = .dropped from hreply] at hyields
      cases hyields
  | cutShort hready hanswers _ hcut =>
    obtain rfl := Except.ok.inj (hpage.symm.trans hready.parses)
    refine ⟨_, rfl, .page hanswers.reachable hready.sendable hasks fun tokens hyields => ?_⟩
    rw [hanswers.reply, yields_answered_iff] at hyields
    obtain ⟨-, bytes, hcomplete, -⟩ := hyields
    rw [hcut] at hcomplete
    cases hcomplete

/-- What a reply yields is what was read from it. -/
theorem eq_of_yields (hread : c.HasRead project login w page answer tokens after)
    (hplain : page.IsPlain) {yielded : PageTokens}
    (hyields : c.Yields project login w.network.next.1 yielded) :
    yielded = tokens ∧ yielded.isDenied = false ∧
      yielded.login = (nextLogin answer.headers c.settings.cookieName login).1 := by
  rw [hread.answers.reply, yields_answered_iff] at hyields
  obtain ⟨hsuccess, bytes, hcomplete, rfl, hfound⟩ := hyields
  obtain ⟨arrived, harrived, rfl⟩ := hread.shown ⟨hplain, hsuccess⟩
  obtain rfl := Option.some.inj (hcomplete.symm.trans harrived)
  exact ⟨rfl, hfound, rfl⟩

/-- Tokens that were read and are not denied are those that the reply yields. -/
theorem yields_of_hasRead (hread : c.HasRead project login w page answer tokens after)
    (hsome : tokens.isDenied = false) : c.Yields project login w.network.next.1 tokens := by
  by_cases hshows : Shows page answer
  · obtain ⟨bytes, hcomplete, rfl⟩ := hread.shown hshows
    rw [hread.answers.reply]
    exact yields_answered_iff.mpr ⟨hshows.success, bytes, hcomplete, rfl, hsome⟩
  · rw [hread.hidden hshows] at hsome
    cases hsome

/-- If tokens were read, the page was asked for, and the form is submitted unless its token
cannot be sent. -/
theorem sends_of_submitted (hread : c.HasRead project login w page answer tokens after)
    (hplain : page.IsPlain) (hsome : tokens.isDenied = false)
    (hform : Address.parse (projectPage c.root project) = .ok form)
    (hformHttp : form.scheme = "http") (hformPlain : form.IsPlain)
    {result : Except Failure Outcome}
    (hsubmit : c.Submitting project updates tokens after (result, last)) :
    ∃ qs, last.sent = w.sent ++ qs ∧ c.Sends project updates login w qs := by
  have hasks : c.AsksForPage project login (c.pageRequest login page) :=
    asksForPage_pageRequest hread.ready.parses hplain
  have hyields := yields_of_hasRead hread hsome
  cases hfields : firstInvalid? (c.settings.writeFields tokens.login tokens.csrf) with
  | none =>
    have hready : c.CanSubmit project tokens form := ⟨hread.project_eq, hform, hfields⟩
    have hreach : after.network.reachable = true := by
      rw [hread.network, Network.next_reachable, hread.answers.reachable]
    refine ⟨_, ?_, .both hread.answers.reachable hread.ready.sendable hasks hyields
      (submitsForm_formRequest hform hformPlain)⟩
    rw [hsubmit.sent hready hformHttp hreach, hread.sent]
    exact List.append_assoc ..
  | some field =>
    have hinvalid : firstInvalid? (c.settings.writeFields tokens.login tokens.csrf) ≠ none := by
      rw [hfields]
      exact Option.some_ne_none _
    -- the login that an answer sets can be sent, so it is the token that cannot
    refine ⟨_, (hsubmit.not_sent hinvalid).trans hread.sent,
      .page hread.answers.reachable hread.ready.sendable hasks fun yielded hyielded => ?_⟩
    obtain ⟨rfl, -, hlogin⟩ := eq_of_yields hread hplain hyielded
    rw [hlogin] at hfields
    exact csrf_of_firstInvalid? hread.ready.sendable hfields

end

/-- What an attempt to write on a plain site sends. -/
theorem sends_mutate [NameMapping] (h : c.IsPlain) (given : Text.isBlankText login = false)
    (w : World) :
    c.Sends project updates login w ((c.mutate project updates login).requests w) := by
  obtain ⟨page, form, hpage, hform, ⟨hhttp, hplain⟩, hformHttp, hformPlain⟩ :=
    h.exists_pages project
  have hsends : ∃ qs, ((c.mutate project updates login).run w).2.sent = w.sent ++ qs ∧
      c.Sends project updates login w qs := by
    have hcourse := c.mutating project login updates w
    generalize (c.mutate project updates login).run w = out at hcourse
    cases hcourse with
    | unread hread => exact sends_of_unread given hpage hhttp hplain hread
    | skipped hread hnone =>
      -- the tokens are denied, and what a reply yields is not
      obtain ⟨_, answer, hread⟩ := hread.hasRead
      obtain rfl := Except.ok.inj (hpage.symm.trans hread.ready.parses)
      refine ⟨_, hread.sent, .page hread.answers.reachable hread.ready.sendable
        (asksForPage_pageRequest hpage hplain) fun yielded hyields => ?_⟩
      obtain ⟨rfl, hfound, -⟩ := eq_of_yields hread hplain hyields
      rw [hnone] at hfound
      cases hfound
    | submitted hread hsome hsubmit =>
      obtain ⟨_, answer, hread⟩ := hread.hasRead
      obtain rfl := Except.ok.inj (hpage.symm.trans hread.ready.parses)
      exact sends_of_submitted hread hplain hsome hform hformHttp hformPlain hsubmit
  obtain ⟨qs, hsent, hqs⟩ := hsends
  rw [requests_eq hsent]
  exact hqs

/-- **The requests of an attempt to write** on a plain site: none, or the one for the edit
page, or that one and the one that submits the form.

The form is submitted only if the reply to the first request is a success that arrived
completely with at least one token in it; it carries the tokens of that page, and the
login that the answer led to.  And if the reply is of this kind, then the form is
submitted, provided that the token of the metadata can be sent as a field.  Nothing is
sent just when there is no network or the fields of the first request cannot be sent. -/
theorem requests_mutate [NameMapping] (h : c.IsPlain) (given : Text.isBlankText login = false)
    (project : ProjectId) (updates : Updates) (w : World) :
    let requests := (c.mutate project updates login).requests w
    (requests = [] ∨ ∃ first, c.AsksForPage project login first ∧
      (requests = [first] ∨ ∃ second tokens, requests = [first, second] ∧
        c.Yields project login (w.network.reply 0) tokens ∧
          c.SubmitsForm project updates tokens second)) ∧
    (∀ tokens, requests ≠ [] → c.Yields project login (w.network.reply 0) tokens →
      tokens.csrf.all isSendable = true → requests.length = 2) ∧
    (requests = [] ↔ w.network.reachable = false ∨
      firstInvalid? (c.settings.readFields login) ≠ none) := by
  intro requests
  rw [w.network.reply_zero]
  have hsends : c.Sends project updates login w requests := sends_mutate h given w
  clear_value requests
  cases hsends with
  | nothing hlost => exact ⟨Or.inl rfl, fun _ hne => absurd rfl hne, by simpa using hlost⟩
  | page hreach hsendable hasks hstop =>
    refine ⟨Or.inr ⟨_, hasks, Or.inl rfl⟩, fun tokens _ hyields hcsrf => ?_, ?_⟩
    · rw [hstop tokens hyields] at hcsrf
      cases hcsrf
    · simp [hreach, hsendable]
  | both hreach hsendable hasks hyields hsubmits =>
    refine ⟨Or.inr ⟨_, hasks, Or.inr ⟨_, _, rfl, hyields, hsubmits⟩⟩, fun _ _ _ _ => rfl, ?_⟩
    simp [hreach, hsendable]

/-- On this machine, a page with a token leads to two requests. -/
theorem requests_mutate_onThisMachine :
    ((onThisMachine.mutate 1 .empty "s").requests (.replying
      [.answered (.page 200 "<meta name=\"csrf-token\" content=\"c\">")])).length = 2 := by
  have hgiven : Text.isBlankText "s" = false := by decide
  have hrequests := requests_mutate isPlain_onThisMachine hgiven 1 .empty
    (.replying [.answered (.page 200 "<meta name=\"csrf-token\" content=\"c\">")])
  have hsent := mt hrequests.2.2.mp (by decide)
  exact hrequests.2.1 _ hsent (.intro rfl rfl ⟨.csrf, by decide +kernel⟩) (by decide +kernel)

end Client

end BadgeEntry
