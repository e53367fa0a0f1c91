import BadgeEntry.Client.Basic
import BadgeEntry.Proofs.Url.Requested
import BadgeEntry.Proofs.World.Visit

/-!
# The course of the two steps

Reading an edit page and submitting a form each go in one of a few ways.  Which way is
decided by the login, the address, the fields and the reply, in this order.  The two
relations of this module list the ways, each with what it takes, what comes of it and
the world it leaves behind; all that is said about the two steps is read off them.

## Main definitions

* `Client.CanAsk`, `Client.CanSubmit` — what it takes to send a request.
* `Client.GetsAnswer` — the request for the edit page is sent and answered.
* `Client.Shows` — an answer with which the edit page can be viewed.
* `Client.tokensIn` — the tokens of a page.
* `Client.Reading`, `Client.Submitting`, `Client.Mutating` — the ways in which a step
  goes, and both of them.
* `Client.HasRead` — an answer has yielded some tokens.

## Main results

* `Client.reading`, `Client.submission`, `Client.mutating` — **each step goes in one of
  these ways.**
-/

namespace BadgeEntry

open Http Site EditPage Submission Form Url Visit Session

namespace Client

variable (c : Client) (project : ProjectId) (login : String)

/-! ### Reading the edit page -/

/-- The text of a page. -/
def pageText (bytes : List UInt8) : String :=
  String.ofList (Utf8.decode bytes)

/-- The token of a kind in a page. -/
def findToken (page : String) (kind : TokenKind) : Option String :=
  (c.extractor.extract page kind).1

/-- The tokens of a page, with the login to go on with. -/
def tokensIn (headers : List Header) (bytes : List UInt8) : PageTokens where
  project := project
  authenticity := c.findToken (pageText bytes) .authenticity
  csrf := c.findToken (pageText bytes) .csrf
  login := (nextLogin headers c.settings.cookieName login).1

/-- What there is to report of a page: first of the login, then of each token. -/
def reportsOn (headers : List Header) (bytes : List UInt8) : List Event :=
  (nextLogin headers c.settings.cookieName login).2 ++
    ((c.extractor.extract (pageText bytes) .authenticity).2 ++
      (c.extractor.extract (pageText bytes) .csrf).2)

/-- What it takes to ask for the edit page at an address: a login, the address of the page,
and fields that can be sent. -/
structure CanAsk [NameMapping] (page : Address) : Prop where
  given : Text.isBlankText login = false
  parses : Address.parse (editPage c.root project) = .ok page
  sendable : firstInvalid? (c.settings.readFields login) = none

/-- The request for the edit page. -/
def pageRequest (page : Address) : Request :=
  ⟨.get, page.requested.text, c.settings.readFields login, ""⟩

/-- The world in which the edit page is asked for. -/
def asking (page : Address) (w : World) : World :=
  w.reporting [.requestingEditPage project page.text]

/-- The world in which the edit page was asked for and replied to. -/
def asked (page : Address) (w : World) : World :=
  (asking project page w).exchanging (c.pageRequest login page)

/-- Whether an answer shows the page that was asked for: it is a success, and it comes
from the address that was asked for. -/
structure Shows (page : Address) (answer : Response) : Prop where
  plain : page.IsPlain
  success : answer.status.isSuccess = true

/-- Whether a request for the edit page of a plain site is sent and answered, and how: there
is a login, the fields can be sent, the network can be reached, and the next reply is the
answer. -/
structure GetsAnswer (w : World) (answer : Response) : Prop where
  given : Text.isBlankText login = false
  sendable : firstInvalid? (c.settings.readFields login) = none
  reachable : w.network.reachable = true
  reply : w.network.reply 0 = .answered answer

theorem GetsAnswer.canAsk [NameMapping] {c : Client} {project : ProjectId} {login : String}
    {w : World} {page : Address} {answer : Response} (h : c.GetsAnswer login w answer)
    (hpage : Address.parse (editPage c.root project) = .ok page) : c.CanAsk project login page :=
  ⟨h.given, hpage, h.sendable⟩

theorem GetsAnswer.answers {c : Client} {login : String} {w : World} {page : Address}
    {answer : Response} (h : c.GetsAnswer login w answer)
    (hhttp : page.scheme = "http") : w.network.Answers page answer :=
  ⟨h.reachable, hhttp, w.network.reply_zero.symm.trans h.reply⟩

/-- How the edit page is read. -/
inductive Reading [NameMapping] (w : World) : Except Failure PageTokens × World → Prop
  /-- There is no login. -/
  | noLogin (blank : Text.isBlankText login = true) : Reading w (.error .missingCookie, w)
  /-- The page has no address. -/
  | noAddress {fault : Fault} (given : Text.isBlankText login = false)
    (unreadable : Address.parse (editPage c.root project) = .error fault) :
    Reading w (.error (.badAddress (editPage c.root project) fault), w)
  /-- A field cannot be sent. -/
  | badField {page : Address} {field : Field} (given : Text.isBlankText login = false)
    (address : Address.parse (editPage c.root project) = .ok page)
    (invalid : firstInvalid? (c.settings.readFields login) = some field) :
    Reading w (.error (.badField field), w)
  /-- There is no answer. -/
  | unanswered {page : Address} {after : World} (ready : c.CanAsk project login page)
    (fails : Sending (asking project page w) .get page (c.settings.readFields login) ""
      (.error .transport, after)) :
    Reading w (.error .transport, after)
  /-- The answer does not show the page. -/
  | denied {page : Address} {answer : Response} (ready : c.CanAsk project login page)
    (answers : w.network.Answers page answer) (hidden : ¬Shows page answer) :
    Reading w (.ok (.denied project login),
      (c.asked project login page w).reporting [.editPageDenied project answer.status])
  /-- The page does not arrive completely. -/
  | cutShort {page : Address} {answer : Response} (ready : c.CanAsk project login page)
    (answers : w.network.Answers page answer) (shows : Shows page answer)
    (cut : answer.body = none) :
    Reading w (.error .transport, (c.asked project login page w).reporting
      (nextLogin answer.headers c.settings.cookieName login).2)
  /-- The page arrives. -/
  | read {page : Address} {answer : Response} {bytes : List UInt8}
    (ready : c.CanAsk project login page) (answers : w.network.Answers page answer)
    (shows : Shows page answer) (complete : answer.body = some bytes) :
    Reading w (.ok (c.tokensIn project login answer.headers bytes),
      (c.asked project login page w).reporting (c.reportsOn login answer.headers bytes))

instance (page : Address) (answer : Response) : Decidable (Shows page answer) :=
  decidable_of_iff (page.IsPlain ∧ answer.status.isSuccess = true)
    ⟨fun h => ⟨h.1, h.2⟩, fun h => ⟨h.plain, h.success⟩⟩

/-- An answer shows a page unless it comes from elsewhere or is no success. -/
theorem shows_iff {page : Address} {answer : Response} :
    Shows page answer ↔ ¬((page.requested != page) = true ∨ (!answer.status.isSuccess) = true) := by
  rw [bne, Bool.not_eq_true', Bool.not_eq_true', not_or, Bool.not_eq_false, Bool.not_eq_false,
    Address.requested_beq_iff]
  exact ⟨fun h => ⟨h.plain, h.success⟩, fun h => ⟨h.1, h.2⟩⟩

/-- **What an answer yields.** -/
theorem tokensOfAnswer_run (page : Address) (answer : Response) (w : World) :
    (c.tokensOfAnswer project login page answer).run w =
      if Shows page answer then
        match answer.body with
        | some bytes => (.ok (c.tokensIn project login answer.headers bytes),
            w.reporting (c.reportsOn login answer.headers bytes))
        | none => (.error .transport,
            w.reporting (nextLogin answer.headers c.settings.cookieName login).2)
      else (.ok (.denied project login),
        w.reporting [.editPageDenied project answer.status]) := by
  unfold tokensOfAnswer
  by_cases hshows : Shows page answer
  · rw [if_pos hshows, if_neg (shows_iff.mp hshows)]
    simp only [bind_run, reportAll_run, bodyText_run]
    cases answer.body with
    | none => rfl
    | some bytes =>
      simp only [pure_run, World.reporting_reporting]
      rfl
  · rw [if_neg hshows, if_pos (Decidable.not_not.mp (hshows ∘ shows_iff.mpr))]
    rfl

variable [NameMapping]

/-- The edit page is asked for if that can be done, and what comes of it depends on the
answer. -/
theorem readTokens_run {page : Address} (ready : c.CanAsk project login page) (w : World) :
    (c.readTokens project login).run w =
      match (send .get page (c.settings.readFields login) "").run (asking project page w) with
      | (.ok answer, after) => (c.tokensOfAnswer project login page answer).run after
      | (.error failure, after) => (.error failure, after) := by
  have hreport : run (report (.requestingEditPage project page.text)) w =
      (.ok (), asking project page w) := rfl
  unfold readTokens
  simp only [ready.given, Bool.false_eq_true, if_false, bind_run, parseAddress_run, ready.parses,
    checkFields_run, ready.sendable, hreport]
  rcases run (send .get page (c.settings.readFields login) "") (asking project page w) with
    ⟨_ | _, _⟩ <;> rfl

/-- What comes of the edit page if the request for it is answered. -/
theorem readTokens_run_of_answers {w : World} {page : Address} {answer : Response}
    (ready : c.CanAsk project login page) (answers : w.network.Answers page answer) :
    (c.readTokens project login).run w =
      (c.tokensOfAnswer project login page answer).run (c.asked project login page w) := by
  have hnext : (asking project page w).network.next.1 = .answered answer := answers.reply
  have hreach : (asking project page w).network.reachable = true := answers.reachable
  rw [c.readTokens_run project login ready, send_run, if_pos hreach, if_pos answers.plain, hnext]
  rfl

/-- **An edit page is read in one of these ways.** -/
theorem reading (w : World) :
    c.Reading project login w ((c.readTokens project login).run w) := by
  by_cases hblank : Text.isBlankText login = true
  · unfold readTokens
    rw [if_pos hblank]
    exact .noLogin hblank
  have hgiven : Text.isBlankText login = false := Bool.eq_false_iff.mpr hblank
  cases haddress : Address.parse (editPage c.root project) with
  | error fault =>
    unfold readTokens
    simp only [hgiven, Bool.false_eq_true, if_false, bind_run, parseAddress_run, haddress]
    exact .noAddress hgiven haddress
  | ok page =>
    cases hfields : firstInvalid? (c.settings.readFields login) with
    | some field =>
      unfold readTokens
      simp only [hgiven, Bool.false_eq_true, if_false, bind_run, parseAddress_run, haddress,
        checkFields_run, hfields]
      exact .badField hgiven haddress hfields
    | none =>
      have hready : c.CanAsk project login page := ⟨hgiven, haddress, hfields⟩
      have hsend := sending (asking project page w) .get page (c.settings.readFields login) ""
      rw [c.readTokens_run project login hready]
      generalize run (send .get page (c.settings.readFields login) "") (asking project page w)
        = out at hsend
      cases hsend with
      | unsent hlost => exact .unanswered hready (.unsent hlost)
      | noTunnel hreach hsecure => exact .unanswered hready (.noTunnel hreach hsecure)
      | dropped hreach hplain hreply => exact .unanswered hready (.dropped hreach hplain hreply)
      | @answered answer hanswers =>
        -- asking changes the events only, so the network that answers is that of `w`
        have hnext : w.network.Answers page answer :=
          ⟨hanswers.reachable, hanswers.plain, hanswers.reply⟩
        change c.Reading project login w
          ((c.tokensOfAnswer project login page answer).run (c.asked project login page w))
        rw [tokensOfAnswer_run]
        by_cases hshows : Shows page answer
        · rw [if_pos hshows]
          cases hbody : answer.body with
          | none => exact .cutShort hready hnext hshows hbody
          | some bytes => exact .read hready hnext hshows hbody
        · rw [if_neg hshows]
          exact .denied hready hnext hshows

/-- Whether some tokens come from an answer: the page was asked for, that request alone was
sent and took one reply, and the tokens are those of the page if the answer shows it, and
else there are none. -/
structure HasRead (w : World) (page : Address) (answer : Response) (tokens : PageTokens)
    (after : World) : Prop where
  ready : c.CanAsk project login page
  answers : w.network.Answers page answer
  sent : after.sent = w.sent ++ [c.pageRequest login page]
  network : after.network = w.network.next.2
  shown : Shows page answer →
    ∃ bytes, answer.body = some bytes ∧ tokens = c.tokensIn project login answer.headers bytes
  hidden : ¬Shows page answer → tokens = .denied project login

/-- Tokens belong to the project whose page was asked for. -/
theorem HasRead.project_eq {c : Client} {project : ProjectId} {login : String} {w after : World}
    {page : Address} {answer : Response} {tokens : PageTokens}
    (h : c.HasRead project login w page answer tokens after) : tokens.project = project := by
  by_cases hshows : Shows page answer
  · obtain ⟨_, -, rfl⟩ := h.shown hshows
    rfl
  · rw [h.hidden hshows]
    rfl

/-- Tokens come from an answer. -/
theorem Reading.hasRead {c : Client} {project : ProjectId} {login : String} {w after : World}
    {tokens : PageTokens} (h : c.Reading project login w (.ok tokens, after)) :
    ∃ page answer, c.HasRead project login w page answer tokens after := by
  cases h with
  | denied ready answers hidden =>
    exact ⟨_, _, ready, answers, rfl, rfl, fun shows => absurd shows hidden, fun _ => rfl⟩
  | read ready answers shows complete =>
    exact ⟨_, _, ready, answers, rfl, rfl, fun _ => ⟨_, complete, rfl⟩,
      fun hidden => absurd shows hidden⟩

/-! ### Submitting the form -/

variable (updates : Updates) (tokens : PageTokens)

/-- What it takes to submit a form to an address: tokens of the project, the address of its
page, and fields that can be sent. -/
structure CanSubmit (form : Address) : Prop where
  same : tokens.project = project
  parses : Address.parse (projectPage c.root project) = .ok form
  sendable : firstInvalid? (c.settings.writeFields tokens.login tokens.csrf) = none

/-- The request that submits a form. -/
def formRequest (form : Address) : Request :=
  ⟨.patch, form.requested.text, c.settings.writeFields tokens.login tokens.csrf,
    updates.encode tokens.authenticity⟩

/-- The world in which a form is submitted. -/
def submitting (form : Address) (w : World) : World :=
  w.reporting [.submitting project form.text updates.size]

/-- The answer to a form. -/
def answerTo (form : Address) (answer : Response) : Answer :=
  classify form answer.status (firstTextOf? "location" answer.headers)

/-- How a form is submitted. -/
inductive Submitting (w : World) : Except Failure Outcome × World → Prop
  /-- The tokens belong to another project. -/
  | wrongProject (other : tokens.project ≠ project) :
    Submitting w (.error (.wrongProject project tokens.project), w)
  /-- The project has no address. -/
  | noAddress {fault : Fault} (same : tokens.project = project)
    (unreadable : Address.parse (projectPage c.root project) = .error fault) :
    Submitting w (.error (.badAddress (projectPage c.root project) fault), w)
  /-- A field cannot be sent. -/
  | badField {form : Address} {field : Field} (same : tokens.project = project)
    (parses : Address.parse (projectPage c.root project) = .ok form)
    (invalid : firstInvalid? (c.settings.writeFields tokens.login tokens.csrf) = some field) :
    Submitting w (.error (.badField field), w)
  /-- There is no answer. -/
  | unanswered {form : Address} {after : World} (ready : c.CanSubmit project tokens form)
    (fails : Sending (submitting project updates form w) .patch form
      (c.settings.writeFields tokens.login tokens.csrf) (updates.encode tokens.authenticity)
      (.error .transport, after)) :
    Submitting w (.error .transport, after)
  /-- There is an answer. -/
  | answered {form : Address} {answer : Response} (ready : c.CanSubmit project tokens form)
    (answers : w.network.Answers form answer) :
    Submitting w (.ok (answerTo form answer).outcome,
      ((submitting project updates form w).exchanging
        (c.formRequest updates tokens form)).reporting [(answerTo form answer).event project])

/-- **A form is submitted in one of these ways.** -/
theorem submission (w : World) :
    c.Submitting project updates tokens w ((c.submit project updates tokens).run w) := by
  unfold submit
  by_cases hsame : tokens.project = project
  · simp only [ne_eq, hsame, not_true_eq_false, if_false, bind_run, parseAddress_run]
    cases haddress : Address.parse (projectPage c.root project) with
    | error fault => exact .noAddress hsame haddress
    | ok form =>
      simp only [checkFields_run]
      cases hfields : firstInvalid? (c.settings.writeFields tokens.login tokens.csrf) with
      | some field => exact .badField hsame haddress hfields
      | none =>
        have hready : c.CanSubmit project tokens form := ⟨hsame, haddress, hfields⟩
        have hreport : run (report (.submitting project form.text updates.size)) w =
            (.ok (), submitting project updates form w) := rfl
        have hsend := sending (submitting project updates form w) .patch form
          (c.settings.writeFields tokens.login tokens.csrf) (updates.encode tokens.authenticity)
        simp only [hreport]
        generalize run (send .patch form (c.settings.writeFields tokens.login tokens.csrf)
          (updates.encode tokens.authenticity)) (submitting project updates form w) = out at hsend
        cases hsend with
        | unsent hlost => exact .unanswered hready (.unsent hlost)
        | noTunnel hreach hsecure => exact .unanswered hready (.noTunnel hreach hsecure)
        | dropped hreach hplain hreply => exact .unanswered hready (.dropped hreach hplain hreply)
        | answered hanswers =>
          exact .answered hready ⟨hanswers.reachable, hanswers.plain, hanswers.reply⟩
  · simp only [ne_eq, hsame, not_false_eq_true, if_true, bind_run, throw_run]
    exact .wrongProject hsame

section
variable {c : Client} {project : ProjectId} {updates : Updates} {tokens : PageTokens}
  {form : Address} {w after : World} {result : Except Failure Outcome}

/-- A form is sent if its address is plain and all its fields can be sent. -/
theorem Submitting.sent (h : c.Submitting project updates tokens w (result, after))
    (ready : c.CanSubmit project tokens form) (hhttp : form.scheme = "http")
    (hreach : w.network.reachable = true) :
    after.sent = w.sent ++ [c.formRequest updates tokens form] := by
  cases h with
  | wrongProject hother => exact absurd ready.same hother
  | noAddress _ hunreadable => rw [ready.parses] at hunreadable; cases hunreadable
  | badField _ _ hinvalid => rw [ready.sendable] at hinvalid; cases hinvalid
  | unanswered hready hfails =>
    obtain rfl := Except.ok.inj (ready.parses.symm.trans hready.parses)
    rw [hfails.eq_exchanging hhttp hreach]
    rfl
  | answered hready _ =>
    obtain rfl := Except.ok.inj (ready.parses.symm.trans hready.parses)
    rfl

/-- A form with a field that cannot be sent is not sent. -/
theorem Submitting.not_sent (h : c.Submitting project updates tokens w (result, after))
    (hinvalid : firstInvalid? (c.settings.writeFields tokens.login tokens.csrf) ≠ none) :
    after.sent = w.sent := by
  cases h with
  | wrongProject => rfl
  | noAddress => rfl
  | badField => rfl
  | unanswered hready => exact absurd hready.sendable hinvalid
  | answered hready => exact absurd hready.sendable hinvalid

end

/-! ### Both steps -/

/-- How both steps go. -/
inductive Mutating (w : World) : Except Failure Outcome × World → Prop
  /-- The page cannot be read. -/
  | unread {failure : Failure} {after : World}
    (read : c.Reading project login w (.error failure, after)) :
    Mutating w (.error failure, after)
  /-- There is no token, and the form is not submitted. -/
  | skipped {tokens : PageTokens} {after : World}
    (read : c.Reading project login w (.ok tokens, after)) (none : tokens.isDenied = true) :
    Mutating w (.ok .permissionDenied, after)
  /-- The form is submitted with the tokens of the page. -/
  | submitted {tokens : PageTokens} {after : World} {out : Except Failure Outcome × World}
    (read : c.Reading project login w (.ok tokens, after)) (some : tokens.isDenied = false)
    (submit : c.Submitting project updates tokens after out) :
    Mutating w out

theorem mutate_run (w : World) :
    (c.mutate project updates login).run w =
      match (c.readTokens project login).run w with
      | (.ok tokens, after) =>
        if tokens.isDenied then (.ok .permissionDenied, after)
        else (c.submit project updates tokens).run after
      | (.error failure, after) => (.error failure, after) := by
  unfold mutate
  rw [bind_run]
  cases (c.readTokens project login).run w with
  | mk result after =>
    cases result with
    | error failure => rfl
    | ok tokens => by_cases h : tokens.isDenied = true <;> simp [h]

/-- **Both steps go in one of these ways.** -/
theorem mutating (w : World) :
    c.Mutating project login updates w ((c.mutate project updates login).run w) := by
  have hread := c.reading project login w
  rw [mutate_run]
  generalize (c.readTokens project login).run w = out at hread ⊢
  obtain ⟨result, after⟩ := out
  cases result with
  | error failure => exact .unread hread
  | ok tokens =>
    by_cases hnone : tokens.isDenied = true
    · simp only [if_pos hnone]
      exact .skipped hread hnone
    · simp only [if_neg hnone]
      exact .submitted hread (Bool.eq_false_iff.mpr hnone)
        (c.submission project updates tokens after)

/-- Whether a project could be written to is what both steps come to. -/
theorem write_run (w : World) :
    (c.write project updates login).run w =
      (((c.mutate project updates login).run w).1.map Outcome.isSuccess,
        ((c.mutate project updates login).run w).2) := by
  unfold write
  rw [bind_run]
  cases (c.mutate project updates login).run w with
  | mk result after => cases result <;> rfl

end Client

/-- Writing in the usual way is done by a client that is made for it. -/
theorem writeToProject_run [NameMapping] (root : String) (project : ProjectId) (updates : Updates)
    (login : String) (w : World) :
    (writeToProject root project updates login).run w = match Client.create? { root } with
      | .error failure => (.error failure, w)
      | .ok client => (client.write project updates login).run w := by
  unfold writeToProject
  rw [bind_run]
  cases Client.create? { root } <;> rfl

end BadgeEntry
