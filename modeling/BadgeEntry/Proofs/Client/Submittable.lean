import BadgeEntry.Proofs.Client.Checks
import BadgeEntry.Proofs.Client.Stepwise

/-!
# What was read can be submitted

Reading an edit page yields tokens and a login.  The name of the cookie, the old login and
the introduction were fields of the request for the page, and a new login was read from an
answer, so the fields that carry them can be sent again.  The page of the project has an
address with the scheme of the edit page, which was plain.  So with what was read a form can
be submitted, unless the token of the metadata holds a control byte: it is taken from the
page as it stands there.

## Main definitions

* `PageTokens.IsRefused` — tokens of which that of the metadata cannot be sent.

## Main results

* `Client.IsMade.scheme_form` — a plain edit page belongs to a plain form.
* `Client.HasRead.canSubmit` — a form can be submitted with what was read.
* `Client.IsMade.submit_of_read` — **what was read is submitted** unless it is refused.
-/

namespace BadgeEntry

open Http Site Submission Form Url Visit Session

/-- Tokens of which that of the metadata cannot be sent. -/
def PageTokens.IsRefused (t : PageTokens) : Prop :=
  ∃ token, t.csrf = some token ∧ Http.IsRefused token

theorem PageTokens.isRefused_iff {t : PageTokens} :
    t.IsRefused ↔ t.csrf.any (!isSendable ·) = true := by
  simp only [IsRefused, ← isSendable_eq_false_iff]
  cases t.csrf <;> simp

namespace Client

section

variable [NameMapping] {c : Client} {project : ProjectId} {login : String} {tokens : PageTokens}
  {page form : Address} {answer : Response} {w after later : World}

/-- The page of a project has the scheme of its edit page. -/
theorem IsMade.scheme_form (h : c.IsMade)
    (hpage : Address.parse (editPage c.root project) = .ok page)
    (hform : Address.parse (projectPage c.root project) = .ok form) :
    form.scheme = page.scheme := by
  obtain ⟨base, hbase⟩ := h.exists_parse_root
  have hedit : IsBelowText "/edit".toList := by decide
  rw [editPage_eq] at hpage
  rw [projectPage_eq] at hform
  have hpageScheme := scheme_of_parse_below hbase h.getLast?_root
    ((isBelowText_projectPlace project).append hedit) hpage
  have hformScheme := scheme_of_parse_below hbase h.getLast?_root
    (isBelowText_projectPlace project) hform
  rw [hformScheme, hpageScheme]

section
variable (hread : c.HasRead project login w page answer tokens after)
include hread

theorem HasRead.firstInvalid?_of_isRefused (h : tokens.IsRefused) :
    firstInvalid? (c.settings.writeFields tokens.login tokens.csrf) = some .csrfToken := by
  rw [hread.firstInvalid?_writeFields, if_pos (PageTokens.isRefused_iff.mp h)]

/-- A form can be submitted with what was read unless it is refused. -/
theorem HasRead.canSubmit (hform : Address.parse (projectPage c.root project) = .ok form)
    (h : ¬tokens.IsRefused) : c.CanSubmit project tokens form := by
  refine ⟨hread.project_eq, hform, ?_⟩
  rw [hread.firstInvalid?_writeFields, if_neg (mt PageTokens.isRefused_iff.mpr h)]

/-- The cookie with the login to go on with can be sent. -/
theorem HasRead.isSendable_cookie :
    isSendable (cookieValue c.settings.cookieName tokens.login) = true := by
  obtain ⟨hname, -, -⟩ := firstInvalid?_readFields_eq_none_iff.mp hread.ready.sendable
  exact isSendable_cookieValue_iff.mpr ⟨hname, hread.isSendable_login⟩

end

/-- **What was read is submitted** unless it is refused: the form is sent, or it fails for the
token of the metadata and nothing is sent; and that is so just if the token holds a control
byte.  The cookie with the login to go on with never is the reason.  It does not matter what
happens between the two steps, as long as the network can be reached as before. -/
theorem IsMade.submit_of_read (h : c.IsMade)
    (hread : (c.readTokens project login).run w = (.ok tokens, after)) (updates : Updates)
    (hreach : later.network.reachable = after.network.reachable) :
    let submit := c.submit project updates tokens
    ((submit.run later).1 = .error (.badField .csrfToken) ↔ tokens.IsRefused) ∧
    (tokens.IsRefused → submit.requests later = []) ∧
    (¬tokens.IsRefused → ∃ form, Address.parse (projectPage c.root project) = .ok form ∧
      submit.requests later = [c.formRequest updates tokens form]) ∧
    ¬Http.IsRefused (cookieValue c.settings.cookieName tokens.login) := by
  intro submit
  obtain ⟨edit, form, _, hpages⟩ := h.exists_hasPages project 1
  obtain ⟨page, answer, hread⟩ := (hread ▸ c.reading project login w).hasRead
  have hchecked := hpages.checks_submit updates tokens later (.badField .csrfToken) nofun
  have hfails : (submit.run later).1 = .error (.badField .csrfToken) ↔ tokens.IsRefused := by
    refine hchecked.1.trans ⟨fun hreason => ?_, fun hrefused => ?_⟩
    · by_contra hsent
      exact (hread.canSubmit hpages.form hsent).not_notSubmitted hreason
    · exact notSubmitted_badField_iff.mpr
        ⟨hread.project_eq, hread.firstInvalid?_of_isRefused hrefused⟩
  refine ⟨hfails, fun hrefused => ?_, fun hsendable => ⟨form, hpages.form, requests_eq ?_⟩, ?_⟩
  · refine requests_eq ?_
    rw [hchecked.2 (hfails.mpr hrefused), List.append_nil]
  · have hhttp : form.scheme = "http" := by
      rw [h.scheme_form hread.ready.parses hpages.form, hread.answers.plain]
    have hnetwork : later.network.reachable = true := by
      rw [hreach, hread.network, Network.next_reachable, hread.answers.reachable]
    exact (c.submission project updates tokens later).sent
      (hread.canSubmit hpages.form hsendable) hhttp hnetwork
  · rw [← isSendable_eq_false_iff, Bool.not_eq_false]
    exact hread.isSendable_cookie

end

/-- On this machine, an answer replaces the login, and its page has a token with a line break:
the page is read, and no form can be submitted with what was read. -/
theorem submit_of_read_onThisMachine :
    let cookie : Header := ⟨Utf8.encode "set-cookie".toList,
      Utf8.encode "_BadgeApp_session=t; path=/".toList⟩
    let bytes := Utf8.encode "<meta name=\"csrf-token\" content=\"a\nb\">".toList
    ∃ tokens after,
      (onThisMachine.readTokens 1 "s").run (.replying [.answered ⟨⟨200⟩, [cookie], some bytes⟩]) =
        (.ok tokens, after) ∧
      tokens.login = "t" ∧ tokens.IsRefused ∧
      ((onThisMachine.submit 1 .empty tokens).run after).1 = .error (.badField .csrfToken) ∧
      (onThisMachine.submit 1 .empty tokens).requests after = [] := by
  intro cookie bytes
  have hanswer : onThisMachine.GetsAnswer "s" (.replying [.answered ⟨⟨200⟩, [cookie], some bytes⟩])
      ⟨⟨200⟩, [cookie], some bytes⟩ :=
    ⟨by decide, by decide, rfl, rfl⟩
  obtain ⟨page, -, hread⟩ := readTokens_run_of_viewable isPlain_onThisMachine hanswer rfl rfl 1
  have hrefused : (onThisMachine.tokensIn 1 "s" [cookie] bytes).IsRefused :=
    ⟨"a\nb", by decide +kernel, 0x0A, by decide, by decide⟩
  obtain ⟨hfails, hsent, -⟩ :=
    IsMade.submit_of_read isPlain_onThisMachine.made hread .empty rfl
  exact ⟨_, _, hread, by decide +kernel, hrefused, hfails.mpr hrefused, hsent hrefused⟩

end Client

end BadgeEntry
