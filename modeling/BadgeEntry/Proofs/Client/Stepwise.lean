import BadgeEntry.Proofs.Client.Outcome
import BadgeEntry.Proofs.Client.Protocol

/-!
# Both steps at once, and one after the other

Writing to a project reads the edit page and submits the form.  The same can be done
step by step: the page is read, and the form is submitted with whatever tokens it
yielded; a token that is missing is left out, and the site decides.

The two ways agree on a page that can be viewed if at least one token is found in it.
They differ on a page that can be viewed and holds none: then writing at once takes the
page for one that may not be edited and stops, while step by step the form is submitted.

## Main definitions

* `Client.stepwise` — both steps, one after the other.

## Main results

* `Client.mutate_run_eq_stepwise_run_iff` — the two ways agree if there is a token.
* `Client.mutate_of_viewable` — **what both ways come to on a page that can be viewed.**
-/

namespace BadgeEntry

open Http Site EditPage Submission Form Url Visit Session

namespace Client

section

variable [NameMapping] {c : Client} {project : ProjectId} {updates : Updates} {login : String}
  {tokens : PageTokens} {answer : Response} {bytes : List UInt8} {w after : World}

/-- Reads the edit page of a project and submits its form with the tokens that it yields,
whatever they are. -/
def stepwise (c : Client) (project : ProjectId) (updates : Updates) (login : String) :
    Visit Outcome := do
  c.submit project updates (← c.readTokens project login)

/-- A page is read if it can be viewed and arrives completely. -/
theorem readTokens_run_of_viewable (h : c.IsPlain) (hanswer : c.GetsAnswer login w answer)
    (hsuccess : answer.status.isSuccess = true) (hcomplete : answer.body = some bytes)
    (project : ProjectId) :
    ∃ page, Address.parse (editPage c.root project) = .ok page ∧
      (c.readTokens project login).run w =
        (.ok (c.tokensIn project login answer.headers bytes),
          (c.asked project login page w).reporting (c.reportsOn login answer.headers bytes)) := by
  obtain ⟨page, -, hpage, -, ⟨hhttp, hplain⟩, -⟩ := h.exists_pages project
  refine ⟨page, hpage, ?_⟩
  have hshows : Shows page answer := ⟨hplain, hsuccess⟩
  rw [c.readTokens_run_of_answers project login (hanswer.canAsk hpage) (hanswer.answers hhttp),
    tokensOfAnswer_run, if_pos hshows, hcomplete]

theorem stepwise_run (hread : (c.readTokens project login).run w = (.ok tokens, after)) :
    (c.stepwise project updates login).run w = (c.submit project updates tokens).run after := by
  unfold stepwise
  rw [bind_run, hread]

theorem mutate_run_of_read (hread : (c.readTokens project login).run w = (.ok tokens, after)) :
    (c.mutate project updates login).run w =
      if tokens.isDenied then (.ok .permissionDenied, after)
      else (c.submit project updates tokens).run after := by
  rw [mutate_run, hread]

/-- A form that is submitted is never denied. -/
theorem submit_run_ne_permissionDenied (c : Client) (project : ProjectId) (updates : Updates)
    (tokens : PageTokens) (w : World) :
    ((c.submit project updates tokens).run w).1 ≠ .ok .permissionDenied := by
  intro hdenied
  have hcourse := c.submission project updates tokens w
  generalize (c.submit project updates tokens).run w = out at hdenied hcourse
  cases hcourse with
  | answered => exact outcome_answerTo_ne_permissionDenied (Except.ok.inj hdenied)
  | wrongProject => cases hdenied
  | noAddress => cases hdenied
  | badField => cases hdenied
  | unanswered => cases hdenied

/-- **The two ways agree** on tokens that were read if and only if there is one. -/
theorem mutate_run_eq_stepwise_run_iff
    (hread : (c.readTokens project login).run w = (.ok tokens, after)) :
    (c.mutate project updates login).run w = (c.stepwise project updates login).run w ↔
      tokens.isDenied = false := by
  rw [stepwise_run hread, mutate_run_of_read hread]
  constructor
  · intro hsame
    -- a denial is what writing at once comes to, and a form that is submitted never does
    by_cases hnone : tokens.isDenied = true
    · rw [if_pos hnone] at hsame
      exact absurd (congrArg Prod.fst hsame).symm
        (c.submit_run_ne_permissionDenied project updates tokens after)
    · exact Bool.eq_false_iff.mpr hnone
  · intro hsome
    rw [hsome, if_neg Bool.false_ne_true]

/-- Writing at once is denied on tokens that were read if and only if there is none. -/
theorem mutate_run_eq_permissionDenied_iff
    (hread : (c.readTokens project login).run w = (.ok tokens, after)) :
    ((c.mutate project updates login).run w).1 = .ok .permissionDenied ↔
      tokens.isDenied = true := by
  rw [mutate_run_of_read hread]
  by_cases hnone : tokens.isDenied = true
  · simp [hnone]
  · rw [if_neg hnone]
    exact iff_of_false (c.submit_run_ne_permissionDenied project updates tokens after) hnone

/-- A page that was read leads to a form, step by step, whatever was found in it. -/
theorem stepwise_requests (h : c.IsPlain) (hanswer : c.GetsAnswer login w answer)
    (hsuccess : answer.status.isSuccess = true) (hcomplete : answer.body = some bytes)
    (hcsrf : (c.findToken (pageText bytes) .csrf).all isSendable = true) :
    ∃ first second, (c.stepwise project updates login).requests w = [first, second] ∧
      c.AsksForPage project login first ∧
        c.SubmitsForm project updates (c.tokensIn project login answer.headers bytes) second := by
  obtain ⟨page, form, hpage, hform, ⟨-, hpagePlain⟩, hformHttp, hformPlain⟩ :=
    h.exists_pages project
  obtain ⟨_, hparses, hread⟩ :=
    readTokens_run_of_viewable h hanswer hsuccess hcomplete project
  obtain rfl := Except.ok.inj (hpage.symm.trans hparses)
  obtain ⟨-, hlogin, -⟩ := firstInvalid?_readFields_eq_none_iff.mp hanswer.sendable
  have hready : c.CanSubmit project (c.tokensIn project login answer.headers bytes) form := by
    refine ⟨rfl, hform, ?_⟩
    rw [tokensIn, firstInvalid?_writeFields hanswer.sendable (isSendable_nextLogin hlogin)]
    cases hfound : c.findToken (pageText bytes) .csrf with
    | none => rfl
    | some token =>
      have htoken : isSendable token = true := by simpa [hfound] using hcsrf
      simp [htoken]
  refine ⟨_, _, requests_eq ?_, asksForPage_pageRequest hpage hpagePlain,
    submitsForm_formRequest hform hformPlain⟩
  have hreach : w.network.next.2.reachable = true :=
    w.network.next_reachable.trans hanswer.reachable
  have hsubmit := c.submission project updates (c.tokensIn project login answer.headers bytes)
    ((c.asked project login page w).reporting (c.reportsOn login answer.headers bytes))
  rw [stepwise_run hread]
  generalize (c.submit project updates (c.tokensIn project login answer.headers bytes)).run _
    = out at hsubmit
  obtain ⟨result, last⟩ := out
  rw [hsubmit.sent hready hformHttp hreach]
  exact List.append_assoc ..

/-- **What both ways come to on a page that can be viewed**, on a plain site: its answer is
a success that arrives completely.

Writing at once goes as it does step by step if and only if a token of either kind is found
in the page.  If none is found, it is denied, and no form is submitted.  Step by step it is
never denied: the form is submitted with the tokens of the page, and a token that is
missing is missing there, unless the token of the metadata cannot be sent. -/
theorem mutate_of_viewable (h : c.IsPlain) (hanswer : c.GetsAnswer login w answer)
    (hsuccess : answer.status.isSuccess = true) (hcomplete : answer.body = some bytes)
    (project : ProjectId) (updates : Updates) :
    let atOnce := c.mutate project updates login
    let stepwise := c.stepwise project updates login
    let found := ∃ kind, (c.findToken (pageText bytes) kind).isSome = true
    (atOnce.run w = stepwise.run w ↔ found) ∧
    ((atOnce.run w).1 = .ok .permissionDenied ↔ ¬found) ∧
    (¬found → ∀ q ∈ atOnce.requests w, q.method ≠ .patch) ∧
    (stepwise.run w).1 ≠ .ok .permissionDenied ∧
    ((c.findToken (pageText bytes) .csrf).all isSendable = true →
      ∃ first second, stepwise.requests w = [first, second] ∧ c.AsksForPage project login first ∧
        c.SubmitsForm project updates (c.tokensIn project login answer.headers bytes) second) := by
  intro atOnce stepwise found
  obtain ⟨page, -, hread⟩ := readTokens_run_of_viewable h hanswer hsuccess hcomplete project
  have hfound : (c.tokensIn project login answer.headers bytes).isDenied = false ↔ found :=
    isDenied_tokensIn
  have hdenied : (atOnce.run w).1 = .ok .permissionDenied ↔ ¬found := by
    rw [mutate_run_eq_permissionDenied_iff hread, ← hfound, Bool.not_eq_false]
  refine ⟨(mutate_run_eq_stepwise_run_iff hread).trans hfound, hdenied, ?_, ?_, ?_⟩
  · intro hnone
    obtain ⟨hends, hsent⟩ := completes (hdenied.mpr hnone)
    rw [hsent]
    exact hends.permissionDenied_iff.mp rfl
  · rw [stepwise_run hread]
    exact c.submit_run_ne_permissionDenied _ _ _ _
  · exact stepwise_requests h hanswer hsuccess hcomplete

end

/-- On this machine, the two ways agree on a page with a token. -/
theorem mutate_eq_stepwise_onThisMachine :
    let w := World.replying
      [.answered (.page 200 "<meta name=\"csrf-token\" content=\"c\">"), .answered (.page 422 "")]
    (onThisMachine.mutate 1 .empty "s").run w = (onThisMachine.stepwise 1 .empty "s").run w := by
  intro w
  have hanswer : onThisMachine.GetsAnswer "s" w
      (.page 200 "<meta name=\"csrf-token\" content=\"c\">") :=
    ⟨by decide, by decide, rfl, rfl⟩
  exact (mutate_of_viewable isPlain_onThisMachine hanswer rfl rfl 1 .empty).1.mpr
    ⟨.csrf, by decide +kernel⟩

/-- **The two ways differ** on a page that can be viewed and holds no token: at once,
writing is denied after one request; step by step, the form is sent and refused. -/
theorem mutate_ne_stepwise_of_no_token :
    let w := World.replying [.answered (.page 200 ""), .answered (.page 422 "")]
    onThisMachine.IsPlain ∧ onThisMachine.GetsAnswer "s" w (.page 200 "") ∧
    ((onThisMachine.mutate 1 .empty "s").run w).1.toOption = some .permissionDenied ∧
    ((onThisMachine.mutate 1 .empty "s").requests w).length = 1 ∧
    ((onThisMachine.stepwise 1 .empty "s").run w).1.toOption = some .unexpectedAnswer ∧
    ((onThisMachine.stepwise 1 .empty "s").requests w).length = 2 := by
  refine ⟨isPlain_onThisMachine, ⟨by decide, by decide, rfl, rfl⟩, ?_, ?_, ?_, ?_⟩
  · decide +kernel
  · decide +kernel
  · decide +kernel
  · decide +kernel

end Client

end BadgeEntry
