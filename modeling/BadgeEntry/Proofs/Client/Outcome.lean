import BadgeEntry.Proofs.Client.Course

/-!
# The outcome of an attempt to write

An attempt that comes to an end without a failure has one of three outcomes, and which
one it is can be told from the requests that were sent and the answers to them.  If no
form was submitted, it is a denial.  If one was, its answer decides: a success, or a
redirection that leads back to where the form was submitted, and the attempt succeeded;
anything else, and it did not.

## Main definitions

* `Client.Accepts` — an answer that accepts a form.
* `Client.Submits` — a request that submits one.
* `Client.Completes` — the outcomes, with what was sent and answered.

## Main results

* `Client.outcome_answerTo_eq_success_iff` — the answers that count as a success.
* `Client.completes` — how an attempt comes to an end.
* `Client.outcome_mutate` — **what an outcome says about what was sent and answered.**
-/

namespace BadgeEntry

open Http Site EditPage Submission Form Url Visit Session

namespace Client

/-- No status is both a success and a redirection. -/
theorem not_isRedirection_of_isSuccess {status : Status} (h : status.isSuccess = true) :
    status.isRedirection = false := by
  rw [Status.isSuccess, Bool.and_eq_true, decide_eq_true_eq, decide_eq_true_eq] at h
  rw [Status.isRedirection, Bool.and_eq_false_iff, decide_eq_false_iff_not]
  exact Or.inl (by omega)

variable [NameMapping] {c : Client} {project : ProjectId} {updates : Updates} {login : String}
  {w : World}

/-- An answer accepts a form that was submitted to an address if it is a success, or a
redirection whose first location is readable and leads to that same address. -/
def Accepts (form : Address) (answer : Response) : Prop :=
  answer.status.isSuccess = true ∨
    answer.status.isRedirection = true ∧ ∃ location target,
      firstTextOf? "location" answer.headers = some location ∧
        form.resolve location = .ok target ∧ target.text = form.text

/-- A request that submits a form to an address, which is that of the project. -/
structure Submits (c : Client) (project : ProjectId) (q : Request) (form : Address) : Prop where
  method : q.method = .patch
  parses : Address.parse (projectPage c.root project) = .ok form
  address : q.address = form.requested.text

theorem leadsBack_iff {form : Address} {location : Option String} :
    leadsBack form location = true ↔ ∃ text target,
      location = some text ∧ form.resolve text = .ok target ∧ target.text = form.text := by
  have htext {u v : Address} : (u == v) = true ↔ u.text = v.text := by
    rw [Address.text, Address.text, String.ofList_inj]
    change (u.render == v.render) = true ↔ _
    exact beq_iff_eq
  cases location with
  | none => simp [leadsBack]
  | some text =>
    cases hresolve : form.resolve text with
    | error fault => simp [leadsBack, hresolve]
    | ok target => simp [leadsBack, hresolve, htext]

/-- **The answers that count as a success.** -/
theorem outcome_answerTo_eq_success_iff {form : Address} {answer : Response} :
    (answerTo form answer).outcome = .success ↔ Accepts form answer := by
  rw [answerTo, classify, Accepts, ← leadsBack_iff]
  by_cases hsuccess : answer.status.isSuccess = true
  · simp [hsuccess, not_isRedirection_of_isSuccess hsuccess, Answer.outcome]
  · by_cases hback : answer.status.isRedirection = true ∧
        leadsBack form (firstTextOf? "location" answer.headers) = true
    · simp [hback, Answer.outcome]
    · rw [if_neg hback, if_neg hsuccess]
      simp [hsuccess, Answer.outcome, hback]

/-- A form that was answered is accepted or refused. -/
theorem outcome_answerTo (form : Address) (answer : Response) :
    (answerTo form answer).outcome = .success ∨
      (answerTo form answer).outcome = .unexpectedAnswer := by
  cases answerTo form answer with
  | redirectedToSelf => exact Or.inl rfl
  | unconfirmed status => exact Or.inl rfl
  | rejected status location => exact Or.inr rfl

/-- A form that was answered was not denied. -/
theorem outcome_answerTo_ne_permissionDenied {form : Address} {answer : Response} :
    (answerTo form answer).outcome ≠ .permissionDenied := by
  intro hdenied
  rcases outcome_answerTo form answer with h | h <;> rw [h] at hdenied <;> cases hdenied

/-! ### Exchanges -/

/-- How an attempt comes to an end that does not fail: with the page that was asked for,
or with the form that was submitted after it, each with its answer. -/
inductive Completes (c : Client) (project : ProjectId) (updates : Updates) (login : String) :
    Outcome → List (Request × Reply) → Prop
  /-- The page may not be edited, or there is no token in it. -/
  | skipped {page : Address} {answer : Response}
    (parses : Address.parse (editPage c.root project) = .ok page)
    (arrives : Shows page answer → answer.body ≠ none) :
    Completes c project updates login .permissionDenied
      [(c.pageRequest login page, .answered answer)]
  /-- The form is submitted with the tokens of the page. -/
  | submitted {page form : Address} {first second : Response} {tokens : PageTokens}
    (parses : Address.parse (editPage c.root project) = .ok page)
    (arrives : first.body ≠ none)
    (parsesForm : Address.parse (projectPage c.root project) = .ok form) :
    Completes c project updates login (answerTo form second).outcome
      [(c.pageRequest login page, .answered first),
        (c.formRequest updates tokens form, .answered second)]

/-- The answer to a page that was asked for: if it shows the page, the page arrived. -/
theorem HasRead.body_ne_none {page : Address} {answer : Response} {tokens : PageTokens}
    {after : World} (h : c.HasRead project login w page answer tokens after)
    (hshows : Shows page answer) : answer.body ≠ none := by
  obtain ⟨bytes, hcomplete, -⟩ := h.shown hshows
  rw [hcomplete]
  exact Option.some_ne_none _

/-- How an attempt comes to an end, told from the requests that it adds and the replies
that they meet. -/
theorem completes_of_mutating {outcome : Outcome} {after : World}
    (h : c.Mutating project login updates w (.ok outcome, after)) :
    ∃ qs, after.sent = w.sent ++ qs ∧ (∀ q ∈ qs, q.method ≠ .connect) ∧
      c.Completes project updates login outcome
        (qs.zipIdx.map fun q => (q.1, w.network.reply q.2)) := by
  cases h with
  | skipped hread =>
    obtain ⟨page, answer, hread⟩ := hread.hasRead
    refine ⟨_, hread.sent, by simp [pageRequest], ?_⟩
    change Completes _ _ _ _ _ [(_, w.network.reply 0)]
    rw [w.network.reply_zero, hread.answers.reply]
    exact .skipped hread.ready.parses hread.body_ne_none
  | @submitted tokens _ _ hread hsome hsubmit =>
    obtain ⟨page, first, hread⟩ := hread.hasRead
    have hshows : Shows page first := by
      refine Decidable.byContradiction fun hhidden => ?_
      rw [hread.hidden hhidden] at hsome
      cases hsome
    cases hsubmit with
    | @answered form second hready hanswers =>
      -- the form takes the reply that comes after the one to the page
      have hsecond : w.network.reply 1 = .answered second := by
        rw [← w.network.reply_next 0, Network.reply_zero, ← hread.network, hanswers.reply]
      refine ⟨[c.pageRequest login page, c.formRequest updates tokens form], ?_,
        by simp [pageRequest, formRequest], ?_⟩
      · exact (congrArg (· ++ _) hread.sent).trans (List.append_assoc ..)
      · change Completes _ _ _ _ _ [(_, w.network.reply 0), (_, w.network.reply 1)]
        rw [hsecond, w.network.reply_zero, hread.answers.reply]
        exact .submitted hread.ready.parses (hread.body_ne_none hshows) hready.parses

/-- **How an attempt comes to an end.** -/
theorem completes {outcome : Outcome}
    (h : ((c.mutate project updates login).run w).1 = .ok outcome) :
    c.Completes project updates login outcome ((c.mutate project updates login).exchanges w) ∧
      (c.mutate project updates login).requests w =
        ((c.mutate project updates login).exchanges w).map Prod.fst := by
  have hends : ∃ qs, ((c.mutate project updates login).run w).2.sent = w.sent ++ qs ∧
      (∀ q ∈ qs, q.method ≠ .connect) ∧ c.Completes project updates login outcome
        (qs.zipIdx.map fun q => (q.1, w.network.reply q.2)) := by
    have hcourse := c.mutating project login updates w
    generalize (c.mutate project updates login).run w = out at h hcourse
    obtain ⟨result, after⟩ := out
    obtain rfl : result = .ok outcome := h
    exact completes_of_mutating hcourse
  obtain ⟨qs, hsent, hplain, hqs⟩ := hends
  rw [map_exchanges hsent hplain, exchanges_eq hsent hplain]
  exact ⟨hqs, rfl⟩

namespace Completes

variable {outcome : Outcome} {es : List (Request × Reply)} {q : Request} {form : Address}
  {answer : Response}

/-- If a form was submitted, its answer is the outcome. -/
theorem outcome_of_mem (h : c.Completes project updates login outcome es)
    (hmem : (q, .answered answer) ∈ es) (hsubmits : c.Submits project q form) :
    outcome = (answerTo form answer).outcome := by
  obtain ⟨hpatch, hform, -⟩ := hsubmits
  cases h with
  | skipped =>
    obtain ⟨rfl, -⟩ := Prod.mk.inj (List.mem_singleton.mp hmem)
    cases hpatch
  | submitted _ _ hparses =>
    obtain rfl := Except.ok.inj (hform.symm.trans hparses)
    rcases List.mem_cons.mp hmem with hfirst | hsecond
    · obtain ⟨rfl, -⟩ := Prod.mk.inj hfirst
      cases hpatch
    · obtain ⟨-, hanswer⟩ := Prod.mk.inj (List.mem_singleton.mp hsecond)
      cases hanswer
      rfl

/-- If the attempt was not denied, a form was submitted. -/
theorem exists_submission (h : c.Completes project updates login outcome es)
    (hne : outcome ≠ .permissionDenied) :
    ∃ q form answer, (q, .answered answer) ∈ es ∧ c.Submits project q form := by
  cases h with
  | skipped => exact absurd rfl hne
  | submitted _ _ hparses =>
    exact ⟨_, _, _, List.mem_cons_of_mem _ (List.mem_singleton_self _), rfl, hparses, rfl⟩

theorem success_iff (h : c.Completes project updates login outcome es) :
    outcome = .success ↔ ∃ q form answer, (q, .answered answer) ∈ es ∧
      c.Submits project q form ∧ Accepts form answer := by
  constructor
  · intro hsuccess
    obtain ⟨q, form, answer, hmem, hsubmits⟩ :=
      h.exists_submission (by rw [hsuccess]; exact Outcome.noConfusion)
    refine ⟨q, form, answer, hmem, hsubmits, outcome_answerTo_eq_success_iff.mp ?_⟩
    rw [← h.outcome_of_mem hmem hsubmits, hsuccess]
  · rintro ⟨q, form, answer, hmem, hsubmits, haccepts⟩
    rw [h.outcome_of_mem hmem hsubmits]
    exact outcome_answerTo_eq_success_iff.mpr haccepts

theorem unexpectedAnswer_iff (h : c.Completes project updates login outcome es) :
    outcome = .unexpectedAnswer ↔ ∃ q form answer, (q, .answered answer) ∈ es ∧
      c.Submits project q form ∧ ¬Accepts form answer := by
  constructor
  · intro hrefused
    obtain ⟨q, form, answer, hmem, hsubmits⟩ :=
      h.exists_submission (by rw [hrefused]; exact Outcome.noConfusion)
    refine ⟨q, form, answer, hmem, hsubmits, fun haccepts => ?_⟩
    rw [h.outcome_of_mem hmem hsubmits, outcome_answerTo_eq_success_iff.mpr haccepts]
      at hrefused
    cases hrefused
  · rintro ⟨q, form, answer, hmem, hsubmits, hrefuses⟩
    rw [h.outcome_of_mem hmem hsubmits]
    exact (outcome_answerTo form answer).resolve_left
      fun hsuccess => hrefuses (outcome_answerTo_eq_success_iff.mp hsuccess)

theorem permissionDenied_iff (h : c.Completes project updates login outcome es) :
    outcome = .permissionDenied ↔ ∀ q ∈ es.map Prod.fst, q.method ≠ .patch := by
  constructor
  · intro hdenied q hmem hpatch
    cases h with
    | skipped =>
      obtain rfl := List.mem_singleton.mp hmem
      cases hpatch
    | submitted => exact outcome_answerTo_ne_permissionDenied hdenied
  · intro hnone
    cases h with
    | skipped => rfl
    | submitted => exact absurd rfl (hnone _ (List.mem_cons_of_mem _ (List.mem_singleton_self _)))

/-- An attempt that is denied asked for one page and no more. -/
theorem exists_get (h : c.Completes project updates login outcome es)
    (hdenied : outcome = .permissionDenied) :
    ∃ q, es.map Prod.fst = [q] ∧ q.method = .get := by
  cases h with
  | skipped => exact ⟨_, rfl, rfl⟩
  | submitted => exact absurd hdenied outcome_answerTo_ne_permissionDenied

/-- Every request of an attempt that comes to an end was answered. -/
theorem not_dropped (h : c.Completes project updates login outcome es) : (q, .dropped) ∉ es := by
  intro hmem
  cases h with
  | skipped => cases (Prod.mk.inj (List.mem_singleton.mp hmem)).2
  | submitted =>
    rcases List.mem_cons.mp hmem with hfirst | hsecond
    · cases (Prod.mk.inj hfirst).2
    · cases (Prod.mk.inj (List.mem_singleton.mp hsecond)).2

/-- A page that was shown arrived completely. -/
theorem body_ne_none (h : c.Completes project updates login outcome es) {page : Address}
    (hmem : (q, .answered answer) ∈ es) (hget : q.method = .get)
    (hpage : Address.parse (editPage c.root project) = .ok page) (hshows : Shows page answer) :
    answer.body ≠ none := by
  cases h with
  | skipped hparses harrives =>
    obtain ⟨-, hanswer⟩ := Prod.mk.inj (List.mem_singleton.mp hmem)
    cases hanswer
    obtain rfl := Except.ok.inj (hpage.symm.trans hparses)
    exact harrives hshows
  | submitted _ harrives _ =>
    rcases List.mem_cons.mp hmem with hfirst | hsecond
    · cases (Prod.mk.inj hfirst).2
      exact harrives
    · obtain ⟨rfl, -⟩ := Prod.mk.inj (List.mem_singleton.mp hsecond)
      cases hget

end Completes

/-- **What an outcome says about what was sent and answered**, for every client and every
network.

An attempt succeeds just when a form was submitted and its answer accepts it, it meets an
unexpected answer just when a form was submitted and its answer does not, and it is denied
just when no form was submitted, and then one page was asked for.  Writing answers "yes"
just when the attempt succeeds.  A connection that closes without an answer, and a page
that is shown but does not arrive completely, are failures and not outcomes. -/
theorem outcome_mutate (c : Client) (project : ProjectId) (updates : Updates) (login : String)
    (w : World) :
    let attempt := c.mutate project updates login
    (∀ outcome, (attempt.run w).1 = .ok outcome →
      (outcome = .success ↔ ∃ q form answer, (q, .answered answer) ∈ attempt.exchanges w ∧
        c.Submits project q form ∧ Accepts form answer) ∧
      (outcome = .unexpectedAnswer ↔ ∃ q form answer,
        (q, .answered answer) ∈ attempt.exchanges w ∧ c.Submits project q form ∧
          ¬Accepts form answer) ∧
      (outcome = .permissionDenied ↔ ∀ q ∈ attempt.requests w, q.method ≠ .patch) ∧
      (outcome = .permissionDenied → ∃ q, attempt.requests w = [q] ∧ q.method = .get)) ∧
    (((c.write project updates login).run w).1 = .ok true ↔
      (attempt.run w).1 = .ok .success) ∧
    ((∃ q, (q, .dropped) ∈ attempt.exchanges w) → ∃ failure, (attempt.run w).1 = .error failure) ∧
    ∀ q page answer, (q, .answered answer) ∈ attempt.exchanges w → q.method = .get →
      Address.parse (editPage c.root project) = .ok page → Shows page answer →
        answer.body = none → ∃ failure, (attempt.run w).1 = .error failure := by
  intro attempt
  have hends {outcome : Outcome} (hrun : (attempt.run w).1 = .ok outcome) :=
    (c.completes hrun).1
  -- what cannot be if the attempt comes to an end is a failure
  have hfails {p : Prop} (hp : p) (hnot : ∀ outcome, c.Completes project updates login outcome
      (attempt.exchanges w) → ¬p) : ∃ failure, (attempt.run w).1 = .error failure := by
    cases hrun : (attempt.run w).1 with
    | error failure => exact ⟨failure, rfl⟩
    | ok outcome => exact absurd hp (hnot outcome (hends hrun))
  refine ⟨fun outcome hrun => ?_, ?_, ?_, ?_⟩
  · have hdone := hends hrun
    rw [(c.completes hrun).2]
    exact ⟨hdone.success_iff, hdone.unexpectedAnswer_iff, hdone.permissionDenied_iff,
      hdone.exists_get⟩
  · rw [write_run]
    cases hrun : (attempt.run w).1 with
    | error failure => simp [Except.map]
    | ok outcome => simp [Except.map, Outcome.isSuccess]
  · rintro ⟨q, hdropped⟩
    exact hfails hdropped fun _ hdone => hdone.not_dropped
  · intro q page answer hmem hget hpage hshows hcut
    exact hfails hcut fun _ hdone => hdone.body_ne_none hmem hget hpage hshows

end Client

end BadgeEntry
