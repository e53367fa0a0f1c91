import BadgeEntry.Proofs.Client.Outcome
import BadgeEntry.Proofs.Client.Sent

/-!
# One form for each set of tokens

A sitting holds at most one set of tokens.  Steps acquire tokens, by reading an edit page
or by being given some, and submitting a form uses them up, whatever comes of it.  So the
tokens that go with a form are those that were acquired last; they belong to the project
of the form; and they go with no other form.

## Main definitions

* `Step.handlesTokens` — the steps that have to do with the tokens that are held.
* `Moment.Acquires` — some tokens are acquired at a moment.
* `LastAcquired` — the tokens that were acquired last.
* `Client.SubmitsWith` — a request that submits a form with some tokens.
* `Moment.Submission` — how a form is submitted in a run.

## Main results

* `Moment.submission` — every form is submitted in one of these ways.
* `Sitting.lastAcquired_of_held` — the tokens that are held were acquired last.
* `Sitting.tokens_used_once` — **in every run, a form goes with the tokens that were
  acquired last, for its project, and no two forms go with the same tokens.**
-/

namespace BadgeEntry

open Http Site Url Form Submission Visit

/-! ### Submitting a form -/

namespace Moment

/-- How a form is submitted in a run. -/
inductive Submission [NameMapping] (m : Moment) (project : ProjectId) (source : UpdateSource) : Prop
  /-- The fields cannot be read. -/
  | unread {failure : Failure} (unreadable : source.decode = .error failure)
    (result : m.record.result = .failed failure) (sent : m.record.sent = [])
    (next : m.next = m.sitting.fresh)
  /-- No tokens are held. -/
  | empty {updates : Updates} (read : source.decode = .ok updates)
    (held : m.sitting.held = none) (result : m.record.result = .noTokens)
    (sent : m.record.sent = []) (next : m.next = m.sitting.fresh)
  /-- The tokens that are held are used, and then none are. -/
  | used {updates : Updates} {tokens : PageTokens} {result : Except Failure Outcome}
    {after : World} (read : source.decode = .ok updates) (held : m.sitting.held = some tokens)
    (submitting : m.sitting.client.Submitting project updates tokens m.sitting.fresh.world
      (result, after))
    (record : m.record = ⟨Sitting.answerOf .outcome result, after.sent, after.events⟩)
    (next : m.next = ⟨m.sitting.client, none, after⟩)

variable [NameMapping] {m : Moment} {project : ProjectId} {source : UpdateSource}

/-- **Every form is submitted in one of these ways.** -/
theorem submission (h : m.step = .submit project source) : m.Submission project source := by
  obtain ⟨s, step⟩ := m
  obtain rfl : step = .submit project source := h
  have hrecord : Moment.record ⟨s, .submit project source⟩ =
      ⟨(s.fresh.step (.submit project source)).1,
        (s.fresh.step (.submit project source)).2.world.sent,
        (s.fresh.step (.submit project source)).2.world.events⟩ := rfl
  have hnext : Moment.next ⟨s, .submit project source⟩ =
      (s.fresh.step (.submit project source)).2 := rfl
  generalize hout : s.fresh.step (.submit project source) = out at hrecord hnext
  rw [Sitting.step] at hout
  cases hdecode : source.decode with
  | error failure =>
    rw [hdecode] at hout
    obtain rfl := hout
    exact .unread hdecode (by rw [hrecord]) (by rw [hrecord]; rfl) hnext
  | ok updates =>
    cases hheld : s.held with
    | none =>
      have hfresh : s.fresh.held = none := hheld
      rw [hdecode, hfresh] at hout
      obtain rfl := hout
      exact .empty hdecode hheld (by rw [hrecord]) (by rw [hrecord]; rfl) hnext
    | some tokens =>
      have hfresh : s.fresh.held = some tokens := hheld
      rw [hdecode, hfresh] at hout
      obtain rfl := hout
      exact .used hdecode hheld (s.client.submission project updates tokens s.fresh.world)
        hrecord hnext

end Moment

/-! ### Acquiring tokens -/

/-- Whether a step has to do with the tokens that are held: it is to acquire some, or it
uses those that there are. -/
def Step.handlesTokens : Step → Bool
  | .readTokens .. => true
  | .hold _ => true
  | .submit _ source => source.decode.isOk
  | _ => false

/-- Some tokens are acquired for their project: its edit page is read and yields them, or
they are given. -/
inductive Moment.Acquires [NameMapping] (m : Moment) (tokens : PageTokens) : Prop
  /-- The edit page yields them. -/
  | read {login : String} (asks : m.step = .readTokens tokens.project login)
    (yields : m.record.result = .tokens tokens)
  /-- They are given. -/
  | given (holds : m.step = .hold tokens)

/-- Some tokens were acquired at one of some moments, and after it no step had to do with
any. -/
def LastAcquired [NameMapping] (moments : List Moment) (tokens : PageTokens) : Prop :=
  ∃ earlier acquisition later, moments = earlier ++ acquisition :: later ∧
    acquisition.Acquires tokens ∧ ∀ m ∈ later, m.step.handlesTokens = false

theorem LastAcquired.cons [NameMapping] {moments : List Moment} {tokens : PageTokens}
    (h : LastAcquired moments tokens) (m : Moment) : LastAcquired (m :: moments) tokens := by
  obtain ⟨earlier, acquisition, later, rfl, hacquires, hlater⟩ := h
  exact ⟨m :: earlier, acquisition, later, rfl, hacquires, hlater⟩

theorem LastAcquired.ne_nil [NameMapping] {moments : List Moment} {tokens : PageTokens}
    (h : LastAcquired moments tokens) : moments ≠ [] := by
  obtain ⟨earlier, acquisition, later, rfl, -⟩ := h
  exact List.append_ne_nil_of_right_ne_nil _ (List.cons_ne_nil _ _)

namespace Moment

variable [NameMapping] {m : Moment} {tokens : PageTokens}

/-- The tokens that a step leaves behind are acquired by it, or it has nothing to do with
them. -/
theorem acquires_or_of_held (h : m.next.held = some tokens) :
    m.Acquires tokens ∨ m.step.handlesTokens = false ∧ m.sitting.held = some tokens := by
  obtain ⟨s, step⟩ := m
  cases step with
  | readTokens project login =>
    have hread := s.client.reading project login s.fresh.world
    have hresult : (Moment.record ⟨s, .readTokens project login⟩).result =
        Sitting.answerOf .tokens ((s.client.readTokens project login).run s.fresh.world).1 := rfl
    change ((s.client.readTokens project login).run s.fresh.world).1.toOption = some tokens at h
    generalize (s.client.readTokens project login).run s.fresh.world = out at h hread hresult
    obtain ⟨result, after⟩ := out
    cases result with
    | error failure => cases h
    | ok found =>
      obtain rfl := Option.some.inj h
      obtain ⟨page, answer, hyields⟩ := hread.hasRead
      exact Or.inl (.read (by rw [hyields.project_eq]) hresult)
  | hold given =>
    obtain rfl := Option.some.inj h
    exact Or.inl (.given rfl)
  | submit project source =>
    -- tokens are left only if the fields cannot be read, which is found out first
    cases submission (m := ⟨s, .submit project source⟩) rfl with
    | unread unreadable _ _ next =>
      have hstep : (Step.submit project source).handlesTokens = false := by
        rw [Step.handlesTokens, unreadable]
        rfl
      rw [next] at h
      exact Or.inr ⟨hstep, h⟩
    | empty _ held _ _ next =>
      rw [next] at h
      cases held.symm.trans h
    | used _ _ _ _ next =>
      rw [next] at h
      cases h
  | removeFile path =>
    simp only [Sitting.record_next, Sitting.step] at h
    split at h
    · exact Or.inr ⟨rfl, h⟩
    · exact Or.inr ⟨rfl, h⟩
  | _ => exact Or.inr ⟨rfl, h⟩

end Moment

/-- **The tokens that are held after some steps** are those that were acquired last, unless
they were held before and no step had to do with them. -/
theorem Sitting.lastAcquired_of_held [NameMapping] {s : Sitting} {steps : List Step}
    {tokens : PageTokens} (h : (s.after steps).held = some tokens) :
    LastAcquired (s.moments steps) tokens ∨
      s.held = some tokens ∧ ∀ m ∈ s.moments steps, m.step.handlesTokens = false := by
  induction steps generalizing s with
  | nil => exact Or.inr ⟨h, List.forall_mem_nil _⟩
  | cons step rest ih =>
    rw [moments_cons]
    rcases ih h with hlast | ⟨hheld, hrest⟩
    · exact Or.inl (hlast.cons _)
    · rcases Moment.acquires_or_of_held (m := ⟨s, step⟩) hheld with hacquires | ⟨hstep, hbefore⟩
      · exact Or.inl ⟨[], _, _, rfl, hacquires, hrest⟩
      · exact Or.inr ⟨hbefore, List.forall_mem_cons.mpr ⟨hstep, hrest⟩⟩

/-! ### Using tokens -/

namespace Client

/-- A request that submits the form of a project with some tokens, which belong to that
project: their login is its cookie, their token of the metadata a field, or left out if
there is none, and their token of the form is in its body. -/
structure SubmitsWith [NameMapping] (c : Client) (project : ProjectId) (updates : Updates)
    (tokens : PageTokens) (q : Request) : Prop where
  scope : tokens.project = project
  submits : ∃ form, c.Submits project q form
  cookie : q.field? .cookie = some (c.settings.cookieName ++ "=" ++ tokens.login)
  csrf : q.field? .csrfToken = tokens.csrf
  body : q.body = updates.encode tokens.authenticity

variable [NameMapping] {c : Client} {project : ProjectId} {updates : Updates} {tokens : PageTokens}
  {form : Address} {w : World}

theorem submitsWith_formRequest (h : c.CanSubmit project tokens form) :
    c.SubmitsWith project updates tokens (c.formRequest updates tokens form) where
  scope := h.same
  submits := ⟨form, rfl, h.parses, rfl⟩
  cookie := rfl
  csrf := by
    unfold formRequest Request.field? Settings.writeFields
    cases tokens.csrf <;> rfl
  body := rfl

/-- A form that is sent is all that is sent, and it goes with the tokens. -/
theorem Submitting.submitsWith {out : Except Failure Outcome × World} {q : Request}
    (h : c.Submitting project updates tokens w out) (hnothing : w.sent = [])
    (hq : q ∈ out.2.sent) (hpatch : q.method = .patch) :
    out.2.sent = [q] ∧ c.SubmitsWith project updates tokens q := by
  have hnone {p : Prop} (hsent : q ∈ w.sent) : p := by
    rw [hnothing] at hsent
    cases hsent
  have hform {form : Address} {sent : List Request} (ready : c.CanSubmit project tokens form)
      (hsent : sent = w.sent ++ [c.formRequest updates tokens form]) (hq : q ∈ sent) :
      sent = [q] ∧ c.SubmitsWith project updates tokens q := by
    rw [hnothing, List.nil_append] at hsent
    rw [hsent, List.mem_singleton] at hq
    rw [hsent, hq]
    exact ⟨rfl, submitsWith_formRequest ready⟩
  cases h with
  | wrongProject => exact hnone hq
  | noAddress => exact hnone hq
  | badField => exact hnone hq
  | unanswered ready fails =>
    cases fails with
    | unsent => exact hnone hq
    | noTunnel =>
      -- a tunnel is not asked for with a form
      rw [World.tunnelling_sent] at hq
      rcases List.mem_append.mp hq with hold | hnew
      · exact hnone hold
      · rw [List.mem_singleton.mp hnew] at hpatch
        cases hpatch
    | dropped => exact hform ready rfl hq
  | answered ready => exact hform ready rfl hq

end Client

/-! ### Forms in a run -/

namespace Moment

variable [NameMapping] {m : Moment} {project : ProjectId} {source : UpdateSource}

/-- A form that is submitted leaves no tokens behind, if its fields can be read. -/
theorem Submission.held_next {updates : Updates} (h : m.Submission project source)
    (hread : source.decode = .ok updates) : m.next.held = none := by
  cases h with
  | unread unreadable => cases hread.symm.trans unreadable
  | empty _ held _ _ next => rw [next]; exact held
  | used _ _ _ _ next => rw [next]

/-- Something is sent only with the tokens that are held, and a form is all that is sent
then. -/
theorem Submission.submitsWith (h : m.Submission project source) (hsent : m.record.sent ≠ []) :
    ∃ updates tokens, source.decode = .ok updates ∧ m.sitting.held = some tokens ∧
      ∀ q ∈ m.record.sent, q.method = .patch →
        m.record.sent = [q] ∧ m.sitting.client.SubmitsWith project updates tokens q := by
  cases h with
  | unread _ _ sent => exact absurd sent hsent
  | empty _ _ _ sent => exact absurd sent hsent
  | used read held submitting record =>
    rw [record]
    exact ⟨_, _, read, held, fun q hq hpatch => submitting.submitsWith rfl hq hpatch⟩

/-- Tokens of another project are refused before anything is sent. -/
theorem Submission.refused {updates : Updates} {tokens : PageTokens}
    (h : m.Submission project source) (hread : source.decode = .ok updates)
    (hheld : m.sitting.held = some tokens) (hother : tokens.project ≠ project) :
    m.record.result = .failed (.wrongProject project tokens.project) ∧ m.record.sent = [] ∧
      m.next.world.network = m.sitting.world.network := by
  cases h with
  | unread unreadable => cases hread.symm.trans unreadable
  | empty _ none => cases hheld.symm.trans none
  | used _ held submitting record next =>
    obtain rfl := Option.some.inj (hheld.symm.trans held)
    rw [record, next]
    cases submitting with
    | wrongProject => exact ⟨rfl, rfl, rfl⟩
    | noAddress same => exact absurd same hother
    | badField same => exact absurd same hother
    | unanswered ready => exact absurd ready.same hother
    | answered ready => exact absurd ready.same hother

/-- Tokens of the project are sent with the form, if it can be sent. -/
theorem Submission.sent_eq {updates : Updates} {tokens : PageTokens} {form : Address}
    (h : m.Submission project source) (hread : source.decode = .ok updates)
    (hheld : m.sitting.held = some tokens)
    (ready : m.sitting.client.CanSubmit project tokens form) (hhttp : form.scheme = "http")
    (hreach : m.sitting.world.network.reachable = true) :
    m.record.sent = [m.sitting.client.formRequest updates tokens form] := by
  cases h with
  | unread unreadable => cases hread.symm.trans unreadable
  | empty _ none => cases hheld.symm.trans none
  | used read held submitting record =>
    obtain rfl := Option.some.inj (hheld.symm.trans held)
    obtain rfl := Except.ok.inj (hread.symm.trans read)
    rw [record]
    exact submitting.sent ready hhttp hreach

end Moment

namespace Sitting

section

variable [NameMapping] {s : Sitting} {steps : List Step} {before later : List Moment} {m : Moment}
  {project : ProjectId} {source : UpdateSource}

/-- A form goes with the tokens that were acquired last, if none were held at first. -/
theorem submitsWith_lastAcquired (hheld : s.held = none)
    (hrun : s.moments steps = before ++ m :: later) (hstep : m.step = .submit project source)
    (hsent : m.record.sent ≠ []) :
    ∃ updates tokens, source.decode = .ok updates ∧ LastAcquired before tokens ∧
      ∀ q ∈ m.record.sent, q.method = .patch →
        m.record.sent = [q] ∧ s.client.SubmitsWith project updates tokens q := by
  obtain ⟨earlier, rest, -, rfl, hsitting, -⟩ := moments_eq_append_iff.mp hrun
  obtain ⟨updates, tokens, hread, hnow, hforms⟩ := (m.submission hstep).submitsWith hsent
  have hclient : m.sitting.client = s.client :=
    client_of_mem_moments (hrun ▸ List.mem_append_cons_self)
  rw [hclient] at hforms
  refine ⟨updates, tokens, hread, ?_, hforms⟩
  rcases lastAcquired_of_held (hsitting ▸ hnow) with hlast | ⟨hfirst, -⟩
  · exact hlast
  · cases hheld.symm.trans hfirst

/-- What follows a moment of a run is a run of its own. -/
theorem moments_next (hrun : s.moments steps = before ++ m :: later) :
    m.next.client = s.client ∧ ∃ rest, later = m.next.moments rest := by
  obtain ⟨earlier, rest, -, -, -, hlater⟩ := moments_eq_append_iff.mp hrun
  refine ⟨?_, rest, hlater⟩
  rw [Moment.next, recordStep_client]
  exact client_of_mem_moments (hrun ▸ List.mem_append_cons_self)

/-- **Each set of tokens goes with one form at most, and that is a form of its project**, in
every run of every client that holds no tokens at first.

A form that is sent is all that is sent by its step.  It goes with the tokens that were
acquired last, and they belong to its project.  If another form was submitted before it,
whatever came of that, they were acquired since: afterwards no tokens are held.  Tokens of
another project are refused before anything is sent, and a step that submits a form right
after it sends nothing either.  Tokens of the project are sent if the form can be sent. -/
theorem tokens_used_once (c : Client) (w : World) (steps : List Step) :
    let run := moments ⟨c, none, w⟩ steps
    (∀ before m later project source, run = before ++ m :: later →
      m.step = .submit project source → m.record.sent ≠ [] →
        ∃ updates tokens, source.decode = .ok updates ∧ LastAcquired before tokens ∧
          ∀ q ∈ m.record.sent, q.method = .patch →
            m.record.sent = [q] ∧ c.SubmitsWith project updates tokens q) ∧
    (∀ before first between m later target given fields project source,
      run = before ++ first :: (between ++ m :: later) →
      first.step = .submit target given → given.decode = .ok fields →
      m.step = .submit project source → m.record.sent ≠ [] →
        ∃ updates tokens, source.decode = .ok updates ∧ LastAcquired between tokens ∧
          ∀ q ∈ m.record.sent, q.method = .patch → c.SubmitsWith project updates tokens q) ∧
    (∀ m ∈ run, ∀ project source updates, m.step = .submit project source →
      source.decode = .ok updates → m.next.held = none) ∧
    (∀ before m later project source updates tokens, run = before ++ m :: later →
      m.step = .submit project source → source.decode = .ok updates →
      m.sitting.held = some tokens → tokens.project ≠ project →
        m.record.result = .failed (.wrongProject project tokens.project) ∧
        m.record.sent = [] ∧ m.next.world.network = m.sitting.world.network ∧
        ∀ next rest target given, later = next :: rest → next.step = .submit target given →
          next.record.sent = []) ∧
    (∀ m ∈ run, ∀ project source updates tokens form, m.step = .submit project source →
      source.decode = .ok updates → m.sitting.held = some tokens →
      c.CanSubmit project tokens form → form.scheme = "http" →
      m.sitting.world.network.reachable = true →
        m.record.sent = [c.formRequest updates tokens form]) := by
  intro run
  refine ⟨fun before m later project source hrun hstep hsent => ?_, ?_,
    fun m _ project source updates hstep hread => (m.submission hstep).held_next hread, ?_, ?_⟩
  · exact submitsWith_lastAcquired rfl hrun hstep hsent
  · intro before first between m later target given fields project source hrun hfirst hread
      hstep hsent
    -- the run goes on from a sitting in which the first form has used up all tokens
    obtain ⟨hclient, rest, hrest⟩ := moments_next hrun
    have hnone : first.next.held = none := (first.submission hfirst).held_next hread
    obtain ⟨updates, tokens, hupdates, hlast, hforms⟩ :=
      submitsWith_lastAcquired hnone hrest.symm hstep hsent
    rw [hclient] at hforms
    exact ⟨updates, tokens, hupdates, hlast, fun q hq hpatch => (hforms q hq hpatch).2⟩
  · intro before m later project source updates tokens hrun hstep hread hheld hother
    obtain ⟨hresult, hsent, hnetwork⟩ := (m.submission hstep).refused hread hheld hother
    refine ⟨hresult, hsent, hnetwork, fun next rest target given hlater hgoesOn => ?_⟩
    have hnone : m.next.held = none := (m.submission hstep).held_next hread
    obtain ⟨-, steps', hsteps⟩ := moments_next hrun
    have hrest : m.next.moments steps' = [] ++ next :: rest := hsteps.symm.trans hlater
    -- nothing can be acquired between the two
    by_contra hne
    obtain ⟨_, _, -, hlast, -⟩ := submitsWith_lastAcquired hnone hrest hgoesOn hne
    exact hlast.ne_nil rfl
  · intro m hm project source updates tokens form hstep hread hheld hready hhttp hreach
    have hclient : m.sitting.client = c := client_of_mem_moments hm
    rw [← hclient] at hready ⊢
    exact (m.submission hstep).sent_eq hread hheld hready hhttp hreach

end

/-- On this machine, tokens go with the first of two forms. -/
theorem tokens_used_once_onThisMachine :
    let s : Sitting := ⟨.onThisMachine, none, .replying []⟩
    let tokens : PageTokens := ⟨1, some "a", some "c", "s"⟩
    ∃ q, Client.onThisMachine.SubmitsWith 1 (.ofPairs []) tokens q ∧
      (s.run [.hold tokens, .submit 1 (.pairs []), .submit 1 (.pairs [])]).map Record.sent =
        [[], [q], []] := by
  intro s tokens
  let steps : List Step := [.hold tokens, .submit 1 (.pairs []), .submit 1 (.pairs [])]
  let first : Moment := ⟨s.after [.hold tokens], .submit 1 (.pairs [])⟩
  let second : Moment := ⟨first.next, .submit 1 (.pairs [])⟩
  have hrun : s.moments steps = [⟨s, .hold tokens⟩, first, second] := rfl
  obtain ⟨-, honce, -, -, hsent⟩ := tokens_used_once .onThisMachine s.world steps
  obtain ⟨-, form, -, hparses, -, hhttp, -⟩ := Client.isPlain_onThisMachine.exists_pages 1
  have hsendable : firstInvalid? (Client.onThisMachine.settings.writeFields "s" (some "c")) =
      none := by decide +kernel
  have hready : Client.onThisMachine.CanSubmit 1 tokens form := ⟨rfl, hparses, hsendable⟩
  have hfirst : first.record.sent = [Client.onThisMachine.formRequest (.ofPairs []) tokens form] :=
    hsent first (by rw [hrun]; exact .tail _ (.head _)) 1 _ _ tokens form rfl rfl rfl hready hhttp
      rfl
  have hsecond : second.record.sent = [] := by
    by_contra hne
    obtain ⟨_, _, -, hlast, -⟩ :=
      honce [⟨s, .hold tokens⟩] first [] second [] 1 _ _ 1 _ hrun rfl rfl rfl hne
    exact hlast.ne_nil rfl
  refine ⟨_, Client.submitsWith_formRequest hready, ?_⟩
  rw [run_eq, hrun, ← hfirst]
  change [[], first.record.sent, second.record.sent] = _
  rw [hsecond]

end Sitting

end BadgeEntry
