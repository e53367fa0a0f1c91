import BadgeEntry.Proofs.Client.Protocol
import BadgeEntry.Proofs.Client.Runs
import BadgeEntry.Proofs.Listing.Public

/-!
# What a step sends

A step sends requests of a few kinds.  A step that is about a project asks for its edit
page or submits its form, as the client of that step; a download sends the requests for
the listing.  Nothing else is sent, and nothing but a download and the steps that are
about files changes what is on the disk.

## Main definitions

* `World.Leads` — a world that is left behind by sending requests of a kind.
* `Client.Asks` — the requests about a project.
* `Step.client?`, `Step.project?`, `Step.isDownload` — who takes a step, what it is about,
  and the steps that download.
* `Step.Sends` — the requests that a step may send.

## Main results

* `Sitting.step_of_not_download` — what a step other than a download does to the world.
* `Sitting.step_of_download` — a download is determined by the replies.
* `Sitting.sends_of_mem_sent` — **what a step sends.**
-/

namespace BadgeEntry

open Http Site Url Form Submission Visit

/-! ### Visits that leave the disk alone -/

/-- A world is left behind by sending requests of one kind, with the disk as it was. -/
structure World.Leads (kind : Request → Prop) (w after : World) : Prop where
  disk : after.disk = w.disk
  reachable : after.network.reachable = w.network.reachable
  sent : ∃ qs, after.sent = w.sent ++ qs ∧ ∀ q ∈ qs, kind q

namespace World.Leads

variable {kind : Request → Prop} {w after last : World}

theorem refl (kind : Request → Prop) (w : World) : w.Leads kind w :=
  ⟨rfl, rfl, [], (List.append_nil _).symm, List.forall_mem_nil kind⟩

theorem trans (h : w.Leads kind after) (h' : after.Leads kind last) : w.Leads kind last := by
  obtain ⟨qs, hqs, hkind⟩ := h.sent
  obtain ⟨qs', hqs', hkind'⟩ := h'.sent
  refine ⟨h'.disk.trans h.disk, h'.reachable.trans h.reachable, qs ++ qs', ?_, ?_⟩
  · rw [hqs', hqs, List.append_assoc]
  · intro q hq
    rcases List.mem_append.mp hq with hfirst | hrest
    · exact hkind q hfirst
    · exact hkind' q hrest

theorem mono {kind' : Request → Prop} (h : w.Leads kind after)
    (hkind : ∀ q, kind q → kind' q) : w.Leads kind' after := by
  obtain ⟨qs, hqs, hall⟩ := h.sent
  exact ⟨h.disk, h.reachable, qs, hqs, fun q hq => hkind q (hall q hq)⟩

theorem reporting (h : w.Leads kind after) (es : List Event) :
    w.Leads kind (after.reporting es) :=
  ⟨h.disk, h.reachable, h.sent⟩

theorem of_reporting {es : List Event} (h : (w.reporting es).Leads kind after) :
    w.Leads kind after :=
  ⟨h.disk, h.reachable, h.sent⟩

theorem exchanging {q : Request} (h : kind q) : w.Leads kind (w.exchanging q) :=
  ⟨rfl, w.network.next_reachable, [q], rfl, List.forall_mem_singleton.mpr h⟩

theorem of_sending {method : Method} {address : Address} {fields : Fields} {body : String}
    {result : Except Failure Response}
    (h : Sending w method address fields body (result, after))
    (hkind : kind ⟨method, address.requested.text, fields, body⟩)
    (htunnel : kind ⟨.connect, address.hostAndPort, [], ""⟩) : w.Leads kind after := by
  cases h with
  | unsent => exact refl kind w
  | noTunnel => exact ⟨rfl, rfl, _, rfl, List.forall_mem_singleton.mpr htunnel⟩
  | dropped => exact exchanging hkind
  | answered => exact exchanging hkind

end World.Leads

/-! ### Requests about a project -/

namespace Client

/-- The requests of a client about a project: for its edit page, for the submission of its
form, or for a tunnel to an address. -/
inductive Asks [NameMapping] (c : Client) (project : ProjectId) : Request → Prop
  /-- The edit page is asked for. -/
  | page {login : String} {page : Address}
    (parses : Address.parse (editPage c.root project) = .ok page) :
    Asks c project (c.pageRequest login page)
  /-- The form is submitted. -/
  | form {updates : Updates} {tokens : PageTokens} {form : Address}
    (parses : Address.parse (projectPage c.root project) = .ok form) :
    Asks c project (c.formRequest updates tokens form)
  /-- A tunnel is asked for. -/
  | tunnel (address : Address) : Asks c project ⟨.connect, address.hostAndPort, [], ""⟩

variable [NameMapping] {c : Client} {project : ProjectId} {login : String} {updates : Updates}
  {tokens : PageTokens} {w : World}

theorem Reading.leads {out : Except Failure PageTokens × World}
    (h : c.Reading project login w out) : w.Leads (c.Asks project) out.2 := by
  cases h with
  | noLogin => exact .refl _ w
  | noAddress => exact .refl _ w
  | badField => exact .refl _ w
  | unanswered ready fails =>
    exact (World.Leads.of_sending fails (.page ready.parses) (.tunnel _)).of_reporting
  | denied ready =>
    exact (World.Leads.exchanging (.page ready.parses)).of_reporting.reporting _
  | cutShort ready =>
    exact (World.Leads.exchanging (.page ready.parses)).of_reporting.reporting _
  | read ready =>
    exact (World.Leads.exchanging (.page ready.parses)).of_reporting.reporting _

theorem Submitting.leads {out : Except Failure Outcome × World}
    (h : c.Submitting project updates tokens w out) : w.Leads (c.Asks project) out.2 := by
  cases h with
  | wrongProject => exact .refl _ w
  | noAddress => exact .refl _ w
  | badField => exact .refl _ w
  | unanswered ready fails =>
    exact (World.Leads.of_sending fails (.form ready.parses) (.tunnel _)).of_reporting
  | answered ready =>
    exact (World.Leads.exchanging (.form ready.parses)).of_reporting.reporting _

theorem Mutating.leads {out : Except Failure Outcome × World}
    (h : c.Mutating project login updates w out) : w.Leads (c.Asks project) out.2 := by
  cases h with
  | unread hread => exact hread.leads
  | skipped hread => exact hread.leads
  | submitted hread _ hsubmit => exact hread.leads.trans hsubmit.leads

theorem leads_mutate (c : Client) (project : ProjectId) (updates : Updates) (login : String)
    (w : World) : w.Leads (c.Asks project) ((c.mutate project updates login).run w).2 :=
  (c.mutating project login updates w).leads

theorem leads_write (c : Client) (project : ProjectId) (updates : Updates) (login : String)
    (w : World) : w.Leads (c.Asks project) ((c.write project updates login).run w).2 := by
  rw [write_run]
  exact c.leads_mutate project updates login w

end Client

/-- A request for the listing has no field but the one for what is understood. -/
theorem IsPublic.field?_eq_none {q : Request} (h : IsPublic q) {f : Field} (hf : f ≠ .accept) :
    q.field? f = none := by
  cases h with
  | page address =>
    unfold Request.field?
    rw [List.lookup_cons, beq_eq_false_iff_ne.mpr hf]
    rfl
  | tunnel address => rfl

/-! ### Steps -/

namespace Step

/-- Who takes a step: the client of the sitting, but for a step that makes its own. -/
def client? [NameMapping] (c : Client) : Step → Option Client
  | .writeAnew root .. => (Client.create? { root }).toOption
  | _ => some c

/-- The project that a step is about. -/
def project? : Step → Option ProjectId
  | .readTokens project _ => some project
  | .submit project _ => some project
  | .mutate project .. => some project
  | .write project .. => some project
  | .writeAnew _ project .. => some project
  | _ => none

/-- Whether a step downloads the listing. -/
def isDownload : Step → Bool
  | .fetch _ => true
  | .load .. => true
  | _ => false

/-- A step that is about a project is no download. -/
theorem isDownload_of_project? {step : Step} {project : ProjectId}
    (h : step.project? = some project) : step.isDownload = false := by
  cases step with
  | fetch maxPages => cases h
  | load path maxPages => cases h
  | _ => rfl

/-- What a step other than a download does to the disk. -/
def onDisk (step : Step) (disk : Disk) : Disk :=
  match step with
  | .putFile path bytes => (disk.write path bytes).toOption.getD disk
  | .removeFile path => (disk.remove path).getD disk
  | _ => disk

/-- The requests that a step may send. -/
inductive Sends [NameMapping] (c : Client) (step : Step) : Request → Prop
  /-- A request of the one who takes the step, about the project of the step. -/
  | asks {user : Client} {project : ProjectId} {q : Request} (by_ : step.client? c = some user)
    (about : step.project? = some project) (asks : user.Asks project q) : Sends c step q
  /-- A request for the listing. -/
  | listing {q : Request} (download : step.isDownload = true) (isPublic : IsPublic q) :
    Sends c step q

end Step

namespace Sitting

variable {s : Sitting} {step : Step}

/-- The sitting in which a step begins, with nothing sent or reported yet. -/
def fresh (s : Sitting) : Sitting :=
  { s with world := { s.world with sent := [], events := [] } }

theorem record_sent [NameMapping] (m : Moment) :
    m.record.sent = (m.sitting.fresh.step m.step).2.world.sent :=
  rfl

theorem record_next [NameMapping] (m : Moment) : m.next = (m.sitting.fresh.step m.step).2 := rfl

/-- The world that a visit leaves behind is that of the sitting. -/
theorem visit_world {α : Type} (s : Sitting) (f : α → StepResult) (v : Visit α) :
    (s.visit f v).2.world = (v.run s.world).2 := rfl

theorem leads_visitWith {α : Type} {kind : Request → Prop} {source : UpdateSource}
    {f : α → StepResult} {v : Updates → Visit α}
    (h : ∀ updates (w : World), w.Leads kind ((v updates).run w).2) :
    s.world.Leads kind (s.visitWith source f v).2.world := by
  unfold visitWith
  rw [visit_world, bind_run]
  cases source.decode with
  | error failure => exact .refl kind _
  | ok updates => exact h updates s.world

variable [NameMapping]

/-- A client that is made for one step sends requests about the project, if it can be made. -/
theorem leads_writeToProject (s : Sitting) (root : String) (project : ProjectId)
    (updates : Updates) (login : String) (source : UpdateSource) (w : World) :
    w.Leads ((Step.writeAnew root project login source).Sends s.client)
      ((writeToProject root project updates login).run w).2 := by
  unfold writeToProject
  rw [bind_run]
  cases hmade : Client.create? { root } with
  | error failure => exact .refl _ w
  | ok user =>
    have huser : (Step.writeAnew root project login source).client? s.client = some user := by
      rw [Step.client?, hmade]
      rfl
    exact (user.leads_write project updates login w).mono fun q hq => .asks huser rfl hq

/-- **What a step other than a download does**: it sends requests about its project, and
it changes what is on the disk only if it is about a file. -/
theorem step_of_not_download (s : Sitting) {step : Step} (h : step.isDownload = false) :
    World.Leads (step.Sends s.client) { s.world with disk := step.onDisk s.world.disk }
      (s.step step).2.world := by
  have hasks {project : ProjectId} {after : World} (huser : step.client? s.client = some s.client)
      (hproject : step.project? = some project)
      (hleads : s.world.Leads (s.client.Asks project) after) :
      s.world.Leads (step.Sends s.client) after :=
    hleads.mono fun q hq => .asks huser hproject hq
  -- only the two steps about files come to another disk than that of the sitting
  cases step with
  | readTokens project login =>
    exact hasks rfl rfl (s.client.reading project login _).leads
  | hold tokens => exact .refl _ _
  | submit project source =>
    refine hasks rfl rfl ?_
    rw [Sitting.step]
    cases source.decode with
    | error failure => exact .refl _ _
    | ok updates =>
      cases s.held with
      | none => exact .refl _ _
      | some tokens => exact (s.client.submission project updates tokens _).leads
  | mutate project login source =>
    exact hasks rfl rfl (leads_visitWith fun updates w => s.client.leads_mutate _ _ _ w)
  | write project login source =>
    exact hasks rfl rfl (leads_visitWith fun updates w => s.client.leads_write _ _ _ w)
  | writeAnew root project login source =>
    exact leads_visitWith fun updates w =>
      s.leads_writeToProject root project updates login source w
  | fetch maxPages => cases h
  | load path maxPages => cases h
  | putFile path bytes => exact .refl _ _
  | removeFile path =>
    rw [Sitting.step, Step.onDisk]
    cases s.world.disk.remove path with
    | none => exact .refl _ _
    | some disk => exact .refl _ _

/-- A download is a visit that sends public requests, and is determined by the replies. -/
theorem step_of_download (s : Sitting) {step : Step} (h : step.isDownload = true) :
    ∃ (v : Visit (List Json.Value)), v.Determined IsPublic ∧
      ∀ t : Sitting, t.client = s.client → (t.step step).2.world = (v.run t.world).2 := by
  cases step with
  | fetch maxPages =>
    refine ⟨_, s.client.determined_fetchProjects maxPages, fun t hclient => ?_⟩
    rw [Sitting.step, visit_world, hclient]
  | load path maxPages =>
    refine ⟨_, s.client.determined_loadProjects maxPages path, fun t hclient => ?_⟩
    rw [← hclient]
    rfl
  | _ => cases h

/-- **What a step sends.** -/
theorem exists_sent (s : Sitting) (step : Step) :
    (s.step step).2.world.network.reachable = s.world.network.reachable ∧
      ∃ qs, (s.step step).2.world.sent = s.world.sent ++ qs ∧
        ∀ q ∈ qs, step.Sends s.client q := by
  by_cases h : step.isDownload = true
  · obtain ⟨v, hv, hworld⟩ := s.step_of_download h
    obtain ⟨u, hpublic, hrun⟩ := hv.exists_run s.world
    rw [hworld s rfl, hrun]
    exact ⟨s.world.network.drop_reachable _, u.sent, rfl, fun q hq => .listing h (hpublic q hq)⟩
  · have hleads := s.step_of_not_download (Bool.eq_false_iff.mpr h)
    exact ⟨hleads.reachable, hleads.sent⟩

/-- **What is sent at a moment** of a run. -/
theorem sends_of_mem_sent {m : Moment} {q : Request} (h : q ∈ m.record.sent) :
    m.step.Sends m.sitting.client q := by
  obtain ⟨-, qs, hqs, hkind⟩ := m.sitting.fresh.exists_sent m.step
  rw [record_sent, hqs] at h
  exact hkind q h

end Sitting

end BadgeEntry
