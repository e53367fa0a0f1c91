import BadgeEntry.Listing.Download

/-!
# Sequences of operations

A client is used step by step.  Between the steps at most one set of tokens is
held: reading a page puts its tokens there, and submitting a form takes them away,
whatever comes of it.

## Main definitions

* `Step` — the operations.
* `StepResult` — what a step answers.
* `Sitting` — a client, what it holds and its world.
* `Sitting.step`, `Sitting.run` — one step, and all of them.
-/

namespace BadgeEntry

open Form Http Submission

variable [Url.NameMapping]

/-- Where field updates come from. -/
inductive UpdateSource where
  /-- Pairs, the last value of a name counting. -/
  | pairs (fields : List (String × String))
  /-- JSON text. -/
  | json (text : String)
  deriving DecidableEq, Repr

/-- The field updates of a source. -/
def UpdateSource.decode : UpdateSource → Except Failure Updates
  | .pairs fields => .ok (Updates.ofPairs fields)
  | .json text => (Updates.decode text).mapError .ofDecodeFault

/-- The operations. -/
inductive Step where
  /-- Reads an edit page and holds its tokens. -/
  | readTokens (project : ProjectId) (login : String)
  /-- Holds the given tokens. -/
  | hold (tokens : PageTokens)
  /-- Submits a form with the tokens that are held. -/
  | submit (project : ProjectId) (updates : UpdateSource)
  /-- Reads an edit page and submits its form; answers the outcome. -/
  | mutate (project : ProjectId) (login : String) (updates : UpdateSource)
  /-- Reads an edit page and submits its form; answers whether it was accepted. -/
  | write (project : ProjectId) (login : String) (updates : UpdateSource)
  /-- The same, with a client made for this one step from a typed root. -/
  | writeAnew (root : String) (project : ProjectId) (login : String) (updates : UpdateSource)
  /-- Downloads the listing. -/
  | fetch (maxPages : Option UInt32)
  /-- Downloads the listing, or reads it from a file. -/
  | load (path : String) (maxPages : Option UInt32)
  /-- Puts bytes into a file. -/
  | putFile (path : String) (bytes : List UInt8)
  /-- Removes a file. -/
  | removeFile (path : String)
  deriving DecidableEq, Repr

/-- What a step answers. -/
inductive StepResult where
  /-- Tokens. -/
  | tokens (tokens : PageTokens)
  /-- The tokens that are held now, and whether the same ones were held before. -/
  | held (tokens : PageTokens) (same : Bool)
  /-- An outcome. -/
  | outcome (outcome : Outcome)
  /-- Whether a form was accepted. -/
  | accepted (yes : Bool)
  /-- Projects. -/
  | projects (projects : List Json.Value)
  /-- Projects or a failure, and the bytes of the file afterwards. -/
  | loaded (projects : Except Failure (List Json.Value)) (file : Option (List UInt8))
  /-- Nothing. -/
  | done
  /-- Whether a file was removed. -/
  | removed (yes : Bool)
  /-- No tokens were held. -/
  | noTokens
  /-- A failure. -/
  | failed (failure : Failure)

/-- A client, what it holds and its world. -/
structure Sitting where
  /-- The client. -/
  client : Client
  /-- The tokens that are held. -/
  held : Option PageTokens
  /-- The world. -/
  world : World

namespace Sitting

/-- The answer that the result of a visit is. -/
def answerOf {α : Type} (f : α → StepResult) : Except Failure α → StepResult
  | .ok a => f a
  | .error failure => .failed failure

/-- A visit; the tokens that are held stay. -/
def visit {α : Type} (s : Sitting) (f : α → StepResult) (v : Visit α) : StepResult × Sitting :=
  let (result, world) := v.run s.world
  (answerOf f result, { s with world })

/-- A visit that needs field updates. -/
def visitWith {α : Type} (s : Sitting) (source : UpdateSource) (f : α → StepResult)
    (v : Updates → Visit α) : StepResult × Sitting :=
  s.visit f (do v (← Visit.ofExcept id source.decode))

/-- One step. -/
def step (s : Sitting) : Step → StepResult × Sitting
  | .readTokens project login =>
    let (result, world) := (s.client.readTokens project login).run s.world
    (answerOf .tokens result, { s with held := result.toOption, world })
  | .hold tokens => (.held tokens (s.held == some tokens), { s with held := some tokens })
  | .submit project source =>
    match source.decode with
    | .error failure => (.failed failure, s)
    | .ok updates =>
      match s.held with
      | none => (.noTokens, s)
      | some tokens =>
        { s with held := none }.visit .outcome (s.client.submit project updates tokens)
  | .mutate project login source =>
    s.visitWith source .outcome fun updates => s.client.mutate project updates login
  | .write project login source =>
    s.visitWith source .accepted fun updates => s.client.write project updates login
  | .writeAnew root project login source =>
    s.visitWith source .accepted fun updates => writeToProject root project updates login
  | .fetch maxPages => s.visit .projects (s.client.fetchProjects maxPages)
  | .load path maxPages =>
    let (result, world) := (s.client.loadProjects path maxPages).run s.world
    (.loaded result (world.disk.read path).toOption, { s with world })
  | .putFile path bytes =>
    let disk := (s.world.disk.write path bytes).toOption.getD s.world.disk
    (.done, { s with world := { s.world with disk } })
  | .removeFile path =>
    match s.world.disk.remove path with
    | some disk => (.removed true, { s with world := { s.world with disk } })
    | none => (.removed false, s)

/-- What a step answers, sends and reports. -/
structure Record where
  /-- The answer. -/
  result : StepResult
  /-- The requests that were sent. -/
  sent : List Request
  /-- The events that were reported. -/
  events : List Event

/-- One step with what it sends and reports. -/
def recordStep (s : Sitting) (step : Step) : Record × Sitting :=
  let (result, s) := { s with world := { s.world with sent := [], events := [] } }.step step
  (⟨result, s.world.sent, s.world.events⟩, s)

/-- All steps. -/
def run (s : Sitting) : List Step → List Record
  | [] => []
  | step :: rest =>
    let (record, s) := s.recordStep step
    record :: run s rest

end Sitting

end BadgeEntry
