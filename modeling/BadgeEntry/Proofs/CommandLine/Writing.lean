import BadgeEntry.CommandLine.Run
import BadgeEntry.Proofs.Client.Course
import BadgeEntry.Proofs.Client.Made
import BadgeEntry.Proofs.Client.Replies

/-!
# Writing from the command line

A command line to write is carried out in stages.  The login, the target and the data are
looked at in this order, and what is wrong with the first of them that is wrong is the
complaint; nothing is sent then.  If they are all right, a client is made for the target, and
it writes to the project.  The run succeeds just if the site accepts the form; every other
outcome and every failure have the exit code 1.

## Main definitions

* `WriteArguments.ReadFrom` — the arguments of a command line, as they are given.
* `WriteArguments.LacksLogin`, `Target.NamesNoSite` — what is missing.
* `WriteArguments.Refused`, `WriteArguments.Ready` — what is wrong with the arguments, and
  arguments with which nothing is.
* `executionOf` — the execution that an attempt to write amounts to.

## Main results

* `exists_readFrom` — how a command line to write is read.
* `runWrite_of_refused`, `runWrite_of_ready` — the stages of the command.
* `execute_write` — **what comes of a command line to write.**
-/

namespace BadgeEntry.CommandLine

open Form Visit

/-! ### Arguments -/

/-- Arguments for writing that were read from settled slots: the cookie is the one that is
given, and else the one of the environment. -/
structure WriteArguments.ReadFrom (a : WriteArguments) (environment : Option String)
    (given : List (Slot × String)) : Prop where
  cookie : a.cookie = (given.lookup .cookie).or environment
  target : a.target = targetOf given
  project : (given.lookup .project).bind readWord64 = some a.project
  data : given.lookup .data = some a.data

/-- There is no login, or a blank one. -/
def WriteArguments.LacksLogin (a : WriteArguments) : Prop :=
  ∀ cookie, a.cookie = some cookie → Text.isBlankText cookie = true

/-- There is no address but a blank one, and no site is named. -/
def Target.NamesNoSite (t : Target) : Prop :=
  (∀ base, t.base = some base → Text.isBlankText base = true) ∧
    t.onThisMachine = false ∧ t.staging = false ∧ t.production = false

/-- What is wrong with arguments for writing: with the login, or else with the target, or else
with the data. -/
inductive WriteArguments.Refused (a : WriteArguments) : CommandFailure → Prop
  /-- There is no login. -/
  | noCookie (lacks : a.LacksLogin) : Refused a .noCookie
  /-- There is no target. -/
  | noTarget (given : ¬a.LacksLogin) (unnamed : a.target.NamesNoSite) : Refused a .noTarget
  /-- The data cannot be used. -/
  | badData {fault : DecodeFault} (given : ¬a.LacksLogin) (named : ¬a.target.NamesNoSite)
    (unusable : Updates.decode a.data = .error fault) :
    Refused a (.badData (.ofDecodeFault fault))

/-- Arguments for writing with which nothing is wrong, and what they stand for.  The login is
the cookie as it is given. -/
structure WriteArguments.Ready (a : WriteArguments) (login root : String) (updates : Updates) :
    Prop where
  given : a.cookie = some login
  visible : Text.isBlankText login = false
  target : a.target.root? = some root
  data : Updates.decode a.data = .ok updates

variable {a : WriteArguments} {environment : Option String} {args : List String}
  {login root : String} {updates : Updates} {failure : CommandFailure} {w : World}

/-- What a command line to write is read from. -/
theorem exists_of_readWrite {command : Command} (h : readWrite environment args = .ok command) :
    ∃ given a, scan writeGrammar args = .ok given ∧ command = .write a ∧
      a.ReadFrom environment given := by
  unfold readWrite at h
  cases hscan : scan writeGrammar args with
  | error fault =>
    rw [hscan] at h
    cases h
  | ok given =>
    simp only [hscan, bind, Except.bind] at h
    split at h
    · cases h
    · split at h
      · next project data hproject hdata =>
        cases h
        exact ⟨given, _, rfl, rfl, rfl, rfl, hproject, hdata⟩
      · cases h

theorem readDownload_ne_write : readDownload args ≠ .ok (.write a) := by
  intro h
  unfold readDownload at h
  cases hscan : scan downloadGrammar args with
  | error fault =>
    rw [hscan] at h
    cases h
  | ok given =>
    simp only [hscan, bind, Except.bind] at h
    split at h <;> cases h

/-- **How a command line to write is read**: the arguments are those that are given. -/
theorem exists_readFrom (h : readCommand environment args = .ok (.write a)) :
    ∃ given, scan writeGrammar args.tail = .ok given ∧ a.ReadFrom environment given := by
  cases args with
  | nil => cases h
  | cons arg rest =>
    rw [readCommand] at h
    split at h
    · obtain ⟨given, _, hscan, hcommand, hread⟩ := exists_of_readWrite h
      cases hcommand
      exact ⟨given, hscan, hread⟩
    · exact absurd h readDownload_ne_write
    · split at h
      · cases h
      · split at h <;> cases h

/-- A target stands for no root just if it names no site. -/
theorem Target.root?_eq_none_iff {t : Target} : t.root? = none ↔ t.NamesNoSite := by
  have hbase : t.base.filter (fun base => !Text.isBlankText base) = none ↔
      ∀ base, t.base = some base → Text.isBlankText base = true := by
    cases t.base <;> simp [Option.filter]
  unfold Target.root? Target.NamesNoSite
  rw [← hbase]
  cases t.base.filter (fun base => !Text.isBlankText base) with
  | some base => simp
  | none => cases t.onThisMachine <;> cases t.staging <;> cases t.production <;> simp

/-! ### What is wrong with the arguments -/

namespace WriteArguments

theorem login_of_lacksLogin (h : a.LacksLogin) : a.login = .error .noCookie := by
  unfold WriteArguments.login
  cases hcookie : a.cookie with
  | none => rfl
  | some cookie => simp [h cookie hcookie]

theorem login_of_given (hgiven : a.cookie = some login)
    (hvisible : Text.isBlankText login = false) : a.login = .ok login := by
  simp [WriteArguments.login, hgiven, hvisible]

theorem exists_given (h : ¬a.LacksLogin) :
    ∃ login, a.cookie = some login ∧ Text.isBlankText login = false := by
  simpa [LacksLogin] using h

theorem root_of_root? (h : a.target.root? = some root) : a.root = .ok root := by
  simp [WriteArguments.root, h]

theorem exists_root? (h : ¬a.target.NamesNoSite) : ∃ root, a.target.root? = some root :=
  Option.ne_none_iff_exists'.mp (mt Target.root?_eq_none_iff.mp h)

/-- Something is wrong with arguments, or they are ready. -/
theorem refused_or_ready (a : WriteArguments) :
    (∃ failure, a.Refused failure) ∨ ∃ login root updates, a.Ready login root updates := by
  by_cases hlacks : a.LacksLogin
  · exact .inl ⟨_, .noCookie hlacks⟩
  by_cases hunnamed : a.target.NamesNoSite
  · exact .inl ⟨_, .noTarget hlacks hunnamed⟩
  cases hdata : Updates.decode a.data with
  | error fault => exact .inl ⟨_, .badData hlacks hunnamed hdata⟩
  | ok updates =>
    obtain ⟨login, hgiven, hvisible⟩ := exists_given hlacks
    obtain ⟨root, hroot⟩ := exists_root? hunnamed
    exact .inr ⟨login, root, updates, hgiven, hvisible, hroot, hdata⟩

end WriteArguments

/-! ### What comes of the command -/

/-- **A command that is refused leaves the world as it is.** -/
theorem runWrite_of_refused [Url.NameMapping] (h : a.Refused failure) (w : World) :
    runWrite a w = (.error failure, w) := by
  unfold runWrite
  cases h with
  | noCookie hlacks =>
    rw [WriteArguments.login_of_lacksLogin hlacks]
    rfl
  | noTarget hlogin hunnamed =>
    obtain ⟨login, hgiven, hvisible⟩ := WriteArguments.exists_given hlogin
    rw [WriteArguments.login_of_given hgiven hvisible, WriteArguments.root,
      Target.root?_eq_none_iff.mpr hunnamed]
    rfl
  | badData hlogin hnamed hunusable =>
    obtain ⟨login, hgiven, hvisible⟩ := WriteArguments.exists_given hlogin
    obtain ⟨root, hroot⟩ := WriteArguments.exists_root? hnamed
    rw [WriteArguments.login_of_given hgiven hvisible, WriteArguments.root_of_root? hroot,
      WriteArguments.updates, hunusable]
    rfl

/-- The command that a visit is goes on with its result. -/
theorem ofVisit_bind {α β : Type} (v : Visit α) (f : α → CommandRun β) (w : World) :
    (ofVisit v >>= f) w = match v.run w with
      | (.ok x, after) => f x after
      | (.error failure, after) => (.error (.visit failure), after) := by
  have hbind : (ofVisit v >>= f) w = ExceptT.bindCont f (ofVisit v w).1 (ofVisit v w).2 := rfl
  rw [hbind, ofVisit]
  rcases v.run w with ⟨_ | _, _⟩ <;> rfl

/-- **A command that is ready writes to the project**, after it has announced itself. -/
theorem runWrite_of_ready [Url.NameMapping] (h : a.Ready login root updates) (w : World) :
    runWrite a w =
      match (writeToProject root a.project updates login).run
          (w.reporting [.writing a.project root]) with
      | (.ok accepted, after) => (.ok ⟨accepted, []⟩, after)
      | (.error failure, after) => (.error (.visit failure), after) := by
  have hreport : run (report (.writing a.project root)) w =
      (.ok (), w.reporting [.writing a.project root]) := rfl
  unfold runWrite
  rw [WriteArguments.login_of_given h.given h.visible, WriteArguments.root_of_root? h.target,
    WriteArguments.updates, h.data]
  change (ofVisit (report (.writing a.project root)) >>= fun _ =>
    ofVisit (writeToProject root a.project updates login) >>= fun success =>
      (pure ⟨success, []⟩ : CommandRun Report)) w = _
  rw [ofVisit_bind, hreport]
  dsimp only
  rw [ofVisit_bind]
  rcases (writeToProject root a.project updates login).run _ with ⟨_ | _, _⟩ <;> rfl

/-! ### What comes of the run -/

/-- The execution that an attempt to write amounts to. -/
def executionOf : Except Failure Bool → Execution
  | .ok true => ⟨0, [], []⟩
  | .ok false => ⟨1, [], []⟩
  | .error failure => ⟨1, [], [failure.chain]⟩

theorem exitCode_executionOf_eq_zero_iff {result : Except Failure Bool} :
    (executionOf result).exitCode = 0 ↔ result = .ok true := by
  rcases result with _ | _ | _ <;> simp [executionOf]

theorem exitCode_executionOf_le (result : Except Failure Bool) :
    (executionOf result).exitCode ≤ 1 := by
  rcases result with _ | _ | _ <;> simp [executionOf]

section
variable [Url.NameMapping] (h : readCommand environment args = .ok (.write a)) (w : World)
include h

theorem execute_of_write :
    execute environment args w = (conclude (runWrite a w).1, (runWrite a w).2) := by
  unfold execute
  rw [h]
  rfl

theorem execute_of_refused (hrefused : a.Refused failure) :
    execute environment args w = (⟨1, [], [failure.message]⟩, w) := by
  rw [execute_of_write h, runWrite_of_refused hrefused]
  rfl

/-- A run that is ready comes to what writing to the project comes to; only more events are
reported. -/
theorem execute_of_ready (hready : a.Ready login root updates) :
    ∃ events, execute environment args w =
      (executionOf ((writeToProject root a.project updates login).run w).1,
        { ((writeToProject root a.project updates login).run w).2 with events }) := by
  obtain ⟨events, hrun⟩ := (determined_writeToProject root a.project updates login).run_reporting
    w [.writing a.project root]
  refine ⟨events, ?_⟩
  rw [execute_of_write h, runWrite_of_ready hready, hrun]
  rcases ((writeToProject root a.project updates login).run w).1 with _ | _ | _ <;> rfl

/-- **What comes of a command line to write.**

The cookie is the one that is given, and else that of the environment.  If there is none or a
blank one, or else if no site is named, or else if the data cannot be used, then that is the
complaint, the exit code is 1, and the world stays as it is.

The exit code is 0 just if nothing is wrong with the arguments, a client can be made for the
target, and writing to the project with it is accepted; and it is 1 in all other cases.  But
for what is reported, the world is left as it is left by that client. -/
theorem execute_write :
    let out : Execution × World := execute environment args w
    (∃ given, scan writeGrammar args.tail = .ok given ∧ a.ReadFrom environment given) ∧
    (∀ failure, a.Refused failure → out = (⟨1, [], [failure.message]⟩, w)) ∧
    (out.1.exitCode = 0 ↔ ∃ login root updates client, a.Ready login root updates ∧
      Client.create? { root } = .ok client ∧
        ((client.write a.project updates login).run w).1 = .ok true) ∧
    (out.1.exitCode = 0 ∨ out.1.exitCode = 1) ∧
    ∀ login root updates, a.Ready login root updates → match Client.create? { root } with
      | .ok client => out.2 =
          { ((client.write a.project updates login).run w).2 with events := out.2.events }
      | .error _ => out.2 = { w with events := out.2.events } := by
  intro out
  have hrefused (failure : CommandFailure) (hfailure : a.Refused failure) :
      out = (⟨1, [], [failure.message]⟩, w) := execute_of_refused h w hfailure
  have hready {login root : String} {updates : Updates} (hready : a.Ready login root updates) :
      ∃ events, out = (executionOf ((writeToProject root a.project updates login).run w).1,
        { ((writeToProject root a.project updates login).run w).2 with events }) :=
    execute_of_ready h w hready
  clear_value out
  refine ⟨exists_readFrom h, hrefused, ⟨fun hzero => ?_, ?_⟩, ?_, ?_⟩
  · rcases a.refused_or_ready with ⟨failure, hfailure⟩ | ⟨login, root, updates, hall⟩
    · rw [hrefused failure hfailure] at hzero
      cases hzero
    · obtain ⟨events, rfl⟩ := hready hall
      rw [exitCode_executionOf_eq_zero_iff, writeToProject_run] at hzero
      cases hmade : Client.create? { root } with
      | error failure =>
        rw [hmade] at hzero
        cases hzero
      | ok client =>
        rw [hmade] at hzero
        exact ⟨login, root, updates, client, hall, hmade, hzero⟩
  · rintro ⟨login, root, updates, client, hall, hmade, haccepted⟩
    obtain ⟨events, rfl⟩ := hready hall
    rw [exitCode_executionOf_eq_zero_iff, writeToProject_run, hmade]
    exact haccepted
  · rcases a.refused_or_ready with ⟨failure, hfailure⟩ | ⟨login, root, updates, hall⟩
    · rw [hrefused failure hfailure]
      exact .inr rfl
    · obtain ⟨events, rfl⟩ := hready hall
      exact Nat.le_one_iff_eq_zero_or_eq_one.mp (exitCode_executionOf_le _)
  · intro login root updates hall
    obtain ⟨events, rfl⟩ := hready hall
    rw [writeToProject_run]
    cases Client.create? { root } <;> rfl

end

/-- On this machine, a form is accepted with the login of the environment; and a blank login
that is given counts, even if there is one in the environment. -/
theorem execute_write_onThisMachine :
    let w := World.replying
      [.answered (.page 200 "<meta name=\"csrf-token\" content=\"c\">"),
        .answered ⟨⟨302⟩, [⟨Utf8.encode "location".toList,
          Utf8.encode "http://localhost:3000/en/projects/1".toList⟩], some []⟩]
    let plain := ["write", "-L", "1", "\x7b\x7d"]
    let blank := ["write", "-C", " ", "-L", "1", "\x7b\x7d"]
    readCommand (some "e") plain =
      .ok (.write ⟨some "e", { onThisMachine := true }, 1, "\x7b\x7d"⟩) ∧
    (execute (some "e") plain w : Execution × World).1.exitCode = 0 ∧
    readCommand (some "e") blank =
      .ok (.write ⟨some " ", { onThisMachine := true }, 1, "\x7b\x7d"⟩) ∧
    (execute (some "e") blank w : Execution × World) =
      (⟨1, [], [CommandFailure.noCookie.message]⟩, w) := by
  intro w plain blank
  have hplain : readCommand (some "e") plain =
      .ok (.write ⟨some "e", { onThisMachine := true }, 1, "\x7b\x7d"⟩) := by decide +kernel
  have hblank : readCommand (some "e") blank =
      .ok (.write ⟨some " ", { onThisMachine := true }, 1, "\x7b\x7d"⟩) := by decide +kernel
  refine ⟨hplain, ?_, hblank, ?_⟩
  · refine (execute_write hplain w).2.2.1.mpr
      ⟨"e", _, .empty, _, ⟨rfl, by decide, rfl, by decide +kernel⟩, Client.create?_localRoot, ?_⟩
    decide +kernel
  · refine (execute_write hblank w).2.1 _ (.noCookie fun cookie hcookie => ?_)
    cases hcookie
    decide

end BadgeEntry.CommandLine
