import BadgeEntry.CommandLine.Reader
import BadgeEntry.Listing.Download
import BadgeEntry.Listing.Language

/-!
# Carrying out a command

Writing first checks the cookie, then the target, then the data, and only then
visits the site.  Downloading prints how many projects there are and, if it is
asked to, how many of them name a language.

## Main definitions

* `CommandFailure` — why a command fails.
* `Command.run` — carries out a command.
* `execute` — a whole run: exit code, output and complaint.
-/

namespace BadgeEntry.CommandLine

open Form

variable [Url.NameMapping]

/-- Why a command fails. -/
inductive CommandFailure where
  /-- There is no cookie, or a blank one. -/
  | noCookie
  /-- There is no target. -/
  | noTarget
  /-- The new data cannot be used. -/
  | badData (failure : Failure)
  /-- The visit to the site fails. -/
  | visit (failure : Failure)
  deriving DecidableEq, Repr

/-- A failure in words, with its causes. -/
def CommandFailure.message : CommandFailure → String
  | .noCookie =>
    "we must have a session cookie value to proceed; use --help for more information"
  | .noTarget =>
    "we must have a base (-b/--base, -L, -S, or -P); use --help for more information"
  | .badData failure =>
    "updated data must be a JSON object with double-quoted strings: " ++ failure.chain
  | .visit failure => failure.chain

namespace WriteArguments

/-- The login cookie. -/
def login (a : WriteArguments) : Except CommandFailure String :=
  match a.cookie with
  | some cookie => if Text.isBlankText cookie then .error .noCookie else .ok cookie
  | none => .error .noCookie

/-- The root of the site. -/
def root (a : WriteArguments) : Except CommandFailure String :=
  match a.target.root? with
  | some root => .ok root
  | none => .error .noTarget

/-- The field updates. -/
def updates (a : WriteArguments) : Except CommandFailure Updates :=
  (Updates.decode a.data).mapError fun fault => .badData (.ofDecodeFault fault)

end WriteArguments

/-- A command in a world. -/
abbrev CommandRun (α : Type) := ExceptT CommandFailure (StateM World) α

/-- A visit as part of a command. -/
def ofVisit {α : Type} (v : Visit α) : CommandRun α := fun w =>
  match v.run w with
  | (.ok a, w) => (.ok a, w)
  | (.error failure, w) => (.error (.visit failure), w)

/-- What a command leaves: whether it succeeded, and the lines it prints. -/
structure Report where
  /-- Whether it succeeded. -/
  success : Bool
  /-- The lines that are printed. -/
  lines : List String
  deriving DecidableEq, Repr

/-- Writes to a project. -/
def runWrite (a : WriteArguments) : CommandRun Report := do
  let login ← a.login
  let root ← a.root
  let updates ← a.updates
  ofVisit (Visit.report (.writing a.project root))
  let success ← ofVisit (writeToProject root a.project updates login)
  return ⟨success, []⟩

/-- The lines about a listing. -/
def summary (projects : List Json.Value) (language : Option String) : List String :=
  ("Number of projects = " ++ Decimal.text projects.length) ::
    language.toList.map fun name =>
      name ++ " projects = " ++ Decimal.text (Listing.countLanguage projects name)

/-- Downloads the listing. -/
def runDownload (a : DownloadArguments) : CommandRun Report := do
  let client ← ofVisit (Visit.ofExcept id (Client.create? { root := a.root }))
  let projects ← ofVisit (client.loadProjects a.cache a.maxPages)
  return ⟨true, summary projects a.language⟩

/-- Carries out a command. -/
def Command.run : Command → CommandRun Report
  | .write a => runWrite a
  | .download a => runDownload a

/-! ### A whole run -/

/-- The name of the program and its version. -/
def versionLine : String := "badge-modify 0.1.0"

/-- What help says. -/
def helpLines : List String :=
  ["Modify BadgeApp project entries",
   "",
   "Usage: badge-modify write [-C VALUE] (-b URL | -L | -S | -P) PROJECT_ID UPDATED_DATA",
   "       badge-modify download [-b URL | -L | -S | -P] [--cache FILE] [--language LANG]",
   "                             [--page-delay-ms MS]",
   "       badge-modify help [COMMAND]",
   "       badge-modify --version"]

/-- What a run of the program leaves behind. -/
structure Execution where
  /-- The exit code. -/
  exitCode : Nat
  /-- The lines that are printed. -/
  output : List String
  /-- The lines of complaint. -/
  complaint : List String
  deriving DecidableEq, Repr

/-- The execution of a command line that is not carried out. -/
def refusal (fault : UsageFault) : Execution :=
  match fault with
  | .helpRequested => ⟨0, helpLines, []⟩
  | .versionRequested => ⟨0, [versionLine], []⟩
  | _ => ⟨fault.exitCode, [], helpLines⟩

/-- The execution that the result of a command amounts to. -/
def conclude : Except CommandFailure Report → Execution
  | .ok report => ⟨if report.success then 0 else 1, report.lines, []⟩
  | .error failure => ⟨1, [], [failure.message]⟩

/-- A whole run. -/
def execute (environment : Option String) (args : List String) : StateM World Execution :=
  match readCommand environment args with
  | .error fault => return refusal fault
  | .ok command => conclude <$> command.run

end BadgeEntry.CommandLine
