import BadgeEntry.Site.Endpoint

/-!
# What a command line asks for

There are two commands: one writes to a project, the other downloads the listing.
Both take a target, at most one of an address and the three known sites.

## Main definitions

* `UsageFault` — why a command line is not carried out.
* `Target`, `WriteArguments`, `DownloadArguments`, `Command` — what it asks for.
* `Target.root?` — the root that a target stands for.
-/

namespace BadgeEntry.CommandLine

open Site

/-- Why a command line is not carried out. -/
inductive UsageFault where
  /-- A value that must be given is missing. -/
  | missingArgument
  /-- An argument has no meaning. -/
  | unknownArgument
  /-- Arguments exclude each other, or one is repeated. -/
  | conflict
  /-- An option has no value, or an empty one that it does not take. -/
  | emptyValue
  /-- A value is not a number. -/
  | badValue
  /-- A value is given to something that takes none. -/
  | surplusValue
  /-- There is no such command. -/
  | unknownCommand
  /-- Help is asked for. -/
  | helpRequested
  /-- The version is asked for. -/
  | versionRequested
  /-- There is no command at all. -/
  | noCommand
  deriving DecidableEq, Repr

/-- The exit code of a command line that is not carried out. -/
def UsageFault.exitCode : UsageFault → Nat
  | .helpRequested => 0
  | .versionRequested => 0
  | _ => 2

/-- Where a command goes. -/
structure Target where
  /-- An address. -/
  base : Option String := none
  /-- The site on this machine. -/
  onThisMachine : Bool := false
  /-- The site for trials. -/
  staging : Bool := false
  /-- The site with the real entries. -/
  production : Bool := false
  deriving DecidableEq, Repr, Inhabited

/-- The root that a target stands for.  A blank address counts as none. -/
def Target.root? (t : Target) : Option String :=
  match t.base.filter fun base => !Text.isBlankText base with
  | some base => some base
  | none =>
    if t.onThisMachine then some (Deployment.root .onThisMachine)
    else if t.staging then some (Deployment.root .staging)
    else if t.production then some (Deployment.root .production)
    else none

/-- How many of the ways to name a target are used. -/
def Target.count (t : Target) : Nat :=
  [t.base.isSome, t.onThisMachine, t.staging, t.production].countP id

/-- What writing needs. -/
structure WriteArguments where
  /-- The login cookie, from an option or from the environment. -/
  cookie : Option String
  /-- The target. -/
  target : Target
  /-- The project. -/
  project : ProjectId
  /-- The new data as JSON text. -/
  data : String
  deriving DecidableEq, Repr, Inhabited

/-- What downloading needs. -/
structure DownloadArguments where
  /-- The target. -/
  target : Target
  /-- The file in which the listing is kept. -/
  cache : String
  /-- A language to be counted. -/
  language : Option String
  /-- The pause between two pages, in milliseconds. -/
  pageDelay : UInt64
  deriving DecidableEq, Repr, Inhabited

/-- A command with its arguments. -/
inductive Command where
  /-- Writing to a project. -/
  | write (arguments : WriteArguments)
  /-- Downloading the listing. -/
  | download (arguments : DownloadArguments)
  deriving DecidableEq, Repr

/-- The file in which the listing is kept unless another is named. -/
def defaultCache : String := "projects.json"

/-- The usual pause between two pages, in milliseconds. -/
def defaultPageDelay : UInt64 := 1000

/-- The limit on pages that a download from the command line has. -/
def DownloadArguments.maxPages (_ : DownloadArguments) : Option UInt32 := none

/-- The root from which the listing comes; it is public, so without a target it is
that of the real site. -/
def DownloadArguments.root (a : DownloadArguments) : String :=
  a.target.root?.getD (Deployment.root .production)

end BadgeEntry.CommandLine
