import BadgeEntry.CommandLine.Scanner

/-!
# Reading a command line

The first argument names the command.  Before it only help and the version can be
asked for.  Arguments that exclude each other are found before missing ones.

## Main definitions

* `readCommand` — the command that a command line asks for.
-/

namespace BadgeEntry.CommandLine

/-- The commands. -/
inductive CommandName where
  /-- Writing to a project. -/
  | write
  /-- Downloading the listing. -/
  | download
  deriving DecidableEq, Repr

/-- The names of the commands. -/
def commandNames : List (String × CommandName) :=
  [("write", .write), ("download", .download)]

/-- The target among settled slots. -/
def targetOf (given : List (Slot × String)) : Target where
  base := given.lookup .base
  onThisMachine := (given.lookup .onThisMachine).isSome
  staging := (given.lookup .staging).isSome
  production := (given.lookup .production).isSome

/-- The command to write, with a cookie from the environment if none is given. -/
def readWrite (environment : Option String) (args : List String) :
    Except UsageFault Command := do
  let given ← scan writeGrammar args
  let target := targetOf given
  if 1 < target.count then throw .conflict
  match (given.lookup .project).bind readWord64, given.lookup .data with
  | some project, some data =>
    return .write ⟨(given.lookup .cookie).or environment, target, project, data⟩
  | _, _ => throw .missingArgument

/-- The command to download. -/
def readDownload (args : List String) : Except UsageFault Command := do
  let given ← scan downloadGrammar args
  let target := targetOf given
  if 1 < target.count then throw .conflict
  let pageDelay := ((given.lookup .pageDelay).bind readWord64).getD defaultPageDelay
  return .download
    ⟨target, (given.lookup .cache).getD defaultCache, given.lookup .language, pageDelay⟩

/-- What help with some words is: the first may be a command, and no command has
commands of its own. -/
def readHelp : List String → UsageFault
  | [] => .helpRequested
  | [name] =>
    if name = "help" ∨ (commandNames.lookup name).isSome then .helpRequested
    else .unknownCommand
  | _ => .unknownCommand

/-- What an argument before the command is, if it begins with a dash. -/
def readBefore (arg : List Char) : Option UsageFault :=
  match arg with
  | '-' :: '-' :: text =>
    let name := String.ofList (text.takeWhile (· != '='))
    let attached := !(text.dropWhile (· != '=')).isEmpty
    if name = "help" then some (if attached then .surplusValue else .helpRequested)
    else if name = "version" then some (if attached then .surplusValue else .versionRequested)
    else some .unknownArgument
  | '-' :: 'h' :: _ => some .helpRequested
  | '-' :: 'V' :: _ => some .versionRequested
  | '-' :: _ :: _ => some .unknownArgument
  | _ => none

/-- What the arguments after two dashes are: no command can be named there. -/
def readPlain : List String → UsageFault
  | [] => .noCommand
  | arg :: _ =>
    if arg = "help" ∨ (commandNames.lookup arg).isSome then .unknownArgument
    else .unknownCommand

/-- The command that a command line asks for.  `environment` is the cookie that is
used if none is given. -/
def readCommand (environment : Option String) : List String → Except UsageFault Command
  | [] => .error .noCommand
  | arg :: rest =>
    match commandNames.lookup arg with
    | some .write => readWrite environment rest
    | some .download => readDownload rest
    | none =>
      if arg = "help" then .error (readHelp rest)
      else if arg = "--" then .error (readPlain rest)
      else .error ((readBefore arg.toList).getD .unknownCommand)

end BadgeEntry.CommandLine
