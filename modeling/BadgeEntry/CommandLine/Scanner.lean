import BadgeEntry.CommandLine.Arguments

/-!
# Scanning the arguments of a command

Arguments are taken from left to right.  One that begins with two dashes names an
option in full; one that begins with a single dash is a cluster of options of one
letter each; two dashes alone make everything after them plain.  A plain argument
is the value of the option before it, if that still lacks one, or else goes to the
next free position.

A value is not judged where it stands but when the next option or position is
reached, so an argument without any meaning is found before a bad value just in
front of it.

## Main definitions

* `Slot`, `Grammar` — what a command takes.
* `Scan` — what has been read.
* `Scan.step` — one more argument.
* `scan` — all arguments.
-/

namespace BadgeEntry.CommandLine

/-- What a value on the command line is for. -/
inductive Slot where
  /-- The login cookie. -/
  | cookie
  /-- The address of a target. -/
  | base
  /-- The site on this machine. -/
  | onThisMachine
  /-- The site for trials. -/
  | staging
  /-- The site with the real entries. -/
  | production
  /-- The file of the listing. -/
  | cache
  /-- The language to be counted. -/
  | language
  /-- The pause between two pages. -/
  | pageDelay
  /-- Help. -/
  | help
  /-- The project. -/
  | project
  /-- The new data. -/
  | data
  deriving DecidableEq, Repr

/-- Whether a value belongs to it. -/
def Slot.takesValue : Slot → Bool
  | .onThisMachine => false
  | .staging => false
  | .production => false
  | .help => false
  | _ => true

/-- What a command takes. -/
structure Grammar where
  /-- Options in full. -/
  longs : List (String × Slot)
  /-- Options of one letter. -/
  shorts : List (Char × Slot)
  /-- Positions. -/
  positions : List Slot

/-- The options that name a target, and help. -/
def sharedLongs : List (String × Slot) :=
  [("base", .base), ("local", .onThisMachine), ("staging", .staging),
   ("production", .production), ("help", .help)]

/-- The same options by letter. -/
def sharedShorts : List (Char × Slot) :=
  [('b', .base), ('L', .onThisMachine), ('S', .staging), ('P', .production), ('h', .help)]

/-- What writing takes. -/
def writeGrammar : Grammar :=
  ⟨("cookie", .cookie) :: sharedLongs, ('C', .cookie) :: sharedShorts, [.project, .data]⟩

/-- What downloading takes. -/
def downloadGrammar : Grammar :=
  ⟨[("cache", .cache), ("language", .language), ("page-delay-ms", .pageDelay)] ++ sharedLongs,
   sharedShorts, []⟩

/-- A natural number below `2 ^ 64`, which a plus sign may precede. -/
def readWord64 (text : String) : Option UInt64 :=
  let ds := match text.toList with
    | '+' :: rest => rest
    | cs => cs
  if ds.isEmpty ∨ !ds.all Char.isDigit then none
  else if Decimal.value ds < UInt64.size then some (UInt64.ofNat (Decimal.value ds))
  else none

/-- What is wrong with the value of a slot, if anything is. -/
def Slot.fault? (slot : Slot) (text : String) : Option UsageFault :=
  match slot with
  | .cache => if text = "" then some .emptyValue else none
  | .project => if (readWord64 text).isNone then some .badValue else none
  | .pageDelay => if (readWord64 text).isNone then some .badValue else none
  | _ => none

/-- What has been read. -/
structure Scan where
  /-- The slots that are settled, with their values. -/
  given : List (Slot × String)
  /-- The last slot and its value, which are not settled yet. -/
  pending : Option (Slot × Option String)
  /-- The positions that are free. -/
  positions : List Slot
  /-- Whether two dashes have been read. -/
  plainOnly : Bool

namespace Scan

/-- Settles a slot, which must not be settled already. -/
def give (s : Scan) (slot : Slot) (text : String) : Except UsageFault Scan :=
  if (s.given.lookup slot).isSome then .error .conflict
  else
    match slot.fault? text with
    | some fault => .error fault
    | none => .ok { s with given := s.given ++ [(slot, text)] }

/-- Settles the last slot. -/
def settle (s : Scan) : Except UsageFault Scan :=
  match s.pending with
  | none => .ok s
  | some (_, none) => .error .emptyValue
  | some (slot, some text) => give { s with pending := none } slot text

/-- An option that takes no value. -/
def flag (s : Scan) (slot : Slot) : Except UsageFault Scan := do
  let s ← s.settle
  if slot = .help then throw .helpRequested
  s.give slot ""

/-- An option whose value is attached to it. -/
def attach (s : Scan) (slot : Slot) (text : List Char) : Except UsageFault Scan := do
  (← s.settle).give slot (String.ofList text)

/-- An option whose value is to follow. -/
def await (s : Scan) (slot : Slot) : Except UsageFault Scan := do
  return { ← s.settle with pending := some (slot, none) }

/-- An argument in the next free position. -/
def place (s : Scan) (text : List Char) : Except UsageFault Scan :=
  match s.positions with
  | [] => .error .unknownArgument
  | slot :: rest => do
    return { ← s.settle with pending := some (slot, some (String.ofList text)), positions := rest }

/-- An option in full, after its dashes. -/
def long (g : Grammar) (s : Scan) (text : List Char) : Except UsageFault Scan :=
  let name := String.ofList (text.takeWhile (· != '='))
  let attached := text.dropWhile (· != '=')
  match g.longs.lookup name with
  | none => .error .unknownArgument
  | some slot =>
    if slot.takesValue then
      if attached.isEmpty then s.await slot else s.attach slot (attached.drop 1)
    else if attached.isEmpty then s.flag slot
    else .error .surplusValue

/-- Options of one letter, after their dash.  What follows an option with a value
is its value, without an equals sign in front. -/
def cluster (g : Grammar) (s : Scan) : List Char → Except UsageFault Scan
  | [] => .ok s
  | c :: rest =>
    match g.shorts.lookup c with
    | none => .error .unknownArgument
    | some slot =>
      if slot.takesValue then
        match rest with
        | [] => s.await slot
        | '=' :: text => s.attach slot text
        | text => s.attach slot text
      else do
        cluster g (← s.flag slot) rest

/-- One more argument. -/
def step (g : Grammar) (s : Scan) (arg : String) : Except UsageFault Scan :=
  if s.plainOnly then s.place arg.toList
  else
    match arg.toList with
    | ['-', '-'] => .ok { s with plainOnly := true }
    | '-' :: '-' :: text => long g s text
    | '-' :: c :: rest => cluster g s (c :: rest)
    | text =>
      match s.pending with
      | some (slot, none) => .ok { s with pending := some (slot, some arg) }
      | _ => s.place text

/-- All arguments. -/
def run (g : Grammar) : Scan → List String → Except UsageFault Scan
  | s, [] => s.settle
  | s, arg :: rest => do run g (← s.step g arg) rest

end Scan

/-- The slots that the arguments of a command settle, with their values. -/
def scan (g : Grammar) (args : List String) : Except UsageFault (List (Slot × String)) := do
  return (← Scan.run g ⟨[], none, g.positions, false⟩ args).given

end BadgeEntry.CommandLine
