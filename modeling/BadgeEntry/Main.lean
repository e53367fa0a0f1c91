import BadgeEntry.CommandLine.Run
import BadgeEntry.Http.Wire
import Std.Async.DNS
import Std.Async.TCP

/-!
# The command line

A run is a function of the world: of what the network replies and of what is on
the disk.  The replies arrive while the run goes on, so the run is made again
with every reply that has come, until it sends no request without one.  What it
reported before it reports again, in the same order; only what is new is shown.

Of the disk a run sees the cache and the directories on the way to it.  Secure
connections are not made here; a request that would need one fails.  Host names with
characters outside ASCII are not mapped here and are refused.

## Main definitions

* `observe` — the part of the disk that a run sees.
* `exchange` — a request and its reply.
* `attend` — a run with the network.
* `main` — the program.
-/

namespace BadgeEntry

open Http Url CommandLine
open Std.Async Std.Net

/-! ### The disk -/

/-- What is at a path. -/
def lookAt (path : String) : IO (Option Node) := do
  match ← (IO.FS.readBinFile path).toBaseIO with
  | .ok bytes => return some (.file bytes.toList)
  | .error (.inappropriateType ..) => return some .directory
  | .error _ => return none

/-- The paths that lead to a path, itself included. -/
def stations (path : String) : List String :=
  let names := Disk.namesOf path
  let start := if path.startsWith "/" then "/" else ""
  (List.range names.length).map fun n => start ++ Disk.join (names.take (n + 1))

/-- A path on a disk, if there is something at it. -/
def observeAt (disk : Disk) (path : String) : IO Disk := do
  match disk.locate path, ← lookAt path with
  | .ok names, some node => return ⟨Entries.insert (Disk.join names) node disk.entries⟩
  | _, _ => return disk

/-- What is at a path and on the way to it. -/
def observe (path : String) : IO Disk :=
  (stations path).foldlM observeAt .empty

/-- Puts the files of a disk that were not in another onto the disk. -/
def save (before after : Disk) : IO Unit :=
  for (path, node) in after.entries do
    if !before.entries.contains (path, node) then
      match node with
      | .file bytes => IO.FS.writeBinFile path ⟨bytes.toArray⟩
      | .directory => pure ()

/-! ### The network -/

/-- All bytes that arrive before the connection ends. -/
partial def receiveAll (socket : TCP.Socket.Client) (received : ByteArray) : Async ByteArray := do
  match ← socket.recv? 65536 with
  | some bytes => receiveAll socket (received ++ bytes)
  | none => return received

/-- A host and a port of the network. -/
def socketAddress (port : UInt16) : IPAddr → SocketAddress
  | .v4 address => .v4 ⟨address, port⟩
  | .v6 address => .v6 ⟨address, port⟩

/-- Sends bytes to the first of some hosts that takes them, and collects the answer. -/
def converse (bytes : ByteArray) : List SocketAddress → IO ByteArray
  | [] => throw (IO.userError "no such host")
  | address :: rest => do
    let attempt : Async ByteArray := do
      let socket ← TCP.Socket.Client.mk
      socket.connect address
      socket.send bytes
      receiveAll socket .empty
    match ← attempt.block.toBaseIO with
    | .ok answer => return answer
    | .error fault => if rest.isEmpty then throw fault else converse bytes rest

/-- A request and its reply. -/
def exchange (request : Request) : IO Reply := do
  let .ok address := Address.parse request.address | return .dropped
  let some authority := address.authority | return .dropped
  let host := String.ofList (authority.host.render.filter fun c => c ≠ '[' ∧ c ≠ ']')
  let port := UInt16.ofNat (authority.port.getD 80)
  let bytes : ByteArray := ⟨(request.encode address).toArray⟩
  let attempt : IO ByteArray := do
    let hosts ← (DNS.getAddrInfo host "").block
    converse bytes (hosts.toList.map (socketAddress port))
  match ← attempt.toBaseIO with
  | .ok answer => return ((Response.decode? answer.toList).map .answered).getD .dropped
  | .error _ => return .dropped

/-! ### The run -/

/-- A detail of an event as it is shown. -/
def Detail.words : Detail → String
  | .text s => s
  | .number n => Decimal.text n

/-- Shows an event, unless it is of interest only when something is looked for. -/
def Event.print (e : Event) : IO Unit :=
  if e.level = .debug then pure ()
  else
    let details := e.details.map fun d => " " ++ d.1 ++ "=" ++ d.2.words
    IO.eprintln (e.level.name ++ " " ++ e.message ++ String.join details)

/-- Whether an event says that a page of the listing has arrived. -/
def Event.endsPage : Event → Bool
  | .pageRetrieved .. => true
  | _ => false

/-- The pause between two pages of the listing, in milliseconds. -/
def CommandLine.Command.pageDelay : Command → UInt64
  | .write _ => 0
  | .download a => a.pageDelay

/-- A run with the network: `replies` have arrived, and `shown` events were shown. -/
partial def attend (run : StateM World Execution) (pause : UInt64) (disk : Disk)
    (replies : List Reply) (shown : Nat) : IO (Execution × World) := do
  let (execution, world) := run ⟨⟨true, replies, .dropped⟩, disk, [], []⟩
  let events := world.events.drop shown
  events.forM Event.print
  match (world.sent.filter (·.method ≠ .connect))[replies.length]? with
  | none => return (execution, world)
  | some request =>
    if events.any Event.endsPage then IO.sleep (UInt32.ofNat pause.toNat)
    attend run pause disk (replies ++ [← exchange request]) world.events.length

/-- The program: shows and saves what a run leaves behind, and returns its exit code. -/
def program (args : List String) : IO UInt32 := do
  let environment ← IO.getEnv Site.defaultCookieName
  let command := (readCommand environment args).toOption
  let disk ← match command with
    | some (.download a) => observe a.cache
    | _ => pure .empty
  let pause := (command.map Command.pageDelay).getD 0
  let (execution, world) ← attend (execute environment args) pause disk [] 0
  save disk world.disk
  execution.output.forM IO.println
  execution.complaint.forM IO.eprintln
  return UInt32.ofNat execution.exitCode

end BadgeEntry

/-- Modifies entries of a badge site, or downloads their listing. -/
def main (args : List String) : IO UInt32 :=
  BadgeEntry.program args
