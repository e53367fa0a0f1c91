import BadgeEntry.World.Failure

/-!
# Visits

A visit is a computation that sends requests, uses the disk and reports events.
It is a function of the world it starts in: what the network will reply, and what
the disk holds.

A network that cannot be reached fails every request.  One that can be reached
replies from a list, one reply for each request, and then in one way for ever.
Only plain requests are carried out; for a secure one a tunnel is asked for and
not given, and other schemes cannot be used.

## Main definitions

* `Network`, `World` — what a visit depends on and leaves behind.
* `Visit`, `Visit.run` — computations in a world, and what comes of them.
* `Visit.report`, `Visit.send`, `Visit.bodyText` — what a visit is made of.
-/

namespace BadgeEntry

open Http Url

/-- The replies that are to come. -/
structure Network where
  /-- Whether requests arrive at all. -/
  reachable : Bool
  /-- The replies to the next requests. -/
  replies : List Reply
  /-- The reply to every later request. -/
  afterwards : Reply
  deriving Repr, Inhabited

/-- The next reply, and the network after it. -/
def Network.next (n : Network) : Reply × Network :=
  match n.replies with
  | [] => (n.afterwards, n)
  | reply :: rest => (reply, { n with replies := rest })

/-- What a visit depends on, and what it leaves behind. -/
structure World where
  /-- The network. -/
  network : Network
  /-- The disk. -/
  disk : Disk
  /-- The requests that were sent, the first one first. -/
  sent : List Request
  /-- The events that were reported, the first one first. -/
  events : List Event
  deriving Inhabited

/-- A computation in a world that may fail. -/
abbrev Visit (α : Type) := ExceptT Failure (StateM World) α

namespace Visit

/-- What comes of a visit in a world, and the world it leaves behind. -/
def run {α : Type} (v : Visit α) (w : World) : Except Failure α × World :=
  v w

/-- Reports an event. -/
def report (e : Event) : Visit Unit :=
  modify fun w => { w with events := w.events ++ [e] }

/-- Reports some events. -/
def reportAll (es : List Event) : Visit Unit :=
  modify fun w => { w with events := w.events ++ es }

/-- Notes a request as sent. -/
def record (r : Request) : Visit Unit :=
  modify fun w => { w with sent := w.sent ++ [r] }

/-- The next reply of the network. -/
def nextReply : Visit Reply :=
  modifyGet fun w => (w.network.next.1, { w with network := w.network.next.2 })

/-- Sends a request and returns its answer. -/
def send (method : Method) (address : Address) (fields : Fields) (body : String) :
    Visit Response := do
  if !(← get).network.reachable then throw .transport
  if address.scheme = "http" then
    record ⟨method, address.requested.text, fields, body⟩
    match ← nextReply with
    | .dropped => throw .transport
    | .answered response => return response
  else if address.scheme = "https" then
    record ⟨.connect, address.hostAndPort, [], ""⟩
    throw .transport
  else throw .transport

/-- The body of an answer as text; damaged bytes are replaced. -/
def bodyText (response : Response) : Visit String :=
  match response.body with
  | some bytes => return String.ofList (Utf8.decode bytes)
  | none => throw .transport

/-- The result, or the failure that an error is. -/
def ofExcept {ε α : Type} (fail : ε → Failure) : Except ε α → Visit α
  | .ok a => return a
  | .error e => throw (fail e)

/-- The text of an address as an address. -/
def parseAddress [NameMapping] (text : String) : Visit Address :=
  ofExcept (.badAddress text) (Address.parse text)

/-- The fields of a request, if all can be sent. -/
def checkFields (fields : Fields) : Visit Fields :=
  match firstInvalid? fields with
  | some field => throw (.badField field)
  | none => return fields

end Visit

end BadgeEntry
