import BadgeEntry.World.Visit

/-!
# How visits run

A visit is a function of a world, so it is run by applying it.  Running it goes step
by step: the run of a sequence is the run of its first part, and then, unless that
failed, of the rest in the world that the first part left behind.  Each basic step
changes the world in one of three ways: events are reported, a request is sent and
replied to, or a tunnel is asked for in vain.

## Main definitions

* `World.reporting`, `World.exchanging`, `World.tunnelling` — the three changes.
* `Reply.result` — what a reply is to the one who waits for it.
* `World.replying` — a world with some replies.
* `Visit.Sending` — the ways in which a request goes.
* `Visit.requests`, `Visit.reports` — what a visit sends and reports.
* `Visit.exchanges` — what it sends, with the replies.

## Main results

* `Visit.bind_run` — the run of a sequence.
* `Visit.send_run` — the run of a request.
* `Visit.sending` — the ways in which a request goes.
-/

namespace BadgeEntry

open Http Url

/-! ### Changes of the world -/

namespace World

/-- The world after some events. -/
def reporting (w : World) (es : List Event) : World :=
  { w with events := w.events ++ es }

/-- The world after a request and the reply to it. -/
def exchanging (w : World) (q : Request) : World :=
  { w with sent := w.sent ++ [q], network := w.network.next.2 }

/-- The world after a request for a tunnel. -/
def tunnelling (w : World) (address : Address) : World :=
  { w with sent := w.sent ++ [⟨.connect, address.hostAndPort, [], ""⟩] }

@[simp] theorem reporting_sent (w : World) (es : List Event) :
    (w.reporting es).sent = w.sent := rfl

@[simp] theorem reporting_network (w : World) (es : List Event) :
    (w.reporting es).network = w.network := rfl

@[simp] theorem reporting_events (w : World) (es : List Event) :
    (w.reporting es).events = w.events ++ es := rfl

@[simp] theorem reporting_reporting (w : World) (es fs : List Event) :
    (w.reporting es).reporting fs = w.reporting (es ++ fs) := by
  simp [reporting]

@[simp] theorem exchanging_sent (w : World) (q : Request) :
    (w.exchanging q).sent = w.sent ++ [q] := rfl

@[simp] theorem exchanging_network (w : World) (q : Request) :
    (w.exchanging q).network = w.network.next.2 := rfl

@[simp] theorem exchanging_events (w : World) (q : Request) :
    (w.exchanging q).events = w.events := rfl

@[simp] theorem tunnelling_sent (w : World) (address : Address) :
    (w.tunnelling address).sent = w.sent ++ [⟨.connect, address.hostAndPort, [], ""⟩] := rfl

@[simp] theorem tunnelling_network (w : World) (address : Address) :
    (w.tunnelling address).network = w.network := rfl

@[simp] theorem tunnelling_events (w : World) (address : Address) :
    (w.tunnelling address).events = w.events := rfl

end World

/-! ### Replies -/

/-- What a reply is to the one who waits for it. -/
def Http.Reply.result : Reply → Except Failure Response
  | .dropped => .error .transport
  | .answered response => .ok response

/-- The reply to the request number `i` from now on. -/
def Network.reply (n : Network) (i : Nat) : Reply :=
  n.replies.getD i n.afterwards

theorem Network.reply_zero (n : Network) : n.reply 0 = n.next.1 := by
  unfold Network.reply Network.next
  cases n.replies <;> rfl

theorem Network.reply_next (n : Network) (i : Nat) : n.next.2.reply i = n.reply (i + 1) := by
  unfold Network.reply Network.next
  cases h : n.replies <;> simp [h]

/-- Whether a request to an address is answered next, and how: the network can be reached,
no tunnel is needed, and the next reply is the answer. -/
structure Network.Answers (n : Network) (address : Address) (r : Response) : Prop where
  reachable : n.reachable = true
  plain : address.scheme = "http"
  reply : n.next.1 = .answered r

/-- A world with a network that gives some replies and then drops every request. -/
def World.replying (replies : List Reply) : World :=
  ⟨⟨true, replies, .dropped⟩, .empty, [], []⟩

/-- An answer with a status and a page. -/
def Http.Response.page (code : Nat) (text : String) : Response :=
  ⟨⟨code⟩, [], some (Utf8.encode text.toList)⟩

@[simp] theorem Network.next_reachable (n : Network) : n.next.2.reachable = n.reachable := by
  unfold Network.next
  cases n.replies <;> rfl

namespace Visit

/-! ### Runs -/

section
variable {α β : Type} (w : World)

@[simp] theorem pure_run (a : α) : run (pure a) w = (.ok a, w) := rfl

@[simp] theorem throw_run (e : Failure) : run (throw e : Visit α) w = (.error e, w) := rfl

/-- **The run of a sequence.** -/
theorem bind_run (v : Visit α) (f : α → Visit β) :
    run (v >>= f) w = match v.run w with
      | (.error e, after) => (.error e, after)
      | (.ok a, after) => (f a).run after := by
  have hbind : run (v >>= f) w = ExceptT.bindCont f (v.run w).1 (v.run w).2 := rfl
  rw [hbind]
  rcases v.run w with ⟨_ | _, _⟩ <;> rfl

@[simp] theorem report_run (e : Event) : (report e).run w = (.ok (), w.reporting [e]) := rfl

@[simp] theorem reportAll_run (es : List Event) :
    (reportAll es).run w = (.ok (), w.reporting es) := rfl

theorem parseAddress_run [NameMapping] (text : String) :
    (parseAddress text).run w = match Address.parse text with
      | .error fault => (.error (.badAddress text fault), w)
      | .ok address => (.ok address, w) := by
  unfold parseAddress
  cases Address.parse text <;> rfl

theorem checkFields_run (fields : Fields) :
    (checkFields fields).run w = match firstInvalid? fields with
      | some field => (.error (.badField field), w)
      | none => (.ok fields, w) := by
  unfold checkFields
  cases firstInvalid? fields <;> rfl

theorem bodyText_run (r : Response) :
    (bodyText r).run w = match r.body with
      | some bytes => (.ok (String.ofList (Utf8.decode bytes)), w)
      | none => (.error .transport, w) := by
  unfold bodyText
  cases r.body <;> rfl

/-! ### Requests -/

variable (method : Method) (address : Address) (fields : Fields) (body : String)

/-- **The run of a request**: a plain one is replied to if the network can be reached;
for a secure one a tunnel is asked for; all else comes to nothing. -/
theorem send_run :
    (send method address fields body).run w =
      if w.network.reachable then
        if address.scheme = "http" then
          (w.network.next.1.result, w.exchanging ⟨method, address.requested.text, fields, body⟩)
        else if address.scheme = "https" then (.error .transport, w.tunnelling address)
        else (.error .transport, w)
      else (.error .transport, w) := by
  have hget : run (get : Visit World) w = (.ok w, w) := rfl
  unfold send
  -- the cases are taken in the order in which the request is looked at
  rw [bind_run, hget]
  by_cases hreach : w.network.reachable = true
  · by_cases hplain : address.scheme = "http"
    · simp only [hreach, hplain, if_true, Bool.not_true, if_neg Bool.false_ne_true]
      change run (match w.network.next.1 with
        | .dropped => throw .transport
        | .answered r => pure r) (w.exchanging _) = _
      cases w.network.next.1 <;> rfl
    · by_cases hsecure : address.scheme = "https"
      · simp only [hreach, if_true, Bool.not_true, if_neg Bool.false_ne_true, if_neg hplain,
          if_pos hsecure]
        rfl
      · simp [hreach, hplain, hsecure]
  · simp [hreach]

/-- How a request goes. -/
inductive Sending : Except Failure Response × World → Prop
  /-- There is no network, or none for such an address. -/
  | unsent (lost : w.network.reachable = false ∨
      address.scheme ≠ "http" ∧ address.scheme ≠ "https") :
    Sending (.error .transport, w)
  /-- A tunnel is asked for and not given. -/
  | noTunnel (reachable : w.network.reachable = true) (secure : address.scheme = "https") :
    Sending (.error .transport, w.tunnelling address)
  /-- The connection closes without an answer. -/
  | dropped (reachable : w.network.reachable = true) (plain : address.scheme = "http")
    (reply : w.network.next.1 = .dropped) :
    Sending (.error .transport, w.exchanging ⟨method, address.requested.text, fields, body⟩)
  /-- There is an answer. -/
  | answered {r : Response} (answers : w.network.Answers address r) :
    Sending (.ok r, w.exchanging ⟨method, address.requested.text, fields, body⟩)

/-- A request goes in one of these ways. -/
theorem sending :
    Sending w method address fields body ((send method address fields body).run w) := by
  rw [send_run]
  by_cases hreach : w.network.reachable = true
  · rw [if_pos hreach]
    by_cases hplain : address.scheme = "http"
    · rw [if_pos hplain]
      cases hreply : w.network.next.1 with
      | dropped => exact .dropped hreach hplain hreply
      | answered r => exact .answered ⟨hreach, hplain, hreply⟩
    · rw [if_neg hplain]
      by_cases hsecure : address.scheme = "https"
      · rw [if_pos hsecure]
        exact .noTunnel hreach hsecure
      · rw [if_neg hsecure]
        exact .unsent (Or.inr ⟨hplain, hsecure⟩)
  · rw [if_neg hreach]
    exact .unsent (Or.inl (Bool.eq_false_iff.mpr hreach))

variable {w method address fields body}

/-- A plain request is sent if the network can be reached. -/
theorem Sending.eq_exchanging {result : Except Failure Response} {after : World}
    (h : Sending w method address fields body (result, after)) (hplain : address.scheme = "http")
    (hreach : w.network.reachable = true) :
    after = w.exchanging ⟨method, address.requested.text, fields, body⟩ := by
  cases h with
  | unsent hlost =>
    rcases hlost with hunreachable | ⟨hother, -⟩
    · rw [hreach] at hunreachable
      cases hunreachable
    · exact absurd hplain hother
  | noTunnel _ hsecure =>
    rw [hplain] at hsecure
    exact absurd hsecure (by decide)
  | dropped => rfl
  | answered => rfl

end

/-! ### What a visit does -/

section
variable {α : Type} (v : Visit α) (w : World)

/-- The requests that a visit sends, the first one first. -/
def requests : List Request :=
  (v.run w).2.sent.drop w.sent.length

/-- The events that a visit reports, the first one first. -/
def reports : List Event :=
  (v.run w).2.events.drop w.events.length

/-- The requests that a visit sends with the replies they meet.  A request for a tunnel
meets none. -/
def exchanges : List (Request × Reply) :=
  ((v.requests w).filter fun q => q.method != .connect).zipIdx.map fun q =>
    (q.1, w.network.reply q.2)

variable {v w}

theorem requests_eq {qs : List Request} (h : (v.run w).2.sent = w.sent ++ qs) :
    v.requests w = qs := by
  rw [requests, h, List.drop_left]

/-- What is exchanged for some requests. -/
theorem exchanges_eq {qs : List Request} (h : (v.run w).2.sent = w.sent ++ qs)
    (hplain : ∀ q ∈ qs, q.method ≠ .connect) :
    v.exchanges w = qs.zipIdx.map fun q => (q.1, w.network.reply q.2) := by
  have hall : qs.filter (fun q => q.method != .connect) = qs :=
    List.filter_eq_self.mpr fun q hq => bne_iff_ne.mpr (hplain q hq)
  rw [exchanges, requests_eq h, hall]

theorem map_exchanges {qs : List Request} (h : (v.run w).2.sent = w.sent ++ qs)
    (hplain : ∀ q ∈ qs, q.method ≠ .connect) : (v.exchanges w).map Prod.fst = v.requests w := by
  rw [exchanges_eq h hplain, requests_eq h, List.map_map]
  exact List.zipIdx_map_fst 0 qs

theorem reports_eq {es : List Event} (h : (v.run w).2.events = w.events ++ es) :
    v.reports w = es := by
  rw [reports, h, List.drop_left]

end

end Visit

end BadgeEntry
