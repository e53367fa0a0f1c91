import BadgeEntry.Proofs.World.Visit

/-!
# Visits and the replies they meet

A visit asks the network for one reply after the other and looks at nothing else of it.
So what comes of a visit is determined by what is on the disk, by whether the network can
be reached, and by the replies that it meets; and two visits that meet the same replies
on the same disk send the same requests.  This goes for a sequence if it goes for its
parts, and it goes for the basic steps.

## Main definitions

* `Network.take`, `Network.drop` — the next replies, and the network after them.
* `Visit.Upshot` — what comes of a visit.
* `Visit.Determined` — a visit that sends requests of a kind, and is determined by the
  replies it meets.
* `Visit.met` — these replies.

## Main results

* `Visit.Determined.bind` — sequences.
* `Visit.Determined.exists_upshot` — **two visits that meet the same replies on the same
  disk come to the same.**
-/

namespace BadgeEntry

open Http Url

/-! ### Replies -/

namespace Network

/-- The next replies. -/
def take (n : Network) (k : Nat) : List Reply :=
  (List.range k).map n.reply

/-- The network after some replies. -/
def drop (n : Network) : Nat → Network
  | 0 => n
  | k + 1 => n.next.2.drop k

@[simp] theorem length_take (n : Network) (k : Nat) : (n.take k).length = k := by
  rw [take, List.length_map, List.length_range]

@[simp] theorem drop_reachable (n : Network) (k : Nat) : (n.drop k).reachable = n.reachable := by
  induction k generalizing n with
  | zero => rfl
  | succ k ih => rw [drop, ih, next_reachable]

theorem drop_add (n : Network) (j k : Nat) : n.drop (j + k) = (n.drop j).drop k := by
  induction j generalizing n with
  | zero => rw [Nat.zero_add, drop]
  | succ j ih => rw [Nat.succ_add, drop, drop, ih]

theorem reply_drop (n : Network) (k i : Nat) : (n.drop k).reply i = n.reply (k + i) := by
  induction k generalizing n with
  | zero => rw [Nat.zero_add, drop]
  | succ k ih => rw [drop, ih, reply_next, Nat.succ_add]

theorem take_add (n : Network) (j k : Nat) : n.take (j + k) = n.take j ++ (n.drop j).take k := by
  have hreply : (fun i => (n.drop j).reply i) = fun i => n.reply (j + i) :=
    funext (n.reply_drop j)
  rw [take, List.range_add, List.map_append, List.map_map, take, take]
  exact congrArg _ (congrArg (List.map · _) hreply.symm)

theorem take_one (n : Network) : n.take 1 = [n.next.1] := by
  rw [← n.reply_zero]
  rfl

end Network

/-- How many replies some requests meet.  A request for a tunnel meets none. -/
def Http.replyCount (qs : List Request) : Nat :=
  qs.countP fun q => q.method != .connect

@[simp] theorem Http.replyCount_append (qs rs : List Request) :
    replyCount (qs ++ rs) = replyCount qs + replyCount rs :=
  List.countP_append

/-! ### What comes of a visit -/

/-- What comes of a visit: its result, what it sends and reports, and what is on the disk
afterwards. -/
structure Visit.Upshot (α : Type) where
  result : Except Failure α
  sent : List Request
  events : List Event
  disk : Disk

namespace World

/-- The world that a visit leaves behind. -/
def after {α : Type} (w : World) (u : Visit.Upshot α) : World :=
  ⟨w.network.drop (replyCount u.sent), u.disk, w.sent ++ u.sent, w.events ++ u.events⟩

/-- Two worlds that a visit cannot tell apart that meets `k` replies. -/
structure Agree (k : Nat) (w w' : World) : Prop where
  disk : w'.disk = w.disk
  reachable : w'.network.reachable = w.network.reachable
  replies : w'.network.take k = w.network.take k

theorem Agree.refl (k : Nat) (w : World) : w.Agree k w := ⟨rfl, rfl, rfl⟩

@[simp] theorem reporting_nil (w : World) : w.reporting [] = w := by
  rw [reporting, List.append_nil]

end World

namespace Visit

variable {α β : Type} {kind : Request → Prop}

/-- Whether a visit sends requests of one kind only, and is determined by the disk, by
whether the network can be reached, and by the replies that it meets. -/
def Determined (kind : Request → Prop) (v : Visit α) : Prop :=
  ∀ w : World, ∃ u : Upshot α, (∀ q ∈ u.sent, kind q) ∧
    ∀ w', w.Agree (replyCount u.sent) w' → v.run w' = (u.result, w'.after u)

/-- A visit that sends nothing and has one result is determined. -/
theorem determined_of_run {v : Visit α} {result : Except Failure α} (es : List Event)
    (h : ∀ w, v.run w = (result, w.reporting es)) : v.Determined kind := by
  intro w
  refine ⟨⟨result, [], es, w.disk⟩, List.forall_mem_nil kind, fun w' hagree => ?_⟩
  rw [h, World.after, List.append_nil, ← hagree.disk]
  rfl

theorem determined_pure (a : α) : (pure a : Visit α).Determined kind :=
  determined_of_run [] fun w => by rw [pure_run, w.reporting_nil]

theorem determined_throw (e : Failure) : (throw e : Visit α).Determined kind :=
  determined_of_run [] fun w => by rw [throw_run, w.reporting_nil]

/-- What stands behind a failure does not matter. -/
theorem determined_throw_bind (e : Failure) (f : α → Visit β) :
    ((throw e : Visit α) >>= f).Determined kind :=
  determined_of_run [] fun w => by rw [bind_run, throw_run, w.reporting_nil]

theorem determined_report (e : Event) : (report e).Determined kind :=
  determined_of_run [e] fun w => report_run w e

theorem determined_reportAll (es : List Event) : (reportAll es).Determined kind :=
  determined_of_run es fun w => reportAll_run w es

theorem determined_checkFields (fields : Fields) : (checkFields fields).Determined kind := by
  unfold checkFields
  cases firstInvalid? fields with
  | none => exact determined_pure _
  | some f => exact determined_throw _

theorem determined_bodyText (r : Response) : (bodyText r).Determined kind := by
  unfold bodyText
  cases r.body with
  | none => exact determined_throw _
  | some bytes => exact determined_pure _

theorem determined_ofExcept {ε : Type} (fail : ε → Failure) (x : Except ε α) :
    (ofExcept fail x).Determined kind := by
  cases x with
  | error e => exact determined_throw _
  | ok a => exact determined_pure a

/-- What a visit puts on the disk is determined. -/
theorem determined_putDisk (disk : Disk) :
    (modify fun w => { w with disk } : Visit Unit).Determined kind := by
  intro w
  refine ⟨⟨.ok (), [], [], disk⟩, List.forall_mem_nil kind, fun w' _ => ?_⟩
  rw [World.after, List.append_nil, List.append_nil]
  rfl

/-- A visit that goes on from what is on the disk is determined. -/
theorem determined_onDisk {f : Disk → Visit α} (h : ∀ disk, (f disk).Determined kind) :
    (get >>= fun w => f w.disk : Visit α).Determined kind := by
  intro w
  obtain ⟨u, hkind, hrun⟩ := h w.disk w
  refine ⟨u, hkind, fun w' hagree => ?_⟩
  have hget : run (get : Visit World) w' = (.ok w', w') := rfl
  rw [bind_run, hget, ← hrun w' hagree, ← hagree.disk]

/-- **A request is determined by its reply.** -/
theorem determined_send {method : Method} {address : Address} {fields : Fields} {body : String}
    (hmethod : method ≠ .connect) (hkind : kind ⟨method, address.requested.text, fields, body⟩)
    (htunnel : kind ⟨.connect, address.hostAndPort, [], ""⟩) :
    (send method address fields body).Determined kind := by
  intro w
  -- nothing is sent without a network, or to an address of another kind
  have hunsent (hrun : ∀ w', w.Agree 0 w' →
      (send method address fields body).run w' = (.error .transport, w')) :
      ∃ u : Upshot Response, (∀ q ∈ u.sent, kind q) ∧ ∀ w', w.Agree (replyCount u.sent) w' →
        (send method address fields body).run w' = (u.result, w'.after u) := by
    refine ⟨⟨.error .transport, [], [], w.disk⟩, List.forall_mem_nil kind, fun w' hagree => ?_⟩
    rw [hrun w' hagree, World.after, List.append_nil, List.append_nil, ← hagree.disk]
    rfl
  by_cases hreach : w.network.reachable = true
  · by_cases hplain : address.scheme = "http"
    · have hcount : replyCount [⟨method, address.requested.text, fields, body⟩] = 1 := by
        rw [replyCount, List.countP_singleton, if_pos (bne_iff_ne.mpr hmethod)]
      refine ⟨⟨w.network.next.1.result, [⟨method, address.requested.text, fields, body⟩], [],
        w.disk⟩, List.forall_mem_singleton.mpr hkind, fun w' hagree => ?_⟩
      have hreply := hagree.replies
      rw [hcount, Network.take_one, Network.take_one] at hreply
      rw [send_run, if_pos (hagree.reachable.trans hreach), if_pos hplain, (List.cons.inj hreply).1,
        World.after, hcount, List.append_nil, ← hagree.disk]
      rfl
    · by_cases hsecure : address.scheme = "https"
      · refine ⟨⟨.error .transport, [⟨.connect, address.hostAndPort, [], ""⟩], [], w.disk⟩,
          List.forall_mem_singleton.mpr htunnel, fun w' hagree => ?_⟩
        rw [send_run, if_pos (hagree.reachable.trans hreach), if_neg hplain, if_pos hsecure,
          World.after, List.append_nil, ← hagree.disk]
        rfl
      · refine hunsent fun w' hagree => ?_
        rw [send_run, if_pos (hagree.reachable.trans hreach), if_neg hplain, if_neg hsecure]
  · refine hunsent fun w' hagree => ?_
    rw [send_run, hagree.reachable, if_neg hreach]

/-- What comes of a sequence whose first part succeeds. -/
theorem after_after {u : Upshot α} {u' : Upshot β} (w : World) :
    (w.after u).after u' =
      w.after ⟨u'.result, u.sent ++ u'.sent, u.events ++ u'.events, u'.disk⟩ := by
  simp only [World.after, replyCount_append, Network.drop_add, List.append_assoc]

/-- **A sequence is determined** if its parts are. -/
theorem Determined.bind {v : Visit α} {f : α → Visit β} (hv : v.Determined kind)
    (hf : ∀ a, (f a).Determined kind) : (v >>= f).Determined kind := by
  intro w
  obtain ⟨u, hkind, hrun⟩ := hv w
  cases hresult : u.result with
  | error e =>
    refine ⟨⟨.error e, u.sent, u.events, u.disk⟩, hkind, fun w' hagree => ?_⟩
    rw [bind_run, hrun w' hagree, hresult]
    rfl
  | ok a =>
    obtain ⟨u', hkind', hrun'⟩ := hf a (w.after u)
    refine ⟨⟨u'.result, u.sent ++ u'.sent, u.events ++ u'.events, u'.disk⟩, ?_,
      fun w' hagree => ?_⟩
    · intro q hq
      rcases List.mem_append.mp hq with hfirst | hrest
      · exact hkind q hfirst
      · exact hkind' q hrest
    · -- the replies to both parts are those to the first one and, after them, to the second
      have hreplies := hagree.replies
      rw [replyCount_append, Network.take_add, Network.take_add] at hreplies
      obtain ⟨hfirst, hrest⟩ := List.append_inj hreplies (by
        rw [Network.length_take, Network.length_take])
      have hnext : (w.after u).Agree (replyCount u'.sent) (w'.after u) := by
        refine ⟨rfl, ?_, hrest⟩
        rw [World.after, World.after, Network.drop_reachable, Network.drop_reachable,
          hagree.reachable]
      rw [bind_run, hrun w' ⟨hagree.disk, hagree.reachable, hfirst⟩, hresult]
      exact (hrun' _ hnext).trans (Prod.ext rfl (after_after w'))

/-! ### Two visits -/

/-- The replies that a visit meets. -/
def met (v : Visit α) (w : World) : List Reply :=
  w.network.take (replyCount (v.requests w))

/-- What comes of a determined visit. -/
theorem Determined.exists_run {v : Visit α} (h : v.Determined kind) (w : World) :
    ∃ u : Upshot α, (∀ q ∈ u.sent, kind q) ∧ v.run w = (u.result, w.after u) := by
  obtain ⟨u, hkind, hrun⟩ := h w
  exact ⟨u, hkind, hrun w (World.Agree.refl _ w)⟩

/-- A determined visit does not look at what was reported before. -/
theorem Determined.run_reporting {v : Visit α} (h : v.Determined kind) (w : World)
    (es : List Event) :
    ∃ fs, v.run (w.reporting es) = ((v.run w).1, { (v.run w).2 with events := fs }) := by
  obtain ⟨u, -, hrun⟩ := h w
  rw [hrun w (World.Agree.refl _ w), hrun (w.reporting es) ⟨rfl, rfl, rfl⟩]
  exact ⟨_, rfl⟩

/-- **Two visits that meet the same replies on the same disk come to the same.** -/
theorem Determined.exists_upshot {v : Visit α} (h : v.Determined kind) {w w' : World}
    (hdisk : w'.disk = w.disk) (hreach : w'.network.reachable = w.network.reachable)
    (hmet : v.met w' = v.met w) :
    ∃ u : Upshot α, v.run w = (u.result, w.after u) ∧ v.run w' = (u.result, w'.after u) := by
  obtain ⟨u, -, hrun⟩ := h w
  obtain ⟨u', -, hrun'⟩ := h w'
  have hown := hrun w (World.Agree.refl _ w)
  have hown' := hrun' w' (World.Agree.refl _ w')
  have hsent : v.requests w = u.sent := requests_eq (by rw [hown]; rfl)
  have hsent' : v.requests w' = u'.sent := requests_eq (by rw [hown']; rfl)
  rw [met, met, hsent, hsent'] at hmet
  -- as many replies are met in both worlds
  have hcount := congrArg List.length hmet
  rw [Network.length_take, Network.length_take] at hcount
  rw [hcount] at hmet
  exact ⟨u, hown, hrun w' ⟨hdisk, hreach, hmet⟩⟩

end Visit

end BadgeEntry
