import BadgeEntry.Proofs.Form.Decoding

/-!
# Judging the members before or after the end of the text

A text can be decoded in two ways.  One reads it to its end and then judges the members of the
object; the other judges them as soon as the object is closed, and looks at what is behind it
afterwards.  The order of these two checks shows only where both fail: an object with a refused
member and with more than blanks behind it is refused for what is behind it in one way and for the
member in the other.

## Main definitions

* `BeginsWith` — texts with an object at their front.
* `Updates.judged` — what is made of the members of an object.

## Main results

* `leadingObject_eq_ok_iff_beginsWith` — the object at the front of a text is read exactly.
* `Updates.decode_eq`, `Updates.decodeLeading_eq` — the two orders of the checks.
* `Updates.decodeLeading_agrees` — **both ways agree** but for the texts that fail both checks.
-/

namespace BadgeEntry.Json

/-- Whether an object stands at the front of a text, perhaps behind blanks: `pairs` are its members
as they are written, and `after` is what is behind it. -/
inductive BeginsWith (text : String) (pairs : Members) (after : List Char) : Prop
  | mk {before cs : List Char} (leading : IsBlank before)
    (members : Enclosed (SpellsMember (Spells (bracketLimit - 1))) cs pairs)
    (whole : text.toList = before ++ '\x7b' :: (cs ++ '\x7d' :: after))

/-- The object at the front of a text is read exactly. -/
theorem leadingObject_eq_ok_iff_beginsWith {text : String} {ms : Members} {after : List Char} :
    leadingObject text.toList = .ok (ms, after) ↔
      ∃ pairs, BeginsWith text pairs after ∧ ms = Entries.ofPairs pairs := by
  rw [leadingObject_eq_ok_iff]
  constructor
  · rintro ⟨gap, inner, pairs, hgap, hwhole, hinner, rfl⟩
    exact ⟨pairs, .mk hgap hinner hwhole, rfl⟩
  · rintro ⟨pairs, ⟨hgap, hinner, hwhole⟩, rfl⟩
    exact ⟨_, _, pairs, hgap, hwhole, hinner, rfl⟩

/-- Where more than blanks is left, something follows. -/
theorem expectEnd_of_not_isBlank {cs : List Char} (h : ¬IsBlank cs) :
    ∃ stop, expectEnd cs = .error stop ∧ stop.reason = .trailingText := by
  unfold expectEnd
  split
  · next hskip => exact absurd (skipBlanks_eq_nil_iff.mp hskip) h
  · exact ⟨_, rfl, rfl⟩

end BadgeEntry.Json

namespace BadgeEntry.Form.Updates

open Json

variable {text : String} {pairs : Members} {after : List Char}

/-- What is made of the members of an object. -/
def judged (members : Members) : Except DecodeFault Updates :=
  (ofMembers members).mapError .refused

/-- A step that fails with a place in the text. -/
def placed {α : Type} (text : String) (result : Except Stop α) : Except DecodeFault α :=
  (located text.toList result).mapError .json

/-- The end of the text is looked for before the members are judged. -/
theorem decode_eq (text : String) : decode text =
    placed text (leadingObject text.toList) >>= fun read =>
      placed text (expectEnd read.2) >>= fun _ => judged read.1 := by
  unfold decode readObject
  cases leadingObject text.toList with
  | error stop => rfl
  | ok read =>
    obtain ⟨ms, rest⟩ := read
    cases hend : expectEnd rest with
    | error stop => simp [bind, Except.bind, hend, placed, located, Except.mapError]
    | ok _ => simp [bind, Except.bind, hend, placed, located, Except.mapError, judged]; rfl

/-- The members are judged before the end of the text is looked for. -/
theorem decodeLeading_eq (text : String) : decodeLeading text =
    placed text (leadingObject text.toList) >>= fun read =>
      judged read.1 >>= fun u => placed text (expectEnd read.2) >>= fun _ => .ok u := rfl

/-! ### Texts with an object at their front -/

theorem judged_of_isLeastRefused {r : Refusal} (h : IsLeastRefused pairs r) :
    judged (Entries.ofPairs pairs) = .error (.refused r) := by
  rw [judged, (ofMembers_eq_error_iff pairs).mpr h]
  rfl

section
variable (h : BeginsWith text pairs after)
include h

theorem decode_of_beginsWith : decode text =
    placed text (expectEnd after) >>= fun _ => judged (Entries.ofPairs pairs) := by
  rw [decode_eq, leadingObject_eq_ok_iff_beginsWith.mpr ⟨pairs, h, rfl⟩]
  rfl

theorem decodeLeading_of_beginsWith : decodeLeading text =
    judged (Entries.ofPairs pairs) >>= fun u =>
      placed text (expectEnd after) >>= fun _ => .ok u := by
  rw [decodeLeading_eq, leadingObject_eq_ok_iff_beginsWith.mpr ⟨pairs, h, rfl⟩]
  rfl

/-- If nothing but blanks is behind the object, both ways come to what is made of its members. -/
theorem decode_eq_decodeLeading_of_isBlank (hend : IsBlank after) :
    decode text = decodeLeading text := by
  rw [decode_of_beginsWith h, decodeLeading_of_beginsWith h, expectEnd_eq_ok_iff.mpr hend]
  cases judged (Entries.ofPairs pairs) <;> rfl

/-- If more is behind it, one way says so, and the other only if no member is refused. -/
theorem decode_of_not_isBlank (hmore : ¬IsBlank after) :
    ∃ fault, fault.reason = .trailingText ∧ decode text = .error (.json fault) ∧
      decodeLeading text = judged (Entries.ofPairs pairs) >>= fun _ => .error (.json fault) := by
  obtain ⟨stop, hstop, hreason⟩ := expectEnd_of_not_isBlank hmore
  refine ⟨stop.locate text.toList, hreason, ?_, ?_⟩
  · rw [decode_of_beginsWith h, hstop]
    rfl
  · rw [decodeLeading_of_beginsWith h, hstop]
    rfl

end

/-- Without an object at the front of a text, both ways fail alike. -/
theorem decode_eq_decodeLeading_of_forall_not (h : ∀ pairs after, ¬BeginsWith text pairs after) :
    ∃ fault, decode text = .error (.json fault) ∧ decodeLeading text = .error (.json fault) := by
  rw [decode_eq, decodeLeading_eq]
  cases hread : leadingObject text.toList with
  | ok read =>
    obtain ⟨pairs, hbegins, -⟩ := leadingObject_eq_ok_iff_beginsWith.mp hread
    exact absurd hbegins (h pairs _)
  | error stop => exact ⟨_, rfl, rfl⟩

/-! ### The two ways -/

/-- Whether both checks fail: an object at the front of a text has a member that is refused, and
more than blanks is behind it.  The refusal is the one for the least name. -/
def FailsBoth (text : String) (r : Refusal) : Prop :=
  ∃ pairs after, BeginsWith text pairs after ∧ ¬IsBlank after ∧ IsLeastRefused pairs r

/-- Where both checks fail, each way reports its first one. -/
theorem FailsBoth.decode_ne_decodeLeading {r : Refusal} (h : FailsBoth text r) :
    (∃ fault, fault.reason = .trailingText ∧ decode text = .error (.json fault)) ∧
      decodeLeading text = .error (.refused r) := by
  obtain ⟨pairs, after, hbegins, hmore, hleast⟩ := h
  obtain ⟨fault, hreason, hdecode, hleading⟩ := decode_of_not_isBlank hbegins hmore
  rw [judged_of_isLeastRefused hleast] at hleading
  exact ⟨⟨fault, hreason, hdecode⟩, hleading⟩

/-- Everywhere else they come to the same. -/
theorem decode_eq_decodeLeading (h : ∀ r, ¬FailsBoth text r) :
    decode text = decodeLeading text := by
  by_cases hbegins : ∃ pairs after, BeginsWith text pairs after
  · obtain ⟨pairs, after, hbegins⟩ := hbegins
    by_cases hend : IsBlank after
    · exact decode_eq_decodeLeading_of_isBlank hbegins hend
    · obtain ⟨fault, -, hdecode, hleading⟩ := decode_of_not_isBlank hbegins hend
      cases hmembers : ofMembers (Entries.ofPairs pairs) with
      | error r =>
        have hleast := isLeastRefused_of_ofMembers hmembers
        exact absurd ⟨pairs, after, hbegins, hend, hleast⟩ (h r)
      | ok u =>
        rw [judged, hmembers] at hleading
        rw [hdecode, hleading]
        rfl
  · obtain ⟨fault, hdecode, hleading⟩ := decode_eq_decodeLeading_of_forall_not
      fun pairs after hbegins' => hbegins ⟨pairs, after, hbegins'⟩
    rw [hdecode, hleading]

/-- **Both ways agree** on what a text gives, on the refusal of a whole object, and on what is no
JSON.  Where an object has a refused member and something behind it, one way says that something
follows and the other which member is refused; this is the only difference. -/
theorem decodeLeading_agrees (text : String) :
    (∀ u, decode text = .ok u ↔ decodeLeading text = .ok u) ∧
    (∀ r, decode text = .error (.refused r) → decodeLeading text = .error (.refused r)) ∧
    (∀ fault, decode text = .error (.json fault) → (∀ r, ¬FailsBoth text r) →
      decodeLeading text = .error (.json fault)) ∧
    ∀ r, FailsBoth text r →
      (∃ fault, decode text = .error (.json fault) ∧
        fault.reason.message = "trailing characters") ∧
      decodeLeading text = .error (.refused r) := by
  by_cases hboth : ∃ r, FailsBoth text r
  · obtain ⟨r, hboth⟩ := hboth
    obtain ⟨⟨fault, hreason, hdecode⟩, hleading⟩ := hboth.decode_ne_decodeLeading
    refine ⟨fun u => ?_, fun r' h => ?_, fun _ _ hnot => absurd hboth (hnot r), fun r' hboth' => ?_⟩
    · rw [hdecode, hleading]
      exact iff_of_false nofun nofun
    · rw [hdecode] at h
      cases h
    · exact ⟨⟨fault, hdecode, congrArg Reason.message hreason⟩, hboth'.decode_ne_decodeLeading.2⟩
  · rw [not_exists] at hboth
    rw [decode_eq_decodeLeading hboth]
    exact ⟨fun u => Iff.rfl, fun r h => h, fun fault h _ => h, fun r h => absurd h (hboth r)⟩

example : decodeLeading "\x7b\"a\": null\x7d x" = .error (.refused (.null "a")) := by
  decide +kernel

end BadgeEntry.Form.Updates
