import BadgeEntry.Proofs.Form.Decoding
import BadgeEntry.Proofs.Form.RoundTrip
import Mathlib.Data.Set.Card

/-!
# Fields after many changes

Fields are changed one by one, or all of them give way to those of some pairs or of a JSON text.
A field has the value that was assigned to it last, unless all fields gave way since then.  A text
that is refused changes nothing.

Nothing else is kept: fields that answer the same are the same, and are submitted as the same form.

## Main definitions

* `Change`, `Change.apply`, `after` — changes, and what comes of some of them.
* `Change.Assigns`, `Change.Replaces` — what a change does to a field, said without the fields.
* `IsLatest` — the value that was assigned last and still counts.

## Main results

* `get?_apply` — what one change does.
* `get?_after` — **a field has the value that was assigned to it last.**
* `after_isMap` — all that fields show after some changes.
-/

namespace BadgeEntry.Form

open Json Entries

/-- A change of the fields. -/
inductive Change where
  /-- There are no fields any more. -/
  | clear
  /-- A field gets a value, in place or in a copy that takes their place. -/
  | insert (field value : String)
  /-- The fields of some pairs take their place. -/
  | collect (pairs : List (String × String))
  /-- The fields of a JSON text take their place, if it is not refused. -/
  | read (text : String)
  deriving DecidableEq, Repr

/-- A JSON text that gives values to fields: an object all of whose values that count give one. -/
def IsFitting (text : String) (pairs : Members) : Prop :=
  IsObject text pairs ∧ ∀ name v, IsLast pairs name v → ∃ s, Gives v s

namespace Change

/-- The fields after a change. -/
def apply (u : Updates) : Change → Updates
  | .clear => .empty
  | .insert field value => u.insert field value
  | .collect pairs => .ofPairs pairs
  | .read text =>
    match Updates.decode text with
    | .ok v => v
    | .error _ => u

variable {field value : String}

/-- After the change a field has a value, whatever it had. -/
inductive Assigns (field value : String) : Change → Prop
  /-- The value is inserted. -/
  | insert : Assigns field value (.insert field value)
  /-- It is the last one that some pairs give to the field. -/
  | collect {pairs : List (String × String)} (hlast : IsLast pairs field value) :
      Assigns field value (.collect pairs)
  /-- It is the text of the last one in an object. -/
  | read {text : String} {pairs : Members} {v : Value} (hfits : IsFitting text pairs)
      (hlast : IsLast pairs field v) (hgives : Gives v value) : Assigns field value (.read text)

/-- After the change no field has what it had, unless it is assigned again. -/
inductive Replaces : Change → Prop
  /-- All fields are gone. -/
  | clear : Replaces .clear
  /-- There are those of some pairs instead. -/
  | collect (pairs : List (String × String)) : Replaces (.collect pairs)
  /-- There are those of a text instead, which is not refused. -/
  | read {text : String} {pairs : Members} (hfits : IsFitting text pairs) : Replaces (.read text)

/-- After the change it no longer matters what a field had. -/
def Settles (field : String) (c : Change) : Prop :=
  c.Replaces ∨ ∃ value, c.Assigns field value

end Change

/-- The fields after some changes, beginning with none. -/
def after (changes : List Change) : Updates :=
  changes.foldl Change.apply .empty

/-- The value that was assigned to a field last, with nothing after it that settles the field. -/
def IsLatest (changes : List Change) (field value : String) : Prop :=
  ∃ earlier c later, changes = earlier ++ c :: later ∧ c.Assigns field value ∧
    ∀ d ∈ later, ¬d.Settles field

theorem after_concat (changes : List Change) (c : Change) :
    after (changes ++ [c]) = c.apply (after changes) :=
  List.foldl_concat ..

variable {changes : List Change} {field value : String}

theorem not_isLatest_nil : ¬IsLatest [] field value := by
  rintro ⟨earlier, c, later, heq, -⟩
  exact List.append_ne_nil_of_right_ne_nil earlier (List.cons_ne_nil c later) heq.symm

/-- The last change assigns the value, or leaves the one that counted before. -/
theorem isLatest_concat {c : Change} : IsLatest (changes ++ [c]) field value ↔
    c.Assigns field value ∨ (¬c.Settles field ∧ IsLatest changes field value) :=
  exists_last_concat

namespace Updates

/-! ### One change -/

/-- A text that is not refused gives its values to fields, and takes the place of all. -/
theorem apply_read_of_ok {text : String} {u : Updates} (h : decode text = .ok u)
    (field value : String) :
    (Change.read text).Replaces ∧
      (u.get? field = some value ↔ (Change.read text).Assigns field value) := by
  have hobject : ∃ pairs, IsObject text pairs := by
    by_contra hnone
    obtain ⟨fault, hfault⟩ := exists_of_forall_not_isObject (not_exists.mp hnone)
    rw [hfault] at h
    cases h
  obtain ⟨pairs, hobject⟩ := hobject
  have hfits : IsFitting text pairs := ⟨hobject, ((decode_eq_ok_iff hobject).mp h).1⟩
  refine ⟨.read hfits, ?_⟩
  constructor
  · intro hget
    obtain ⟨v, hlast, hgives⟩ := (((decode_eq_ok_iff hobject).mp h).2 field value).mp hget
    exact .read hfits hlast hgives
  · -- the text may be an object in more than one way, but it is decoded in one
    rintro (_ | _ | ⟨hother, hlast, hgives⟩)
    exact (((decode_eq_ok_iff hother.1).mp h).2 field value).mpr ⟨_, hlast, hgives⟩

/-- A text that is refused gives nothing. -/
theorem not_settles_read_of_error {text : String} {fault : DecodeFault}
    (h : decode text = .error fault) (field : String) : ¬(Change.read text).Settles field := by
  have hnone {pairs : Members} : ¬IsFitting text pairs := by
    intro hfits
    obtain ⟨u, hu⟩ := exists_decode_of_forall_gives hfits.1 hfits.2
    rw [h] at hu
    cases hu
  rintro ((_ | _ | hfits) | ⟨value, (_ | _ | ⟨hfits, -, -⟩)⟩)
  · exact hnone hfits
  · exact hnone hfits

/-- What one change does to a field. -/
theorem get?_apply (u : Updates) (c : Change) (field value : String) :
    (c.apply u).get? field = some value ↔
      c.Assigns field value ∨ (¬c.Settles field ∧ u.get? field = some value) := by
  cases c with
  | clear =>
    refine iff_of_false nofun ?_
    rintro (hassigns | ⟨hother, -⟩)
    · cases hassigns
    · exact hother (Or.inl .clear)
  | insert name new =>
    change (u.insert name new).get? field = _ ↔ _
    rw [get?_insert]
    split
    · next hname =>
      subst hname
      rw [Option.some_inj]
      constructor
      · rintro rfl
        exact Or.inl .insert
      · rintro (hassigns | ⟨hother, -⟩)
        · cases hassigns
          rfl
        · exact absurd (Or.inr ⟨new, .insert⟩) hother
    · next hname =>
      have hother : ¬(Change.insert name new).Settles field := by
        rintro (hreplaces | ⟨_, hassigns⟩)
        · cases hreplaces
        · cases hassigns
          exact hname rfl
      refine ⟨fun h => Or.inr ⟨hother, h⟩, ?_⟩
      rintro (hassigns | ⟨-, h⟩)
      · exact absurd (Or.inr ⟨value, hassigns⟩) hother
      · exact h
  | collect pairs =>
    change Entries.get? field (Entries.ofPairs pairs) = _ ↔ _
    rw [get?_ofPairs_eq_some_iff]
    constructor
    · exact fun hlast => Or.inl (.collect hlast)
    · rintro (hassigns | ⟨hother, -⟩)
      · obtain _ | hlast := hassigns
        exact hlast
      · exact absurd (Or.inl (.collect pairs)) hother
  | read text =>
    rw [Change.apply]
    cases h : decode text with
    | ok v =>
      obtain ⟨hreplaces, hassigns⟩ := apply_read_of_ok h field value
      rw [hassigns]
      refine ⟨Or.inl, ?_⟩
      rintro (hassigns | ⟨hother, -⟩)
      · exact hassigns
      · exact absurd (Or.inl hreplaces) hother
    | error fault =>
      have hother := not_settles_read_of_error h field
      refine ⟨fun h => Or.inr ⟨hother, h⟩, ?_⟩
      rintro (hassigns | ⟨-, h⟩)
      · exact absurd (Or.inr ⟨value, hassigns⟩) hother
      · exact h

/-! ### Many changes -/

/-- **A field has the value that was assigned to it last.** -/
theorem get?_after (changes : List Change) (field value : String) :
    (after changes).get? field = some value ↔ IsLatest changes field value := by
  induction changes using List.reverseRecOn with
  | nil => exact iff_of_false nofun not_isLatest_nil
  | append_singleton changes c ih => rw [after_concat, get?_apply, isLatest_concat, ih]

/-- There are as many fields as names with a value. -/
theorem size_eq_ncard (u : Updates) :
    u.size = {field | ∃ value, u.get? field = some value}.ncard := by
  have hnames : {field | ∃ value, u.get? field = some value} =
      ((u.fields.map Prod.fst).toFinset : Set String) := by
    ext field
    simp only [Set.mem_ofPred_eq, List.coe_toFinset, List.mem_map, Prod.exists, exists_and_right,
      exists_eq_right]
    exact exists_congr fun value => get?_eq_some_iff_mem u.ordered
  rw [hnames, Set.ncard_coe_finset, List.toFinset_card_of_nodup u.ordered.nodup_fst,
    List.length_map, size]

/-- Fields are submitted as the same form just if they are the same. -/
theorem encode_eq_iff {u v : Updates} (token : Option String) :
    u.encode token = v.encode token ↔ u = v := by
  refine ⟨fun h => ?_, fun h => h ▸ rfl⟩
  have hpairs : u.pairs token = v.pairs token := by
    rw [← decodePairs_toList_encode, h, decodePairs_toList_encode]
  exact (pairs_inj hpairs).1

/-- **Fields are the map of what was assigned last.**  They are listed in the order of the bytes of
their names, each once, and counted.  A text that is refused leaves them as they were.  And it
never shows in which way they came about: they are the same as other fields just if they answer
the same, and just if they are submitted as the same form, with whatever token. -/
theorem after_isMap (changes : List Change) :
    (∀ field value, (after changes).get? field = some value ↔ IsLatest changes field value) ∧
    ((after changes).fields.map fun field => Utf8.encode field.1.toList).Pairwise (· < ·) ∧
    (∀ field value, (field, value) ∈ (after changes).fields ↔ IsLatest changes field value) ∧
    (after changes).size = {field | ∃ value, IsLatest changes field value}.ncard ∧
    ((after changes).isEmpty = true ↔ (after changes).size = 0) ∧
    (∀ text fault, decode text = .error fault →
      after (changes ++ [.read text]) = after changes) ∧
    ∀ others,
      (after changes = after others ↔
        ∀ field, (after changes).get? field = (after others).get? field) ∧
      ∀ token, (after changes = after others ↔
        (after changes).encode token = (after others).encode token) := by
  refine ⟨get?_after changes, pairwise_encode_lt _, fun field value => ?_, ?_, ?_,
    fun text fault h => ?_, fun others => ⟨⟨fun h _ => h ▸ rfl, ext_get?⟩, fun token => ?_⟩⟩
  · rw [← get?_after]
    exact (get?_eq_some_iff_mem (after changes).ordered).symm
  · simp only [size_eq_ncard, get?_after]
  · exact List.isEmpty_iff_length_eq_zero
  · rw [after_concat, Change.apply, h]
  · exact (encode_eq_iff token).symm

/-- The second text is refused. -/
example : (after [.insert "c" "1", .read "\x7b\"b\": 2, \"a\": true\x7d", .read "[]",
    .insert "a" "3"]).fields = [("a", "3"), ("b", "2")] := by
  decide +kernel

end Updates

end BadgeEntry.Form
