import BadgeEntry.Proofs.Form.Decoding
import BadgeEntry.Proofs.Json.Written

/-!
# Updates are read back from a JSON object

Updates are written as a compact JSON object of texts and read back from it, whatever characters
the names and the values have.  The order of the members makes no difference, and neither do
members in front of a field's own one with the same name and some other value: what is written is
in the grammar, and there the value that counts of each name is its last one.

## Main definitions

* `asObject` — pairs as an object of texts.
* `Prefaced` — members with a pair's own member behind all others of its name.
* `IsReadable` — values that may stand in an object.

## Main results

* `Prefaced.isLast_iff` — just the own members count.
* `Updates.decode_render` — **updates are read back from a JSON object.**
-/

namespace BadgeEntry.Form

open Json Entries

/-- Pairs as an object of texts. -/
def asObject (own : List (String × String)) : Value :=
  .object (own.map fun p => (p.1, .text p.2))

/-- Members that are made from pairs: each pair has its own member, in the order of the pairs, and
in front of it there may be members with its name and a value of some kind. -/
inductive Prefaced (kind : Value → Prop) : List (String × String) → Members → Prop
  /-- No pairs are left, and no members. -/
  | nil : Prefaced kind [] []
  /-- The own member of the first pair. -/
  | own {name s : String} {own : List (String × String)} {ms : Members}
    (rest : Prefaced kind own ms) : Prefaced kind ((name, s) :: own) ((name, .text s) :: ms)
  /-- A member in front of the own one of the pair with its name. -/
  | extra {name s : String} {v : Value} {own : List (String × String)} {ms : Members}
    (ahead : (name, s) ∈ own) (fits : kind v) (rest : Prefaced kind own ms) :
    Prefaced kind own ((name, v) :: ms)

/-- Whether a value may stand in an object that is read. -/
def IsReadable (v : Value) : Prop :=
  v.depth < bracketLimit ∧ v.IsProper

/-! ### The members that count -/

namespace Prefaced

variable {kind : Value → Prop} {own : List (String × String)} {ms : Members}

theorem of_own (own : List (String × String)) :
    Prefaced kind own (own.map fun p => (p.1, .text p.2)) := by
  induction own with
  | nil => exact .nil
  | cons p own ih => exact .own ih

/-- The own member of a pair is there. -/
theorem text_mem (h : Prefaced kind own ms) {name s : String} (hmem : (name, s) ∈ own) :
    (name, .text s) ∈ ms := by
  induction h with
  | nil => exact absurd hmem List.not_mem_nil
  | own _ ih =>
    rcases List.mem_cons.mp hmem with heq | hmem
    · obtain ⟨rfl, rfl⟩ := Prod.mk.inj heq
      exact List.mem_cons_self
    · exact List.mem_cons_of_mem _ (ih hmem)
  | extra _ _ _ ih => exact List.mem_cons_of_mem _ (ih hmem)

/-- There are no members with other names. -/
theorem fst_mem (h : Prefaced kind own ms) {m : String × Value} (hmem : m ∈ ms) :
    m.1 ∈ own.map Prod.fst := by
  induction h with
  | nil => exact absurd hmem List.not_mem_nil
  | own _ ih =>
    rcases List.mem_cons.mp hmem with rfl | hmem
    · exact List.mem_cons_self
    · exact List.mem_cons_of_mem _ (ih hmem)
  | extra ahead _ _ ih =>
    rcases List.mem_cons.mp hmem with rfl | hmem
    · exact List.mem_map_of_mem ahead
    · exact ih hmem

/-- **Just the own members count**, if no two pairs have the same name. -/
theorem isLast_iff (h : Prefaced kind own ms) (hnames : (own.map Prod.fst).Nodup) {name : String}
    {v : Value} : IsLast ms name v ↔ ∃ s, (name, s) ∈ own ∧ v = .text s := by
  induction h with
  | nil =>
    refine iff_of_false not_isLast_nil ?_
    rintro ⟨s, hmem, -⟩
    exact absurd hmem List.not_mem_nil
  | @own first t own ms hrest ih =>
    obtain ⟨hnot, hnames⟩ := List.nodup_cons.mp hnames
    rw [isLast_cons, ih hnames]
    constructor
    · rintro (⟨s, hmem, hv⟩ | ⟨heq, -⟩)
      · exact ⟨s, List.mem_cons_of_mem _ hmem, hv⟩
      · obtain ⟨rfl, rfl⟩ := Prod.mk.inj heq
        exact ⟨t, List.mem_cons_self, rfl⟩
    · rintro ⟨s, hmem, rfl⟩
      rcases List.mem_cons.mp hmem with heq | hmem
      · obtain ⟨rfl, rfl⟩ := Prod.mk.inj heq
        -- no member of the other pairs has this name
        exact Or.inr ⟨rfl, fun q hq hname => hnot (hname ▸ hrest.fst_mem hq)⟩
      · exact Or.inl ⟨s, hmem, rfl⟩
  | @extra other t w own ms ahead _ hrest ih =>
    rw [isLast_cons, ih hnames]
    refine or_iff_left ?_
    -- the own member is still to come
    rintro ⟨heq, hafter⟩
    exact hafter _ (hrest.text_mem ahead) (Prod.mk.inj heq).1

/-- What is written is in the grammar, with the same own members. -/
theorem exists_forall₂ (h : Prefaced IsReadable own ms) : ∃ ws,
    List.Forall₂ (fun m w => SpellsMember (Spells (bracketLimit - 1)) (writeMember m) w) ms ws ∧
      Prefaced (fun _ => True) own ws := by
  induction h with
  | nil => exact ⟨[], .nil, .nil⟩
  | @own name s _ _ _ ih =>
    obtain ⟨ws, hws, hown⟩ := ih
    have htext := spells_of_spellsFlat (spellsFlat_writeText s) (bracketLimit - 1)
    exact ⟨_ :: ws, .cons (spellsMember_writeMember name htext) hws, .own hown⟩
  | @extra name _ v _ _ ahead readable _ ih =>
    obtain ⟨ws, hws, hown⟩ := ih
    obtain ⟨w, hw⟩ := exists_spells_write (Nat.le_pred_of_lt readable.1) readable.2
    exact ⟨_ :: ws, .cons (spellsMember_writeMember name hw) hws, .extra ahead trivial hown⟩

end Prefaced

/-! ### Reading back -/

/-- The text of an object is one. -/
theorem isObject_render {ms ws : Members} (h : List.Forall₂
    (fun m w => SpellsMember (Spells (bracketLimit - 1)) (writeMember m) w) ms ws) :
    IsObject (Value.object ms).render ws := by
  refine .mk isBlank_nil isBlank_nil (joins_writeMembers.enclosed h) ?_
  exact String.toList_ofList

namespace Updates

variable {u : Updates} {own : List (String × String)} (horder : own.Perm u.fields)
include horder

theorem nodup_of_perm : (own.map Prod.fst).Nodup :=
  (horder.map Prod.fst).nodup_iff.mpr u.ordered.nodup_fst

theorem get?_iff_mem_of_perm {name s : String} : u.get? name = some s ↔ (name, s) ∈ own := by
  rw [horder.mem_iff]
  exact get?_eq_some_iff_mem u.ordered

/-- Updates are read back from members that are made from their fields. -/
theorem decode_of_prefaced {ms : Members} (h : Prefaced IsReadable own ms) :
    decode (Value.object ms).render = .ok u := by
  obtain ⟨ws, hws, hown⟩ := h.exists_forall₂
  have hlast {name : String} {v : Value} :
      IsLast ws name v ↔ ∃ s, (name, s) ∈ own ∧ v = .text s :=
    hown.isLast_iff (nodup_of_perm horder)
  have hmembers : ofMembers (Entries.ofPairs ws) = .ok u := by
    refine (ofMembers_eq_ok_iff ws).mpr ⟨fun name v h => ?_, fun name s => ?_⟩
    · obtain ⟨s, -, rfl⟩ := hlast.mp h
      exact ⟨s, .text s⟩
    · rw [get?_iff_mem_of_perm horder]
      constructor
      · exact fun hmem => ⟨.text s, hlast.mpr ⟨s, hmem, rfl⟩, .text s⟩
      · rintro ⟨v, h, hgives⟩
        obtain ⟨t, hmem, rfl⟩ := hlast.mp h
        cases hgives
        exact hmem
  rw [decode_of_isObject (isObject_render hws), hmembers]
  rfl

omit horder

/-- **Updates are read back from a JSON object** of their fields, whatever the order of its
members, and also with other members in front of the own ones of the same names. -/
theorem decode_render (u : Updates) :
    decode (asObject u.fields).render = .ok u ∧
      ∀ own, own.Perm u.fields → decode (asObject own).render = .ok u ∧
        ∀ ms, Prefaced IsReadable own ms → decode (Value.object ms).render = .ok u := by
  refine ⟨?_, fun own horder => ⟨?_, fun ms hms => ?_⟩⟩
  · exact decode_of_prefaced (List.Perm.refl _) (.of_own _)
  · exact decode_of_prefaced horder (.of_own own)
  · exact decode_of_prefaced horder hms

/-- Two fields in the other order, one of them behind a list and a number of its name. -/
theorem decode_render_twoFields :
    let u : Updates := (empty.insert "b" "").insert "a" "\"\n"
    decode (Value.object [("a", .array [.null, .bool true]), ("b", .text ""),
      ("a", .number (.real (Decimal.Binary64.zero true))), ("a", .text "\"\n")]).render =
        .ok u := by
  intro u
  have horder : [("b", ""), ("a", "\"\n")].Perm u.fields := .swap _ _ _
  have hlist : IsReadable (.array [.null, .bool true]) := by
    refine ⟨by decide, fun n hn => ?_⟩
    rcases hn with _ | @⟨_, _, hmem, hn⟩
    simp only [List.mem_cons, List.not_mem_nil, or_false] at hmem
    rcases hmem with rfl | rfl <;> cases hn
  have hnumber : IsReadable (.number (.real (Decimal.Binary64.zero true))) := by
    refine ⟨by decide, fun n hn => ?_⟩
    cases hn
    exact Decimal.Binary64.canonical_zero true
  exact ((decode_render u).2 _ horder).2 _
    (.extra (List.mem_cons_of_mem _ List.mem_cons_self) hlist
      (.own (.extra List.mem_cons_self hnumber (.own .nil))))

end Updates

end BadgeEntry.Form
