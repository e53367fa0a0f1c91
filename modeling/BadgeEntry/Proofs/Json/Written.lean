import BadgeEntry.Proofs.Json.Reals

/-!
# What is written is in the grammar

The compact text of a value is a text of the grammar: a text with its escapes, a number, and between
two brackets the elements with commas and without blanks.  A binary number need not be read back,
the members of an object may come in any order, and names may occur twice, so the value that the
text stands for need not be the one that was written.

## Main definitions

* `Number.IsProper` — the numbers that there are.
* `Value.IsProper` — values of such numbers.
* `Joins` — writers of elements with commas between them.

## Main results

* `Joins.enclosed` — elements that are written one after the other may stand between brackets.
* `exists_spells_write` — **the compact text of a value is a value of the grammar.**
-/

namespace BadgeEntry.Json

open Decimal

/-! ### Numbers and texts -/

/-- Whether there is such a number: a whole number has at most sixty-four bits, and a binary
number is in its canonical form. -/
def Number.IsProper : Number → Prop
  | .integer n => (Number.integer n).IsKept
  | .real x => x.Canonical

/-- Whether there is such a value, in some order of its members. -/
def Value.IsProper (v : Value) : Prop :=
  ∀ n, v.Holds n → n.IsProper

theorem Number.ReadsBack.spellsFlat {n : Number} (h : n.ReadsBack) :
    SpellsFlat n.text (.number n) := by
  obtain ⟨gap, mid, hgap, htext, hspells⟩ := reads_readValueWith_none.sound h
  rw [List.append_nil] at htext
  cases gap with
  | nil => rwa [htext, List.nil_append]
  | cons g gap =>
    -- a number begins with no blank
    obtain ⟨c, cs, hwrite, hc⟩ := exists_write_eq_cons (.number n)
    obtain rfl : c = g := (List.cons.inj (hwrite.symm.trans htext)).1
    rw [isValueStart, hgap c List.mem_cons_self] at hc
    cases hc

/-- What a number is written as stands for a number. -/
theorem Number.IsProper.exists_spellsFlat {n : Number} (h : n.IsProper) :
    ∃ m, SpellsFlat n.text (.number m) := by
  cases n with
  | integer n => exact ⟨_, (readsBack_integer h).spellsFlat⟩
  | real x =>
    obtain ⟨y, hy⟩ := exists_spellsNumber_unsignedText h
    exact ⟨_, spellsFlat_text hy⟩

theorem spellsText_writeChar (s : String) : SpellsText (s.toList.flatMap writeChar) s.toList := by
  obtain ⟨written, meant, hsplit, hspells, rfl⟩ :=
    readText_eq_ok_iff.mp (readText_writeText s [])
  rw [List.append_cancel_right hsplit, String.toList_ofList]
  exact hspells

theorem spellsFlat_writeText (s : String) : SpellsFlat (writeText s) (.text s) := by
  have hspells := SpellsFlat.text (spellsText_writeChar s)
  rwa [String.ofList_toList] at hspells

/-! ### Elements -/

/-- A writer of elements, each but the first behind a comma. -/
structure Joins {α : Type} (element : α → List Char) (join : Bool → List α → List Char) :
    Prop where
  nil (first : Bool) : join first [] = []
  cons (first : Bool) (a : α) (as : List α) :
    join first (a :: as) = (if first then [] else [',']) ++ (element a ++ join false as)

namespace Joins

variable {α β : Type} {element : α → List Char} {join : Bool → List α → List Char}
  {E : List Char → β → Prop} {as : List α} {bs : List β}

theorem following (hjoin : Joins element join)
    (h : List.Forall₂ (fun a b => E (element a) b) as bs) : Following E (join false as) bs := by
  induction h with
  | nil =>
    rw [hjoin.nil]
    exact .none isBlank_nil
  | cons hfirst _ ih =>
    rw [hjoin.cons]
    exact .more isBlank_nil isBlank_nil hfirst ih

/-- Elements that are written one after the other may stand between brackets. -/
theorem enclosed (hjoin : Joins element join)
    (h : List.Forall₂ (fun a b => E (element a) b) as bs) : Enclosed E (join true as) bs := by
  cases h with
  | nil =>
    rw [hjoin.nil]
    exact .none isBlank_nil
  | cons hfirst hrest =>
    rw [hjoin.cons]
    exact .some isBlank_nil hfirst (hjoin.following hrest)

end Joins

theorem joins_writeItems : Joins write writeItems where
  nil _ := rfl
  cons first v vs := by rw [writeItems, List.append_assoc]

/-- A member as it is written. -/
def writeMember (m : String × Value) : List Char :=
  writeText m.1 ++ ':' :: write m.2

theorem joins_writeMembers : Joins writeMember writeMembers where
  nil _ := rfl
  cons first m ms := by
    rw [writeMembers, writeMember]
    simp only [List.append_assoc, List.cons_append]

theorem spellsMember_writeMember {V : List Char → Value → Prop} (name : String) {v w : Value}
    (h : V (write v) w) : SpellsMember V (writeMember (name, v)) (name, w) := by
  have hspells := SpellsMember.mk (spellsText_writeChar name) isBlank_nil isBlank_nil h
  rw [String.ofList_toList] at hspells
  rw [writeMember, writeText]
  simpa using hspells

/-- What stands for each of some elements, one after the other. -/
theorem exists_forall₂ {α β : Type} {R : α → β → Prop} {as : List α} (h : ∀ a ∈ as, ∃ b, R a b) :
    ∃ bs, List.Forall₂ R as bs := by
  induction as with
  | nil => exact ⟨[], .nil⟩
  | cons a as ih =>
    rw [List.forall_mem_cons] at h
    obtain ⟨b, hb⟩ := h.1
    obtain ⟨bs, hbs⟩ := ih h.2
    exact ⟨b :: bs, .cons hb hbs⟩

/-! ### Values -/

theorem itemsDepth_le_iff {vs : List Value} {a : ℕ} :
    Value.itemsDepth vs ≤ a ↔ ∀ v ∈ vs, v.depth ≤ a := by
  induction vs with
  | nil => simp [Value.itemsDepth]
  | cons v vs ih => rw [Value.itemsDepth, Nat.max_le, List.forall_mem_cons, ih]

theorem membersDepth_le_iff {ms : Members} {a : ℕ} :
    Value.membersDepth ms ≤ a ↔ ∀ m ∈ ms, m.2.depth ≤ a := by
  induction ms with
  | nil => simp [Value.membersDepth]
  | cons m ms ih => rw [Value.membersDepth, Nat.max_le, List.forall_mem_cons, ih]

/-- A value without brackets is written as one. -/
theorem exists_spellsFlat_write {v : Value} (hflat : v.depth = 0) (hproper : v.IsProper) :
    ∃ w, SpellsFlat (write v) w := by
  cases v with
  | null => exact ⟨_, .null⟩
  | bool b =>
    cases b with
    | true => exact ⟨_, .yes⟩
    | false => exact ⟨_, .no⟩
  | number n =>
    obtain ⟨m, hm⟩ := (hproper n .self).exists_spellsFlat
    exact ⟨_, hm⟩
  | text s => exact ⟨_, spellsFlat_writeText s⟩
  | array vs => cases hflat
  | object ms => cases hflat

/-- **The compact text of a value is a value of the grammar**, with as many brackets as the value
is deep. -/
theorem exists_spells_write {a : ℕ} {v : Value} (hdepth : v.depth ≤ a) (hproper : v.IsProper) :
    ∃ w, Spells a (write v) w := by
  induction a generalizing v with
  | zero => exact exists_spellsFlat_write (Nat.le_zero.mp hdepth) hproper
  | succ a ih =>
    cases v with
    | null | bool | number | text =>
      obtain ⟨w, hw⟩ := exists_spellsFlat_write rfl hproper
      exact ⟨w, .flat hw⟩
    | array vs =>
      have hitems := itemsDepth_le_iff.mp (Nat.le_of_succ_le_succ hdepth)
      obtain ⟨ws, hws⟩ := exists_forall₂ fun v hv =>
        ih (hitems v hv) fun n hn => hproper n (.item hv hn)
      exact ⟨_, .array (joins_writeItems.enclosed hws)⟩
    | object ms =>
      have hmembers := membersDepth_le_iff.mp (Nat.le_of_succ_le_succ hdepth)
      have hspells : ∀ m ∈ ms, ∃ w, SpellsMember (Spells a) (writeMember m) w := by
        intro m hm
        obtain ⟨w, hw⟩ := ih (hmembers m hm) fun n hn => hproper n (.member hm hn)
        exact ⟨_, spellsMember_writeMember m.1 hw⟩
      obtain ⟨ws, hws⟩ := exists_forall₂ hspells
      exact ⟨_, .object (joins_writeMembers.enclosed hws)⟩

end BadgeEntry.Json
