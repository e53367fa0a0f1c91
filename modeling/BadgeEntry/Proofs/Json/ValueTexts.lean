import BadgeEntry.Proofs.Json.Integers

/-!
# Objects with the texts of their values

The members of an object can be told with the texts of their values in place of the values.  A value
may be a whole number of any length here, also one for which there is no number.  If such an object
is read at all, then each member is read as the value that its text stands for: in front of a
comma or a closing bracket a text is read to its end, or the reader stops.

## Main definitions

* `ReadsOnly` — a reader of what is written in some way, which may stop there.
* `IsWrittenAs` — objects with the names and the texts of their members.

## Main results

* `IsLoop.forall₂_of_enclosed` — elements are read one by one.
* `IsWrittenAs.exists_of_readObject` — **members are read as what their texts stand for.**
* `IsWrittenAs.exists_isObject` — an object of the grammar is told in this way too.
-/

namespace BadgeEntry.Json

open Text

/-! ### Readers that may stop -/

/-- A reader that reads nothing but what is written in some way `W`, where it is; `R` says what it
may be read as.  What is written begins neither with a blank nor with a closing bracket. -/
structure ReadsOnly {α β : Type} (f : Reader α) (W : List Char → β → Prop) (R : β → α → Prop) :
    Prop where
  sound {mid rest last : List Char} {b : β} {a : α} (written : W mid b)
    (stops : Stops isNumberChar rest) (read : f (mid ++ rest) = .ok (a, last)) : R b a ∧ last = rest
  starts {mid : List Char} {b : β} (written : W mid b) :
    ∃ c tail, mid = c :: tail ∧ isValueStart c = true

theorem IsCloser.ne_comma {close : Char} (h : IsCloser close) : close ≠ ',' := by
  rintro rfl
  exact absurd h.notStart (by decide)

section
variable {α β : Type} {close : Char} {f : Reader α} {loop : Bool → Nat → Reader (List α)}
  {W : List Char → β → Prop} {R : β → α → Prop} {inner rest last : List Char} {as : List α}
  {bs : List β} {fuel : Nat}

namespace IsLoop

variable (hloop : IsLoop close f loop) (hf : ReadsOnly f W R)
include hloop hf

theorem forall₂_of_following (h : Following W inner bs)
    (hread : loop false fuel (inner ++ close :: rest) = .ok (as, last)) :
    List.Forall₂ R bs as ∧ last = rest := by
  induction h generalizing fuel as with
  | @none gap hgap =>
    cases fuel with
    | zero => exact absurd hread (hloop.zero _ _ _)
    | succ fuel =>
      have hskip := hgap.skipBlanks_append_cons hloop.closer.notBlank rest
      cases (hloop.succ _ _ _ _).mp hread with
      | close hclose =>
        obtain ⟨-, rfl⟩ := List.cons.inj (hskip.symm.trans hclose)
        exact ⟨.nil, rfl⟩
      | later hcomma =>
        exact absurd (List.cons.inj (hskip.symm.trans hcomma)).1 hloop.closer.ne_comma
  | @more gap before cs others b bs hgap hbefore hwritten hothers ih =>
    have hsplit : gap ++ ',' :: (before ++ (cs ++ others)) ++ close :: rest =
        gap ++ ',' :: (before ++ (cs ++ (others ++ close :: rest))) := by simp
    rw [hsplit] at hread
    cases fuel with
    | zero => exact absurd hread (hloop.zero _ _ _)
    | succ fuel =>
      have hskip : skipBlanks (gap ++ ',' :: (before ++ (cs ++ (others ++ close :: rest)))) =
          ',' :: (before ++ (cs ++ (others ++ close :: rest))) := hgap.skipBlanks_append_cons rfl _
      cases (hloop.succ _ _ _ _).mp hread with
      | close hclose =>
        exact absurd (List.cons.inj (hskip.symm.trans hclose)).1.symm hloop.closer.ne_comma
      | later hcomma hmore _ hpush =>
        obtain ⟨-, rfl⟩ := List.cons.inj (hskip.symm.trans hcomma)
        obtain ⟨c, tail, hskipMore, htext, -⟩ := hbefore.skipBlanks_append_start
          (hf.starts hwritten) hloop.closer (others ++ close :: rest)
        rw [← hskipMore.symm.trans hmore, ← htext] at hpush
        obtain ⟨a, as, mid, rfl, helement, hlater⟩ := pushElement_eq_ok_iff.mp hpush
        obtain ⟨hmeant, rfl⟩ := hf.sound hwritten (hothers.stops hloop.closer rest) helement
        obtain ⟨hall, hlast⟩ := ih hlater
        exact ⟨.cons hmeant hall, hlast⟩

/-- **Elements are read one by one**, up to the closing bracket, if they are read. -/
theorem forall₂_of_enclosed (h : Enclosed W inner bs)
    (hread : loop true fuel (inner ++ close :: rest) = .ok (as, last)) :
    List.Forall₂ R bs as ∧ last = rest := by
  cases fuel with
  | zero => exact absurd hread (hloop.zero _ _ _)
  | succ fuel =>
    cases h with
    | none hgap =>
      have hskip := hgap.skipBlanks_append_cons hloop.closer.notBlank rest
      cases (hloop.succ _ _ _ _).mp hread with
      | close hclose =>
        obtain ⟨-, rfl⟩ := List.cons.inj (hskip.symm.trans hclose)
        exact ⟨.nil, rfl⟩
      | first hopen hne =>
        exact absurd (List.cons.inj (hskip.symm.trans hopen)).1.symm hne
    | @some before cs others b bs hbefore hwritten hothers =>
      obtain ⟨c, tail, hskip, htext, hne⟩ := hbefore.skipBlanks_append_start
        (hf.starts hwritten) hloop.closer (others ++ close :: rest)
      rw [List.append_assoc, List.append_assoc] at hread
      cases (hloop.succ _ _ _ _).mp hread with
      | close hclose => exact absurd (List.cons.inj (hskip.symm.trans hclose)).1 hne
      | first hopen _ hpush =>
        rw [← hskip.symm.trans hopen, ← htext] at hpush
        obtain ⟨a, as, mid, rfl, helement, hlater⟩ := pushElement_eq_ok_iff.mp hpush
        obtain ⟨hmeant, rfl⟩ := hf.sound hwritten (hothers.stops hloop.closer rest) helement
        obtain ⟨hall, hlast⟩ := hloop.forall₂_of_following hf hothers hlater
        exact ⟨.cons hmeant hall, hlast⟩

end IsLoop

/-! ### Elements in another way -/

variable {E : List Char → α → Prop}

theorem Following.exists_forall₂ (h : Following W inner bs)
    (hE : ∀ mid b, b ∈ bs → W mid b → ∃ a, E mid a ∧ R b a) :
    ∃ as, Following E inner as ∧ List.Forall₂ R bs as := by
  induction h with
  | none hgap => exact ⟨[], .none hgap, .nil⟩
  | more hgap hbefore hwritten _ ih =>
    obtain ⟨a, ha, hmeant⟩ := hE _ _ List.mem_cons_self hwritten
    obtain ⟨as, has, hall⟩ := ih fun mid b hb => hE mid b (List.mem_cons_of_mem _ hb)
    exact ⟨a :: as, .more hgap hbefore ha has, .cons hmeant hall⟩

theorem Enclosed.exists_forall₂ (h : Enclosed W inner bs)
    (hE : ∀ mid b, b ∈ bs → W mid b → ∃ a, E mid a ∧ R b a) :
    ∃ as, Enclosed E inner as ∧ List.Forall₂ R bs as := by
  cases h with
  | none hgap => exact ⟨[], .none hgap, .nil⟩
  | some hbefore hwritten hothers =>
    obtain ⟨a, ha, hmeant⟩ := hE _ _ List.mem_cons_self hwritten
    obtain ⟨as, has, hall⟩ := hothers.exists_forall₂ fun mid b hb =>
      hE mid b (List.mem_cons_of_mem _ hb)
    exact ⟨a :: as, .some hbefore ha has, .cons hmeant hall⟩

end

/-! ### Members with the texts of their values -/

/-- The texts that a value of a member may have: those of the grammar, and whole numbers of any
length. -/
def IsValueText (cs : List Char) : Prop :=
  (∃ v, Spells (bracketLimit - 1) cs v) ∨ IsInteger cs

/-- A name, a colon, and the text of a value. -/
inductive WritesMember : List Char → String × List Char → Prop
  | mk {written meant gap before cs : List Char} (name : SpellsText written meant)
    (blank : IsBlank gap) (leading : IsBlank before) (value : IsValueText cs) :
    WritesMember ('"' :: (written ++ '"' :: (gap ++ ':' :: (before ++ cs))))
      (String.ofList meant, cs)

/-- Whether a text is an object, with blanks around it; `texts` are the names of its members with
the texts of their values, as they are written. -/
inductive IsWrittenAs (text : String) (texts : List (String × List Char)) : Prop
  | mk {before cs after : List Char} (leading : IsBlank before) (trailing : IsBlank after)
    (members : Enclosed WritesMember cs texts)
    (whole : text.toList = before ++ '\x7b' :: (cs ++ '\x7d' :: after))

/-- Whether the text of a member stands for its value. -/
def StandsFor (t : String × List Char) (m : String × Value) : Prop :=
  t.1 = m.1 ∧ Spells (bracketLimit - 1) t.2 m.2

/-- The text of a value is read as what it stands for, or not at all. -/
theorem IsValueText.spells_of_readValue {cs rest last : List Char} {v : Value} (h : IsValueText cs)
    (hrest : Stops isNumberChar rest)
    (hread : readValue (bracketLimit - 1) (cs ++ rest) = .ok (v, last)) :
    Spells (bracketLimit - 1) cs v ∧ last = rest := by
  rcases h with ⟨w, hw⟩ | hinteger
  · rw [(reads_readValue _).complete hw hrest] at hread
    cases hread
    exact ⟨hw, rfl⟩
  · obtain ⟨⟨n, rfl, hspells⟩, hlast⟩ := hinteger.exists_of_readValue hrest hread
    exact ⟨spells_of_spellsFlat hspells _, hlast⟩

theorem readsOnly_readMember :
    ReadsOnly (readMember (readValue (bracketLimit - 1))) WritesMember StandsFor where
  sound {mid rest last t m} h hrest hread := by
    cases h with
    | @mk written meant gap before cs htext hgap hbefore hvalue =>
      have hsplit : '"' :: (written ++ '"' :: (gap ++ ':' :: (before ++ cs))) ++ rest =
          '"' :: (written ++ '"' :: (gap ++ ':' :: (before ++ (cs ++ rest)))) := by simp
      rw [hsplit, readMember_append _ htext hgap, skipsBlanks_readValue _ _ _ hbefore] at hread
      cases hfound : readValue (bracketLimit - 1) (cs ++ rest) with
      | error stop =>
        rw [hfound] at hread
        cases hread
      | ok found =>
        rw [hfound] at hread
        cases hread
        obtain ⟨hspells, hlast⟩ := hvalue.spells_of_readValue hrest hfound
        exact ⟨⟨rfl, hspells⟩, hlast⟩
  starts h := by
    cases h
    exact ⟨'"', _, rfl, rfl⟩

namespace IsWrittenAs

variable {text : String} {texts : List (String × List Char)}

/-- **Members are read as what their texts stand for**, if the object is read. -/
theorem exists_of_readObject (h : IsWrittenAs text texts) {ms : Members}
    (hread : readObject text = .ok ms) :
    ∃ pairs, ms = Entries.ofPairs pairs ∧ List.Forall₂ StandsFor texts pairs := by
  obtain ⟨hleading, -, hmembers, hwhole⟩ := h
  obtain ⟨⟨read, rest⟩, hobject, hend⟩ := exists_of_bind_eq_ok (located_eq_ok_iff.mp hread)
  obtain ⟨⟨⟩, -, hend⟩ := exists_of_bind_eq_ok hend
  cases hend
  unfold leadingObject at hobject
  rw [hwhole, hleading.skipBlanks_append_cons rfl] at hobject
  obtain ⟨⟨pairs, last⟩, hpairs, hobject⟩ := exists_of_bind_eq_ok hobject
  cases hobject
  exact ⟨pairs, rfl,
    ((isLoop_readMembers _).forall₂_of_enclosed readsOnly_readMember hmembers hpairs).1⟩

/-- If each text stands for some value, it is an object of the grammar. -/
theorem exists_isObject (h : IsWrittenAs text texts)
    (hvalues : ∀ t ∈ texts, ∃ v, Spells (bracketLimit - 1) t.2 v) :
    ∃ pairs, IsObject text pairs ∧ List.Forall₂ StandsFor texts pairs := by
  obtain ⟨hleading, htrailing, hmembers, hwhole⟩ := h
  have hmember (mid : List Char) (t : String × List Char) (ht : t ∈ texts)
      (hwritten : WritesMember mid t) :
      ∃ m, SpellsMember (Spells (bracketLimit - 1)) mid m ∧ StandsFor t m := by
    obtain ⟨v, hv⟩ := hvalues t ht
    cases hwritten with
    | mk htext hgap hbefore => exact ⟨(_, v), .mk htext hgap hbefore hv, rfl, hv⟩
  obtain ⟨pairs, hpairs, hall⟩ := hmembers.exists_forall₂ hmember
  exact ⟨pairs, .mk hleading htrailing hpairs hwhole, hall⟩

end IsWrittenAs

end BadgeEntry.Json
