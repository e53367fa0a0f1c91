import BadgeEntry.Proofs.Json.ExactNumbers
import BadgeEntry.Proofs.Json.ExactTexts
import BadgeEntry.Proofs.Json.Loops

/-!
# Values are read exactly

The reader of values accepts the values of the grammar and nothing else: by induction on the
allowance of brackets, since the elements between two brackets are read by a loop, and exactly
if each of them is.  So a text is read as an object just if it is one.

## Main results

* `reads_readMember` — members are read exactly if their values are.
* `reads_readValue` — **values are read exactly.**
* `readObject_eq_ok_iff` — **objects are read exactly.**
-/

namespace BadgeEntry.Json

open Text

variable {α : Type} {cs rest : List Char}

/-! ### Members -/

/-- A reader that leaves out blanks at its front. -/
def SkipsBlanks (f : Reader α) : Prop :=
  ∀ gap cs, IsBlank gap → f (gap ++ cs) = f cs

/-- Behind a name and its colon a member is what its value is. -/
theorem readMember_append (f : Reader Value) {written meant gap : List Char}
    (htext : SpellsText written meant) (hgap : IsBlank gap) (tail : List Char) :
    readMember f ('"' :: (written ++ '"' :: (gap ++ ':' :: tail))) =
      (f tail).map fun found => ((String.ofList meant, found.1), found.2) := by
  have hname : readText (written ++ '"' :: (gap ++ ':' :: tail)) =
      .ok (String.ofList meant, gap ++ ':' :: tail) :=
    readText_eq_ok_iff.mpr ⟨written, meant, rfl, htext, rfl⟩
  have hcolon : skipBlanks (gap ++ ':' :: tail) = ':' :: tail := hgap.skipBlanks_append_cons rfl _
  rw [readMember, if_pos rfl, hname]
  simp only [bind, Except.bind, hcolon, if_pos]
  cases f tail <;> rfl

/-- **Members are read exactly** if their values are. -/
theorem reads_readMember {f : Reader Value} {V : List Char → Value → Prop} (hf : Reads f V)
    (hskips : SkipsBlanks f) : Reads (readMember f) (SpellsMember V) where
  sound {cs rest m} h := by
    unfold readMember at h
    split at h
    · cases h
    · next c text =>
      split at h
      · next hquote =>
        obtain ⟨⟨name, mid⟩, hname, h⟩ := exists_of_bind_eq_ok h
        obtain ⟨written, meant, rfl, htext, rfl⟩ := readText_eq_ok_iff.mp hname
        obtain ⟨gap, hgap, hmid⟩ := exists_skipBlanks mid
        dsimp only at h
        split at h
        · cases h
        · next d tail hskip =>
          split at h
          · next hcolon =>
            obtain ⟨⟨v, last⟩, hvalue, h⟩ := exists_of_bind_eq_ok h
            cases h
            obtain ⟨before, inner, hbefore, rfl, hwritten⟩ := hf.sound hvalue
            refine ⟨[], _, isBlank_nil, ?_, .mk htext hgap hbefore hwritten⟩
            rw [hmid, hskip, hquote, hcolon]
            simp
          · cases h
      · cases h
  complete {mid rest m} h hrest := by
    cases h with
    | @mk written meant gap before cs v htext hgap hbefore hwritten =>
      have hvalue : f (before ++ (cs ++ rest)) = .ok (v, rest) :=
        (hskips before _ hbefore).trans (hf.complete hwritten hrest)
      have hsplit : '"' :: (written ++ '"' :: (gap ++ ':' :: (before ++ cs))) ++ rest =
          '"' :: (written ++ '"' :: (gap ++ ':' :: (before ++ (cs ++ rest)))) := by simp
      rw [hsplit, readMember_append f htext hgap, hvalue]
      rfl
  starts {mid m} h := by
    cases h
    exact ⟨'"', _, rfl, rfl⟩

/-! ### Values -/

theorem readWord_eq_ok_iff {word : List Char} :
    readWord word cs = .ok rest ↔ cs = word ++ rest := by
  induction word generalizing cs with
  | nil => simp [readWord]
  | cons w ws ih =>
    cases cs with
    | nil => exact iff_of_false nofun nofun
    | cons c cs =>
      rw [readWord]
      split
      · next hc =>
        rw [ih, List.cons_append, hc, List.cons_inj_right]
      · next hc =>
        refine iff_of_false nofun ?_
        rw [List.cons_append, List.cons_eq_cons]
        exact fun heq => hc heq.1

theorem SpellsNumber.exists_eq_cons {negative : Bool} {n : Number}
    (h : SpellsNumber negative cs n) : ∃ c tail, cs = c :: tail ∧ c.isDigit = true := by
  have hwhole {ds : List Char} (hds : IsWhole ds) (more : List Char) :
      ∃ c tail, ds ++ more = c :: tail ∧ c.isDigit = true := by
    obtain ⟨c, tail, rfl⟩ := List.exists_cons_of_ne_nil hds.1.1
    exact ⟨c, tail ++ more, rfl, hds.1.2 c List.mem_cons_self⟩
  cases h with
  | whole hds =>
    obtain ⟨c, tail, heq, hc⟩ := hwhole hds []
    exact ⟨c, tail, (List.append_nil cs).symm.trans heq, hc⟩
  | decimal hds => exact hwhole hds _

theorem isValueStart_of_isDigit {c : Char} (h : c.isDigit = true) : isValueStart c = true := by
  by_contra hstart
  simp only [isValueStart, isJsonBlank, Bool.and_eq_true, Bool.not_eq_true', Bool.or_eq_false_iff,
    beq_eq_false_iff_ne, bne_iff_ne, not_and_or, not_not] at hstart
  rcases hstart with ((((rfl | rfl) | rfl) | rfl) | rfl) | rfl <;> exact absurd h (by decide)

theorem SpellsFlat.starts {v : Value} (h : SpellsFlat cs v) :
    ∃ c tail, cs = c :: tail ∧ isValueStart c = true := by
  cases h with
  | null | yes | no | negative | text => exact ⟨_, _, rfl, rfl⟩
  | number hnumber =>
    obtain ⟨c, tail, heq, hc⟩ := hnumber.exists_eq_cons
    exact ⟨c, tail, heq, isValueStart_of_isDigit hc⟩

theorem skipsBlanks_readValueWith (inner : Option (Reader Value)) :
    SkipsBlanks (readValueWith inner) := by
  intro gap cs hgap
  unfold readValueWith
  rw [hgap.skipBlanks_append]

/-- Values without brackets are read, whether or not brackets may be opened. -/
theorem SpellsFlat.readValueWith {v : Value} (h : SpellsFlat cs v) (inner : Option (Reader Value))
    (hrest : Stops isNumberChar rest) : Json.readValueWith inner (cs ++ rest) = .ok (v, rest) := by
  cases h with
  | null | yes | no => rfl
  | number hnumber =>
    obtain ⟨c, tail, rfl, hc⟩ := hnumber.exists_eq_cons
    have hread := hnumber.readNumber hrest
    rw [List.cons_append] at hread ⊢
    rw [readValueWith_digit inner hc, asValue_eq_ok_iff, hread]
  | negative hnumber =>
    rw [List.cons_append, readValueWith_minus, asValue_eq_ok_iff, hnumber.readNumber hrest]
  | @text written meant htext =>
    have hread : readText (written ++ '"' :: rest) = .ok (String.ofList meant, rest) :=
      readText_eq_ok_iff.mpr ⟨written, meant, rfl, htext, rfl⟩
    rw [List.cons_append, List.append_assoc, List.singleton_append, readValueWith_quote, hread]
    rfl

/-- What is read as a value is a value without brackets, or else there is a reader for what is
behind its bracket. -/
theorem exists_of_readValueWith {inner : Option (Reader Value)} {v : Value}
    (h : readValueWith inner cs = .ok (v, rest)) :
    ∃ gap, IsBlank gap ∧ ((∃ mid, cs = gap ++ (mid ++ rest) ∧ SpellsFlat mid v) ∨
      ∃ f tail, inner = some f ∧
        ((cs = gap ++ '[' :: tail ∧ ∃ vs, readListWith f tail = .ok (vs, rest) ∧ v = .array vs) ∨
          (cs = gap ++ '\x7b' :: tail ∧
            ∃ ms, readObjectWith f tail = .ok (ms, rest) ∧ v = .object ms))) := by
  obtain ⟨gap, hgap, hcs⟩ := exists_skipBlanks cs
  refine ⟨gap, hgap, ?_⟩
  unfold readValueWith at h
  split at h
  · cases h
  · next c tail hskip =>
    rw [hskip] at hcs
    -- the first character tells the kinds of values apart
    dsimp only at h
    split at h
    · obtain ⟨last, hword, h⟩ := exists_of_bind_eq_ok h
      cases h
      rw [readWord_eq_ok_iff.mp hword] at hcs
      exact Or.inl ⟨_, hcs, .null⟩
    · obtain ⟨last, hword, h⟩ := exists_of_bind_eq_ok h
      cases h
      rw [readWord_eq_ok_iff.mp hword] at hcs
      exact Or.inl ⟨_, hcs, .yes⟩
    · obtain ⟨last, hword, h⟩ := exists_of_bind_eq_ok h
      cases h
      rw [readWord_eq_ok_iff.mp hword] at hcs
      exact Or.inl ⟨_, hcs, .no⟩
    · obtain ⟨⟨n, last⟩, hnumber, h⟩ := exists_of_bind_eq_ok h
      cases h
      obtain ⟨mid, rfl, hspells⟩ := exists_of_readNumber hnumber
      exact Or.inl ⟨_, hcs, .negative hspells⟩
    · obtain ⟨⟨s, last⟩, htext, h⟩ := exists_of_bind_eq_ok h
      cases h
      obtain ⟨written, meant, rfl, hspells, rfl⟩ := readText_eq_ok_iff.mp htext
      refine Or.inl ⟨_, ?_, .text hspells⟩
      rw [hcs, List.cons_append, List.append_assoc, List.singleton_append]
    · split at h
      · cases h
      · next f =>
        obtain ⟨⟨vs, last⟩, hitems, h⟩ := exists_of_bind_eq_ok h
        cases h
        exact Or.inr ⟨f, tail, rfl, Or.inl ⟨hcs, vs, hitems, rfl⟩⟩
    · split at h
      · cases h
      · next f =>
        obtain ⟨⟨ms, last⟩, hmembers, h⟩ := exists_of_bind_eq_ok h
        cases h
        exact Or.inr ⟨f, tail, rfl, Or.inr ⟨hcs, ms, hmembers, rfl⟩⟩
    · split at h
      · obtain ⟨⟨n, last⟩, hnumber, h⟩ := exists_of_bind_eq_ok h
        cases h
        obtain ⟨mid, hmid, hspells⟩ := exists_of_readNumber hnumber
        rw [hmid] at hcs
        exact Or.inl ⟨mid, hcs, .number hspells⟩
      · cases h

/-- Values without brackets are read exactly if no bracket may be opened. -/
theorem reads_readValueWith_none : Reads (readValueWith none) SpellsFlat where
  sound h := by
    obtain ⟨gap, hgap, ⟨mid, hcs, hspells⟩ | ⟨f, -, hf, -⟩⟩ := exists_of_readValueWith h
    · exact ⟨gap, mid, hgap, hcs, hspells⟩
    · cases hf
  complete h hrest := h.readValueWith none hrest
  starts h := h.starts

section
variable {f : Reader Value} {V : List Char → Value → Prop} (hf : Reads f V)
include hf

theorem readListWith_eq_ok_iff {vs : List Value} : readListWith f cs = .ok (vs, rest) ↔
    ∃ inner, cs = inner ++ ']' :: rest ∧ Enclosed V inner vs :=
  (isLoop_readItems f).eq_ok_iff hf

variable (hskips : SkipsBlanks f)
include hskips

theorem readObjectWith_eq_ok_iff {ms : Members} : readObjectWith f cs = .ok (ms, rest) ↔
    ∃ inner pairs, cs = inner ++ '\x7d' :: rest ∧ Enclosed (SpellsMember V) inner pairs ∧
      ms = Entries.ofPairs pairs := by
  have hloop {pairs : Members} : readMembers f true (cs.length + 1) cs = .ok (pairs, rest) ↔
      ∃ inner, cs = inner ++ '\x7d' :: rest ∧ Enclosed (SpellsMember V) inner pairs :=
    (isLoop_readMembers f).eq_ok_iff (reads_readMember hf hskips)
  constructor
  · intro h
    obtain ⟨⟨pairs, last⟩, hmembers, h⟩ := exists_of_bind_eq_ok h
    cases h
    obtain ⟨inner, hcs, hinner⟩ := hloop.mp hmembers
    exact ⟨inner, pairs, hcs, hinner, rfl⟩
  · rintro ⟨inner, pairs, hcs, hinner, rfl⟩
    unfold readObjectWith
    rw [hloop.mpr ⟨inner, hcs, hinner⟩]
    rfl

/-- Values are read exactly if their elements are. -/
theorem reads_readValueWith_some : Reads (readValueWith (some f)) (SpellsWithin V) where
  sound h := by
    obtain ⟨gap, hgap, ⟨mid, hcs, hspells⟩ | ⟨f', tail, hsome, hinner⟩⟩ := exists_of_readValueWith h
    · exact ⟨gap, mid, hgap, hcs, .flat hspells⟩
    · obtain rfl := Option.some.inj hsome
      rcases hinner with ⟨rfl, vs, hitems, rfl⟩ | ⟨rfl, ms, hmembers, rfl⟩
      · obtain ⟨inner, rfl, hinner⟩ := (readListWith_eq_ok_iff hf).mp hitems
        exact ⟨gap, _, hgap, by simp, .array hinner⟩
      · obtain ⟨inner, pairs, rfl, hinner, rfl⟩ := (readObjectWith_eq_ok_iff hf hskips).mp hmembers
        exact ⟨gap, _, hgap, by simp, .object hinner⟩
  complete {mid rest v} h hrest := by
    cases h with
    | flat hspells => exact hspells.readValueWith (some f) hrest
    | @array cs vs hitems =>
      have hread : readListWith f (cs ++ ']' :: rest) = .ok (vs, rest) :=
        (readListWith_eq_ok_iff hf).mpr ⟨cs, rfl, hitems⟩
      rw [List.cons_append, List.append_assoc, List.singleton_append, readValueWith_list, hread]
      rfl
    | @object cs ms hmembers =>
      have hread : readObjectWith f (cs ++ '\x7d' :: rest) = .ok (Entries.ofPairs ms, rest) :=
        (readObjectWith_eq_ok_iff hf hskips).mpr ⟨cs, ms, rfl, hmembers, rfl⟩
      rw [List.cons_append, List.append_assoc, List.singleton_append, readValueWith_object, hread]
      rfl
  starts h := by
    cases h with
    | flat hspells => exact hspells.starts
    | array | object => exact ⟨_, _, rfl, rfl⟩

end

theorem skipsBlanks_readValue (a : Nat) : SkipsBlanks (readValue a) := by
  cases a with
  | zero => exact skipsBlanks_readValueWith none
  | succ a => exact skipsBlanks_readValueWith (some (readValue a))

/-- **Values are read exactly** with each allowance of brackets. -/
theorem reads_readValue (a : Nat) : Reads (readValue a) (Spells a) := by
  induction a with
  | zero => exact reads_readValueWith_none
  | succ a ih => exact reads_readValueWith_some ih (skipsBlanks_readValue a)

/-- What is written stands for one value. -/
theorem spells_unique {a : Nat} {v w : Value} (hv : Spells a cs v) (hw : Spells a cs w) :
    v = w := by
  have hread := (reads_readValue a).complete hv (stops_nil isNumberChar)
  rw [(reads_readValue a).complete hw (stops_nil isNumberChar)] at hread
  exact (Prod.mk.inj (Except.ok.inj hread)).1.symm

/-- Values without brackets are written with any allowance of brackets. -/
theorem spells_of_spellsFlat {v : Value} (h : SpellsFlat cs v) (a : Nat) : Spells a cs v := by
  cases a with
  | zero => exact h
  | succ a => exact .flat h

/-! ### Whole texts -/

theorem skipBlanks_eq_nil_iff : skipBlanks cs = [] ↔ IsBlank cs :=
  List.dropWhile_eq_nil_iff

theorem expectEnd_eq_ok_iff : expectEnd cs = .ok () ↔ IsBlank cs := by
  rw [← skipBlanks_eq_nil_iff]
  unfold expectEnd
  split
  · next hskip => exact iff_of_true rfl hskip
  · next hskip => exact iff_of_false nofun hskip

theorem leadingObject_eq_ok_iff {ms : Members} : leadingObject cs = .ok (ms, rest) ↔
    ∃ gap inner pairs, IsBlank gap ∧ cs = gap ++ '\x7b' :: (inner ++ '\x7d' :: rest) ∧
      Enclosed (SpellsMember (Spells (bracketLimit - 1))) inner pairs ∧
        ms = Entries.ofPairs pairs := by
  have hobject {tail : List Char} {ms : Members} :
      readObjectWith (readValue (bracketLimit - 1)) tail = .ok (ms, rest) ↔
        ∃ inner pairs, tail = inner ++ '\x7d' :: rest ∧
          Enclosed (SpellsMember (Spells (bracketLimit - 1))) inner pairs ∧
            ms = Entries.ofPairs pairs :=
    readObjectWith_eq_ok_iff (reads_readValue _) (skipsBlanks_readValue _)
  constructor
  · intro h
    obtain ⟨gap, hgap, hcs⟩ := exists_skipBlanks cs
    unfold leadingObject at h
    split at h
    · next tail hskip =>
      obtain ⟨inner, pairs, rfl, hinner, rfl⟩ := hobject.mp h
      exact ⟨gap, inner, pairs, hgap, by rw [← hskip, ← hcs], hinner, rfl⟩
    · exact absurd h (refuse_ne_ok _ _ _)
  · rintro ⟨gap, inner, pairs, hgap, rfl, hinner, rfl⟩
    unfold leadingObject
    rw [hgap.skipBlanks_append_cons rfl]
    exact hobject.mpr ⟨inner, pairs, rfl, hinner, rfl⟩

/-- **Objects are read exactly**: what is read is what the members leave when they are entered
one after the other. -/
theorem readObject_eq_ok_iff {text : String} {ms : Members} : readObject text = .ok ms ↔
    ∃ pairs, IsObject text pairs ∧ ms = Entries.ofPairs pairs := by
  unfold readObject
  rw [located_eq_ok_iff]
  constructor
  · intro h
    obtain ⟨⟨members, rest⟩, hleading, h⟩ := exists_of_bind_eq_ok h
    obtain ⟨⟨⟩, hend, h⟩ := exists_of_bind_eq_ok h
    cases h
    obtain ⟨gap, inner, pairs, hgap, hcs, hinner, rfl⟩ := leadingObject_eq_ok_iff.mp hleading
    exact ⟨pairs, .mk hgap (expectEnd_eq_ok_iff.mp hend) hinner hcs, rfl⟩
  · rintro ⟨pairs, ⟨hleading, htrailing, hmembers, hwhole⟩, rfl⟩
    rw [leadingObject_eq_ok_iff.mpr ⟨_, _, pairs, hleading, hwhole, hmembers, rfl⟩]
    change (expectEnd _).bind _ = _
    rw [expectEnd_eq_ok_iff.mpr htrailing]
    rfl

end BadgeEntry.Json
