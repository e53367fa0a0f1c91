import BadgeEntry.Proofs.Json.RoundTrip

/-!
# Values that are read

A value that is read has no more open brackets than its reader may open, its members are
in the order of their names, and its whole numbers have at most sixty-four bits.  So it
is read back, when it is written, unless it holds a binary number that is not.

## Main definitions

* `Value.Holds` — a value with a number in it.

## Main results

* `fits_of_readValue`, `fits_of_readList` — **a value that is read fits.**
* `readList_renderAll_of_kept` — **what was read is read back.**
-/

namespace BadgeEntry.Entries

variable {α : Type}

/-- The entries that arise from pairs are among them. -/
theorem mem_of_mem_ofPairs {pairs : List (String × α)} {p : String × α} (h : p ∈ ofPairs pairs) :
    p ∈ pairs := by
  suffices hfold : ∀ entries : List (String × α),
      p ∈ pairs.foldl (fun entries pair => insert pair.1 pair.2 entries) entries →
        p ∈ entries ∨ p ∈ pairs from
    (hfold [] h).resolve_left List.not_mem_nil
  clear h
  induction pairs with
  | nil => exact fun _ h => Or.inl h
  | cons e pairs ih =>
    intro entries h
    rcases ih _ h with h | h
    · rcases mem_of_mem_insert h with rfl | h
      · exact Or.inr List.mem_cons_self
      · exact Or.inl h
    · exact Or.inr (List.mem_cons_of_mem _ h)

end BadgeEntry.Entries

namespace BadgeEntry.Json

/-- Whether a number is somewhere in a value. -/
inductive Value.Holds (n : Number) : Value → Prop
  | self : Holds n (.number n)
  | item {vs : List Value} {v : Value} (mem : v ∈ vs) (holds : Holds n v) : Holds n (.array vs)
  | member {ms : Members} {m : String × Value} (mem : m ∈ ms) (holds : Holds n m.2) :
    Holds n (.object ms)

/-- Numbers of one kind are of another one, if all that the value holds are. -/
theorem Value.Fits.imp {P Q : Number → Prop} {a : Nat} {v : Value} (h : v.Fits P a)
    (hall : ∀ n, v.Holds n → P n → Q n) : v.Fits Q a := by
  induction h with
  | null => exact .null
  | bool b => exact .bool b
  | number kind => exact .number (hall _ .self kind)
  | text s => exact .text s
  | array items ih =>
    exact .array fun v hv => ih v hv fun n hn => hall n (.item hv hn)
  | object ordered members ih =>
    exact .object ordered fun m hm => ih m hm fun n hn => hall n (.member hm hn)

/-- What a sequence comes to is what its second part makes of what its first part comes to. -/
theorem exists_of_bind_eq_ok {ε α β : Type} {x : Except ε α} {f : α → Except ε β} {b : β}
    (h : x >>= f = .ok b) : ∃ a, x = .ok a ∧ f a = .ok b := by
  cases x with
  | error e => cases h
  | ok a => exact ⟨a, rfl, h⟩

/-- A reader of values of some kind. -/
def Yields (f : Reader Value) (Q : Value → Prop) : Prop :=
  ∀ cs v rest, f cs = .ok (v, rest) → Q v

section
variable {f : Reader Value} {Q : Value → Prop} (hf : Yields f Q)
include hf

theorem forall_of_readItems (first : Bool) (fuel : Nat) {cs rest : List Char} {vs : List Value}
    (h : readItems f first fuel cs = .ok (vs, rest)) : ∀ v ∈ vs, Q v := by
  induction fuel generalizing first cs vs with
  | zero => cases h
  | succ fuel ih =>
    have hpush {cs : List Char} (h : pushItem f fuel cs = .ok (vs, rest)) : ∀ v ∈ vs, Q v := by
      obtain ⟨⟨v, tail⟩, hitem, h⟩ := exists_of_bind_eq_ok h
      obtain ⟨⟨items, last⟩, hitems, h⟩ := exists_of_bind_eq_ok h
      cases h
      exact List.forall_mem_cons.mpr ⟨hf cs v tail hitem, ih false hitems⟩
    rw [readItems] at h
    dsimp only at h
    split at h
    · cases h
    · split at h
      · cases h
        exact List.forall_mem_nil Q
      · split at h
        · exact hpush h
        · split at h
          · split at h
            · cases h
            · split at h
              · cases h
              · exact hpush h
          · cases h

theorem of_readMember {cs rest : List Char} {m : String × Value}
    (h : readMember f cs = .ok (m, rest)) : Q m.2 := by
  unfold readMember at h
  split at h
  · cases h
  · split at h
    · obtain ⟨⟨name, tail⟩, -, h⟩ := exists_of_bind_eq_ok h
      dsimp only at h
      split at h
      · cases h
      · next d tail _ =>
        split at h
        · obtain ⟨⟨v, last⟩, hvalue, h⟩ := exists_of_bind_eq_ok h
          cases h
          exact hf tail v last hvalue
        · cases h
    · cases h

theorem forall_of_readMembers (first : Bool) (fuel : Nat) {cs rest : List Char} {ms : Members}
    (h : readMembers f first fuel cs = .ok (ms, rest)) : ∀ m ∈ ms, Q m.2 := by
  induction fuel generalizing first cs ms with
  | zero => cases h
  | succ fuel ih =>
    have hpush {cs : List Char} (h : pushMember f fuel cs = .ok (ms, rest)) : ∀ m ∈ ms, Q m.2 := by
      obtain ⟨⟨m, tail⟩, hmember, h⟩ := exists_of_bind_eq_ok h
      obtain ⟨⟨members, last⟩, hmembers, h⟩ := exists_of_bind_eq_ok h
      cases h
      exact List.forall_mem_cons.mpr ⟨of_readMember hf hmember, ih false hmembers⟩
    rw [readMembers] at h
    dsimp only at h
    split at h
    · cases h
    · split at h
      · cases h
        exact fun m hm => absurd hm List.not_mem_nil
      · split at h
        · exact hpush h
        · split at h
          · split at h
            · cases h
            · split at h
              · cases h
              · exact hpush h
          · cases h

end

/-- A value whose elements fit, fits with one bracket more. -/
theorem fits_of_readValueWith {inner : Option (Reader Value)} {a : Nat}
    (hinner : ∀ f, inner = some f → ∃ b, a = b + 1 ∧ Yields f (Value.Fits Number.IsKept b)) :
    Yields (readValueWith inner) (Value.Fits Number.IsKept a) := by
  intro cs v rest h
  unfold readValueWith at h
  split at h
  · cases h
  · next c tail _ =>
    -- the first character tells the kinds of values apart
    dsimp only at h
    split at h
    · obtain ⟨last, -, h⟩ := exists_of_bind_eq_ok h
      cases h
      exact .null
    · obtain ⟨last, -, h⟩ := exists_of_bind_eq_ok h
      cases h
      exact .bool true
    · obtain ⟨last, -, h⟩ := exists_of_bind_eq_ok h
      cases h
      exact .bool false
    · obtain ⟨⟨n, last⟩, hnumber, h⟩ := exists_of_bind_eq_ok h
      cases h
      exact .number (keeps_readNumber true tail n last hnumber)
    · obtain ⟨⟨s, last⟩, -, h⟩ := exists_of_bind_eq_ok h
      cases h
      exact .text s
    · split at h
      · cases h
      · next f =>
        obtain ⟨⟨vs, last⟩, hitems, h⟩ := exists_of_bind_eq_ok h
        cases h
        obtain ⟨b, rfl, hf⟩ := hinner f rfl
        exact .array (forall_of_readItems hf true _ hitems)
    · split at h
      · cases h
      · next f =>
        obtain ⟨⟨ms, last⟩, hobject, h⟩ := exists_of_bind_eq_ok h
        obtain ⟨⟨pairs, left⟩, hmembers, hpairs⟩ := exists_of_bind_eq_ok hobject
        cases hpairs
        cases h
        obtain ⟨b, rfl, hf⟩ := hinner f rfl
        -- entering the members one by one puts them in order
        exact .object (Entries.ordered_ofPairs pairs) fun m hm =>
          forall_of_readMembers hf true _ hmembers m (Entries.mem_of_mem_ofPairs hm)
    · split at h
      · obtain ⟨⟨n, last⟩, hnumber, h⟩ := exists_of_bind_eq_ok h
        cases h
        exact .number (keeps_readNumber false (c :: tail) n last hnumber)
      · cases h

/-- **A value that is read fits.** -/
theorem fits_of_readValue (a : Nat) : Yields (readValue a) (Value.Fits Number.IsKept a) := by
  induction a with
  | zero =>
    refine fits_of_readValueWith fun f hf => ?_
    cases hf
  | succ a ih =>
    refine fits_of_readValueWith fun f hf => ⟨a, rfl, ?_⟩
    cases hf
    exact ih

theorem refuse_ne_ok {α : Type} (wanted : Shape) (cs : List Char) (a : α) :
    refuse wanted cs ≠ .ok a := by
  intro h
  unfold refuse at h
  split at h
  · cases h
  · cases h
  · cases h
  · obtain ⟨found, -, h⟩ := exists_of_bind_eq_ok h
    cases h

theorem located_eq_ok_iff {α : Type} {text : List Char} {result : Except Stop α} {a : α} :
    located text result = .ok a ↔ result = .ok a := by
  cases result <;> simp [located]

/-- **The items of a list that is read fit.** -/
theorem fits_of_readList {text : String} {vs : List Value} (h : readList text = .ok vs) :
    ∀ v ∈ vs, v.Fits Number.IsKept (bracketLimit - 1) := by
  have hread := located_eq_ok_iff.mp h
  obtain ⟨⟨items, rest⟩, hleading, hread⟩ := exists_of_bind_eq_ok hread
  obtain ⟨_, -, hread⟩ := exists_of_bind_eq_ok hread
  cases hread
  unfold leadingList at hleading
  split at hleading
  · exact forall_of_readItems (fits_of_readValue _) true _ hleading
  · exact absurd hleading (refuse_ne_ok _ _ _)

/-- **What was read is read back**, if the binary numbers in it are. -/
theorem readList_renderAll_of_kept {vs : List Value}
    (h : ∀ v ∈ vs, v.Fits Number.IsKept (bracketLimit - 1))
    (hreal : ∀ v ∈ vs, ∀ x, v.Holds (.real x) → (Number.real x).ReadsBack) :
    readList (renderAll vs) = .ok vs := by
  refine readList_renderAll fun v hv => (h v hv).imp fun n hn hkept => ?_
  cases n with
  | integer n => exact readsBack_integer hkept
  | real x => exact hreal v hv x hn

end BadgeEntry.Json
