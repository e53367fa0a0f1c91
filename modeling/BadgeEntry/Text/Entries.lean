/-!
# Entries in order of their names

Field updates and the members of a JSON object are both finite maps from names
to values that are listed in the order of their names.  Names are compared
character by character by code point, which is also the order of their UTF-8
bytes.  Such a map is kept as a list of pairs with strictly increasing names, so
that two maps with the same entries are the same list.

## Main definitions

* `insert name value entries` — gives `name` the value `value`, whatever it had.
* `get? name entries` — the value of `name`.
* `ofPairs pairs` — the map that arises when the pairs are entered one after
  another, so that the last value of a name counts.
* `Ordered entries` — the names increase strictly.

## Main results

* `ordered_insert`, `ordered_ofPairs` — every map that is built is ordered.
* `get?_insert` — what a map answers after an insertion.
-/

namespace BadgeEntry.Entries

variable {α : Type}

/-- Gives `name` the value `value`: in place of its old value, or at the one
place where the names stay in order. -/
def insert (name : String) (value : α) : List (String × α) → List (String × α)
  | [] => [(name, value)]
  | (n, v) :: rest =>
    if name < n then (name, value) :: (n, v) :: rest
    else if name = n then (name, value) :: rest
    else (n, v) :: insert name value rest

/-- The value of `name`, if it has one. -/
def get? (name : String) : List (String × α) → Option α
  | [] => none
  | (n, v) :: rest => if name = n then some v else get? name rest

/-- The map that arises when `pairs` are entered from the first to the last. -/
def ofPairs (pairs : List (String × α)) : List (String × α) :=
  pairs.foldl (fun entries pair => insert pair.1 pair.2 entries) []

/-- The names increase strictly, so none occurs twice. -/
def Ordered (entries : List (String × α)) : Prop :=
  entries.Pairwise fun a b => a.1 < b.1

@[simp] theorem get?_nil (name : String) : get? name ([] : List (String × α)) = none := rfl

@[simp] theorem get?_cons (name n : String) (v : α) (rest : List (String × α)) :
    get? name ((n, v) :: rest) = if name = n then some v else get? name rest := rfl

@[simp] theorem ordered_nil : Ordered ([] : List (String × α)) := List.Pairwise.nil

theorem ordered_cons {pair : String × α} {rest : List (String × α)} :
    Ordered (pair :: rest) ↔ (∀ p ∈ rest, pair.1 < p.1) ∧ Ordered rest :=
  List.pairwise_cons

/-- The entries of a map after an insertion are among its own and the new one. -/
theorem mem_of_mem_insert {name : String} {value : α} {entries : List (String × α)}
    {p : String × α} (h : p ∈ insert name value entries) : p = (name, value) ∨ p ∈ entries := by
  induction entries with
  | nil => exact .inl (List.mem_singleton.mp h)
  | cons e rest ih =>
    obtain ⟨n, v⟩ := e
    simp only [insert] at h
    split at h
    · exact List.mem_cons.mp h
    · split at h
      · exact (List.mem_cons.mp h).imp_right (List.mem_cons_of_mem _)
      · rcases List.mem_cons.mp h with rfl | h
        · exact .inr List.mem_cons_self
        · exact (ih h).imp_right (List.mem_cons_of_mem _)

theorem ordered_insert (name : String) (value : α) {entries : List (String × α)}
    (h : Ordered entries) : Ordered (insert name value entries) := by
  induction entries with
  | nil => exact List.pairwise_singleton _ _
  | cons e rest ih =>
    obtain ⟨n, v⟩ := e
    obtain ⟨hlt, hrest⟩ := ordered_cons.mp h
    simp only [insert]
    split
    · next hn =>
      refine ordered_cons.mpr ⟨fun p hp => ?_, h⟩
      rcases List.mem_cons.mp hp with rfl | hp
      · exact hn
      · exact String.lt_trans hn (hlt p hp)
    · next hn =>
      split
      · next heq => exact ordered_cons.mpr ⟨heq ▸ hlt, hrest⟩
      · next hne =>
        refine ordered_cons.mpr ⟨fun p hp => ?_, ih hrest⟩
        rcases mem_of_mem_insert hp with rfl | hp
        · -- the new name is neither below nor equal to `n`, so it is above it
          rcases Classical.em (n < name) with hlt' | hnlt
          · exact hlt'
          · exact absurd (String.le_antisymm (String.not_lt.mp hnlt) (String.not_lt.mp hn)) hne
        · exact hlt p hp

theorem ordered_ofPairs (pairs : List (String × α)) : Ordered (ofPairs pairs) := by
  suffices h : ∀ entries : List (String × α), Ordered entries →
      Ordered (pairs.foldl (fun entries pair => insert pair.1 pair.2 entries) entries) from
    h [] ordered_nil
  induction pairs with
  | nil => exact fun _ h => h
  | cons p pairs ih => exact fun entries h => ih _ (ordered_insert p.1 p.2 h)

/-- After an insertion the new name has the new value and the others have what
they had. -/
theorem get?_insert (name : String) (value : α) (entries : List (String × α)) (k : String) :
    get? k (insert name value entries) = if k = name then some value else get? k entries := by
  induction entries with
  | nil => rfl
  | cons e rest ih =>
    obtain ⟨n, v⟩ := e
    simp only [insert]
    split
    · rfl
    · split
      · next heq => subst heq; by_cases hk : k = name <;> simp [hk]
      · next hne =>
        by_cases hk : k = n
        · subst hk; simp [Ne.symm hne]
        · simp [hk, ih]

end BadgeEntry.Entries
