import BadgeEntry.World.Disk

/-!
# Files that are written

What is written at a path where nothing was is found there afterwards: all directories on
the way are still there, so the path leads to the same names, and under these is the file.

## Main results

* `Disk.walk_insert` — a path leads to the same names after a file is put under free ones.
* `Disk.find_of_write` — **what is written at a free path is found there.**
-/

namespace BadgeEntry.Disk

variable {disk after : Disk} {path : String} {names found : List String} {bytes : List UInt8}

/-- What is found under names that do not lead to the working directory, to one above it
or to the top is among the entries. -/
theorem node?_concat (disk : Disk) (here : List String) {name : String} (hup : name ≠ "..")
    (hempty : name ≠ "") :
    disk.node? (here ++ [name]) = Entries.get? (join (here ++ [name])) disk.entries := by
  have habove : isAbove (here ++ [name]) = false := by
    simp [isAbove, hup]
  have htop : isTop (here ++ [name]) = false := by
    rw [isTop, beq_eq_false_iff_ne]
    intro heq
    have hlast := congrArg List.getLast? heq
    rw [List.getLast?_concat] at hlast
    exact hempty (Option.some.inj hlast)
  rw [node?, habove, htop]
  rfl

/-- Names under which there is nothing lead neither to the working directory nor up, so on
any disk what is under them is among the entries. -/
theorem node?_of_none (h : disk.node? names = none) (other : Disk) :
    other.node? names = Entries.get? (join names) other.entries := by
  unfold node? at h ⊢
  split
  · next habove =>
    rw [if_pos habove] at h
    cases h
  · rfl

/-- **A path leads to the same names** after a file is put under names that were free. -/
theorem walk_insert (hfree : disk.node? names = none) (node : Node) {here rest : List String}
    (hnames : ∀ name ∈ rest, name ≠ "") (h : disk.walk here rest = .ok found) :
    (Disk.mk (Entries.insert (join names) node disk.entries)).walk here rest = .ok found := by
  have hget := hfree.symm.trans (node?_of_none hfree disk)
  -- the directory in which the walk goes on changes with each name
  induction rest generalizing here with
  | nil => exact h
  | cons name rest ih =>
    rw [List.forall_mem_cons] at hnames
    rw [walk] at h ⊢
    split
    · next hpoint =>
      rw [if_pos hpoint] at h
      exact ih hnames.2 h
    · next hpoint =>
      rw [if_neg hpoint] at h
      split
      · next hup =>
        rw [if_pos hup] at h
        exact ih hnames.2 h
      · next hup =>
        rw [if_neg hup] at h
        split
        · next hlast => rwa [if_pos hlast] at h
        · next hlast =>
          rw [if_neg hlast, node?_concat disk here hup hnames.1] at h
          rw [node?_concat _ here hup hnames.1, Entries.get?_insert]
          -- a directory on the way is not under the names that were free
          cases hnode : Entries.get? (join (here ++ [name])) disk.entries with
          | none =>
            rw [hnode] at h
            cases h
          | some node =>
            have hne : join (here ++ [name]) ≠ join names := by
              intro heq
              rw [heq, ← hget] at hnode
              cases hnode
            rw [if_neg hne]
            rw [hnode] at h
            cases node with
            | file bytes => cases h
            | directory => exact ih hnames.2 h

theorem ne_empty_of_mem_namesOf {name : String} (h : name ∈ namesOf path) : name ≠ "" :=
  of_decide_eq_true (List.mem_filter.mp h).2

theorem locate_insert (hfree : disk.node? names = none) (node : Node)
    (h : disk.locate path = .ok found) :
    (Disk.mk (Entries.insert (join names) node disk.entries)).locate path = .ok found := by
  have hwalk {here : List String} (h : disk.walk here (namesOf path) = .ok found) :=
    walk_insert hfree node (fun _ => ne_empty_of_mem_namesOf) h
  unfold locate at h ⊢
  split at h
  · cases h
  · exact hwalk h
  · exact hwalk h

/-- What a path leads to, from the names that it leads to. -/
theorem find_of_locate (h : disk.locate path = .ok names) :
    disk.find path = match disk.node? names with
      | none => .error .notFound
      | some (.file bytes) => if endsInSlash path then .error .notDirectory else .ok (.file bytes)
      | some .directory => .ok .directory := by
  rw [find, h]
  rfl

theorem write_of_locate (h : disk.locate path = .ok names) :
    disk.write path bytes = match disk.node? names with
      | some .directory => .error .isDirectory
      | some (.file _) =>
        if endsInSlash path then .error .notDirectory
        else .ok ⟨Entries.insert (join names) (.file bytes) disk.entries⟩
      | none =>
        if endsInSlash path then .error .isDirectory
        else .ok ⟨Entries.insert (join names) (.file bytes) disk.entries⟩ := by
  rw [write, h]
  rfl

/-- What is written at a free path comes under names that were free. -/
theorem exists_of_write (hfree : disk.exists? path = false)
    (h : disk.write path bytes = .ok after) :
    ∃ names, disk.locate path = .ok names ∧ disk.node? names = none ∧ endsInSlash path = false ∧
      after = ⟨Entries.insert (join names) (.file bytes) disk.entries⟩ := by
  cases hlocate : disk.locate path with
  | error fault =>
    rw [write, hlocate] at h
    cases h
  | ok names =>
    rw [exists?, find_of_locate hlocate] at hfree
    rw [write_of_locate hlocate] at h
    cases hnode : disk.node? names with
    | none =>
      cases hslash : endsInSlash path with
      | true => simp [hnode, hslash] at h
      | false =>
        simp only [hnode, hslash] at h
        cases h
        exact ⟨names, rfl, hnode, rfl, rfl⟩
    | some node =>
      cases node with
      | directory => simp [hnode] at h
      | file old =>
        -- a file is overwritten only where it is found
        cases hslash : endsInSlash path with
        | true => simp [hnode, hslash] at h
        | false =>
          simp only [hnode, hslash] at hfree
          cases hfree

/-- **What is written at a free path is found there.** -/
theorem find_of_write (hfree : disk.exists? path = false)
    (h : disk.write path bytes = .ok after) : after.find path = .ok (.file bytes) := by
  obtain ⟨names, hlocate, hnode, hslash, rfl⟩ := exists_of_write hfree h
  rw [find_of_locate (locate_insert hnode _ hlocate), node?_of_none hnode, Entries.get?_insert,
    if_pos rfl]
  simp only [hslash]
  rfl

theorem read_of_write (hfree : disk.exists? path = false)
    (h : disk.write path bytes = .ok after) : after.read path = .ok bytes := by
  rw [read, find_of_write hfree h]
  rfl

/-- Where bytes can be read there is something. -/
theorem exists?_of_read (h : disk.read path = .ok bytes) : disk.exists? path = true := by
  unfold read at h
  rw [exists?]
  cases hfind : disk.find path with
  | error fault =>
    rw [hfind] at h
    cases h
  | ok node => rfl

/-- **The text of a file is the one that was encoded.** -/
theorem readText_of_read {text : String} (h : disk.read path = .ok (Utf8.encode text.toList)) :
    disk.readText path = .ok text := by
  rw [readText, h]
  simp only [bind, Except.bind, Utf8.decode?_encode, String.ofList_toList]

end BadgeEntry.Disk
