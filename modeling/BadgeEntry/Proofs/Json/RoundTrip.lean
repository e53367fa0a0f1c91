import BadgeEntry.Proofs.Json.Numbers
import BadgeEntry.Proofs.Json.Texts

/-!
# Values are read back

A value is read back from its compact text, whatever follows, as long as that cannot go on
a number: item by item and member by member, each with one bracket less to open.  The
members of an object come back because they are in the order of their names.

## Main definitions

* `Value.Fits` — a value with a bounded number of open brackets, with its members in order
  and its numbers of some kind.

## Main results

* `readValue_write` — **a value is read back**, whatever follows.
* `readList_renderAll` — **a list of values is read back.**
-/

namespace BadgeEntry.Entries

variable {α : Type}

/-- An entry with the greatest name comes last. -/
theorem insert_of_forall_lt {name : String} {value : α} {entries : List (String × α)}
    (h : ∀ p ∈ entries, p.1 < name) : insert name value entries = entries ++ [(name, value)] := by
  induction entries with
  | nil => rfl
  | cons e rest ih =>
    obtain ⟨n, v⟩ := e
    rw [List.forall_mem_cons] at h
    have hne : name ≠ n := fun heq => String.lt_irrefl n (heq ▸ h.1)
    rw [insert, if_neg (String.lt_asymm h.1), if_neg hne, ih h.2, List.cons_append]

/-- Entries that are in order stay as they are. -/
theorem ofPairs_eq_self {entries : List (String × α)} (h : Ordered entries) :
    ofPairs entries = entries := by
  suffices hfold : ∀ done rest : List (String × α), Ordered (done ++ rest) →
      rest.foldl (fun entries pair => insert pair.1 pair.2 entries) done = done ++ rest from
    hfold [] entries h
  intro done rest hordered
  induction rest generalizing done with
  | nil => exact (List.append_nil done).symm
  | cons e rest ih =>
    have hlast : ∀ p ∈ done, p.1 < e.1 := fun p hp =>
      (List.pairwise_append.mp hordered).2.2 p hp e List.mem_cons_self
    rw [List.foldl_cons, insert_of_forall_lt hlast, ih]
    · rw [List.append_assoc, List.singleton_append]
    · rwa [List.append_assoc, List.singleton_append]

end BadgeEntry.Entries

namespace BadgeEntry.Json

open Text

/-! ### Values -/

/-- A value in which at most some brackets are open at once, with the members of objects in
order and with numbers of some kind. -/
inductive Value.Fits (P : Number → Prop) : Nat → Value → Prop
  | null {a : Nat} : Fits P a .null
  | bool {a : Nat} (b : Bool) : Fits P a (.bool b)
  | number {a : Nat} {n : Number} (kind : P n) : Fits P a (.number n)
  | text {a : Nat} (s : String) : Fits P a (.text s)
  | array {a : Nat} {vs : List Value} (items : ∀ v ∈ vs, Fits P a v) : Fits P (a + 1) (.array vs)
  | object {a : Nat} {ms : Members} (ordered : Entries.Ordered ms)
    (members : ∀ m ∈ ms, Fits P a m.2) : Fits P (a + 1) (.object ms)

/-- Whether `c` may be the first character of a value. -/
def isValueStart (c : Char) : Bool :=
  !isJsonBlank c && c != ']' && c != '\x7d'

theorem exists_write_eq_cons (v : Value) :
    ∃ c cs, write v = c :: cs ∧ isValueStart c = true := by
  cases v with
  | null => exact ⟨'n', _, rfl, rfl⟩
  | bool b =>
    cases b with
    | true => exact ⟨'t', _, rfl, rfl⟩
    | false => exact ⟨'f', _, rfl, rfl⟩
  | number n =>
    obtain ⟨c, cs, htext, hc⟩ := exists_text_eq_cons n
    refine ⟨c, cs, htext, ?_⟩
    by_contra hstart
    simp only [isValueStart, isJsonBlank, Bool.and_eq_true, Bool.not_eq_true', Bool.or_eq_false_iff,
      beq_eq_false_iff_ne, bne_iff_ne, not_and_or, not_not] at hstart
    rcases hstart with ((((rfl | rfl) | rfl) | rfl) | rfl) | rfl <;> exact absurd hc (by decide)
  | text s => exact ⟨'"', _, rfl, rfl⟩
  | array vs => exact ⟨'[', _, rfl, rfl⟩
  | object ms => exact ⟨'\x7b', _, rfl, rfl⟩

/-- A reader that reads a value back in front of what cannot go on a number. -/
def ReadsBack (f : Reader Value) (v : Value) : Prop :=
  ∀ rest, Stops isNumberChar rest → f (write v ++ rest) = .ok (v, rest)

/-- A text that begins with a value begins with no blank and no closing bracket. -/
theorem exists_append_eq_cons (v : Value) (rest : List Char) :
    ∃ c cs, write v ++ rest = c :: cs ∧ skipBlanks (write v ++ rest) = c :: cs ∧ c ≠ ']' ∧
      c ≠ '\x7d' := by
  obtain ⟨c, cs, hwrite, hc⟩ := exists_write_eq_cons v
  simp only [isValueStart, Bool.and_eq_true, Bool.not_eq_true', bne_iff_ne] at hc
  obtain ⟨⟨hblank, hlist⟩, hobject⟩ := hc
  refine ⟨c, cs ++ rest, by rw [hwrite, List.cons_append], ?_, hlist, hobject⟩
  rw [hwrite, List.cons_append, skipBlanks_cons hblank]

/-! ### Lists -/

/-- What an item of a list, and the items behind it, come to. -/
def pushItem (f : Reader Value) (fuel : Nat) (cs : List Char) :
    Except Stop (List Value × List Char) := do
  let (v, rest) ← f cs
  let (vs, rest) ← readItems f false fuel rest
  return (v :: vs, rest)

section
variable (f : Reader Value) (fuel : Nat)

theorem readItems_close (first : Bool) (rest : List Char) :
    readItems f first (fuel + 1) (']' :: rest) = .ok ([], rest) := rfl

theorem readItems_first {c : Char} {cs text : List Char} (htext : skipBlanks text = c :: cs)
    (hc : c ≠ ']') : readItems f true (fuel + 1) text = pushItem f fuel (c :: cs) := by
  rw [readItems, htext]
  simp only [if_neg hc]
  rfl

theorem readItems_comma {c : Char} {cs text : List Char} (htext : skipBlanks text = c :: cs)
    (hc : c ≠ ']') : readItems f false (fuel + 1) (',' :: text) = pushItem f fuel (c :: cs) := by
  have hcomma : skipBlanks (',' :: text) = ',' :: text := rfl
  rw [readItems, hcomma]
  simp only [htext, if_neg (by decide : ',' ≠ ']'), if_neg hc]
  rfl

end

theorem stops_writeItems (vs : List Value) (rest : List Char) :
    Stops isNumberChar (writeItems false vs ++ ']' :: rest) := by
  cases vs with
  | nil => exact (stops_cons _).mpr rfl
  | cons v vs => exact (stops_cons _).mpr rfl

/-- **The items of a list are read back.** -/
theorem readItems_writeItems {f : Reader Value} {vs : List Value}
    (h : ∀ v ∈ vs, ReadsBack f v) (first : Bool) {fuel : Nat} (hfuel : vs.length < fuel)
    (rest : List Char) :
    readItems f first fuel (writeItems first vs ++ ']' :: rest) = .ok (vs, rest) := by
  induction vs generalizing first fuel with
  | nil =>
    obtain ⟨fuel, rfl⟩ := Nat.exists_eq_succ_of_ne_zero (Nat.ne_zero_of_lt hfuel)
    exact readItems_close f fuel first rest
  | cons v vs ih =>
    obtain ⟨fuel, rfl⟩ := Nat.exists_eq_succ_of_ne_zero (Nat.ne_zero_of_lt hfuel)
    rw [List.forall_mem_cons] at h
    have hlength : vs.length < fuel := by
      rw [List.length_cons] at hfuel
      omega
    -- the comma or the bracket behind an item cannot go on a number
    have hitem := h.1 _ (stops_writeItems vs rest)
    have hpush : pushItem f fuel (write v ++ (writeItems false vs ++ ']' :: rest)) =
        .ok (v :: vs, rest) := by
      unfold pushItem
      rw [hitem]
      change (readItems f false fuel _).bind _ = _
      rw [ih h.2 false hlength]
      rfl
    obtain ⟨c, cs, htext, hskip, hc, -⟩ :=
      exists_append_eq_cons v (writeItems false vs ++ ']' :: rest)
    rw [htext] at hpush
    cases first with
    | true =>
      have hwrite : writeItems true (v :: vs) ++ ']' :: rest =
          write v ++ (writeItems false vs ++ ']' :: rest) := by
        rw [writeItems, if_pos rfl, List.nil_append, List.append_assoc]
      rw [hwrite, readItems_first f fuel hskip hc, hpush]
    | false =>
      have hwrite : writeItems false (v :: vs) ++ ']' :: rest =
          ',' :: (write v ++ (writeItems false vs ++ ']' :: rest)) := by
        rw [writeItems, if_neg (by decide), List.append_assoc, List.append_assoc]
        rfl
      rw [hwrite, readItems_comma f fuel hskip hc, hpush]

theorem length_le_length_writeItems (first : Bool) (vs : List Value) :
    vs.length ≤ (writeItems first vs).length := by
  induction vs generalizing first with
  | nil => exact Nat.zero_le _
  | cons v vs ih =>
    obtain ⟨c, cs, hwrite, -⟩ := exists_write_eq_cons v
    have hrest := ih false
    rw [writeItems, hwrite]
    simp only [List.length_append, List.length_cons]
    omega

theorem readListWith_writeItems {f : Reader Value} {vs : List Value}
    (h : ∀ v ∈ vs, ReadsBack f v) (rest : List Char) :
    readListWith f (writeItems true vs ++ ']' :: rest) = .ok (vs, rest) := by
  have hlength := length_le_length_writeItems true vs
  refine readItems_writeItems h true ?_ rest
  rw [List.length_append]
  omega

/-! ### Objects -/

/-- What a member of an object, and the members behind it, come to. -/
def pushMember (f : Reader Value) (fuel : Nat) (cs : List Char) :
    Except Stop (Members × List Char) := do
  let (m, rest) ← readMember f cs
  let (ms, rest) ← readMembers f false fuel rest
  return (m :: ms, rest)

section
variable (f : Reader Value) (fuel : Nat)

theorem readMembers_close (first : Bool) (rest : List Char) :
    readMembers f first (fuel + 1) ('\x7d' :: rest) = .ok ([], rest) := rfl

theorem readMembers_first (cs : List Char) :
    readMembers f true (fuel + 1) ('"' :: cs) = pushMember f fuel ('"' :: cs) := rfl

theorem readMembers_comma (cs : List Char) :
    readMembers f false (fuel + 1) (',' :: '"' :: cs) = pushMember f fuel ('"' :: cs) := rfl

end

theorem stops_writeMembers (ms : Members) (rest : List Char) :
    Stops isNumberChar (writeMembers false ms ++ '\x7d' :: rest) := by
  cases ms with
  | nil => exact (stops_cons _).mpr rfl
  | cons m ms => exact (stops_cons _).mpr rfl

/-- A member is read back. -/
theorem readMember_write {f : Reader Value} (name : String) {v : Value} (h : ReadsBack f v)
    {rest : List Char} (hrest : Stops isNumberChar rest) :
    readMember f ('"' :: (name.toList.flatMap writeChar ++ '"' :: ':' :: (write v ++ rest))) =
      .ok ((name, v), rest) := by
  have hcolon : skipBlanks (':' :: (write v ++ rest)) = ':' :: (write v ++ rest) := rfl
  rw [readMember, if_pos rfl, readText_writeText]
  simp only [bind, Except.bind, hcolon, if_pos, h rest hrest]
  rfl

theorem writeMembers_cons (first : Bool) (name : String) (v : Value) (ms : Members)
    (rest : List Char) : writeMembers first ((name, v) :: ms) ++ '\x7d' :: rest =
      (if first then [] else [',']) ++ '"' :: (name.toList.flatMap writeChar ++
        '"' :: ':' :: (write v ++ (writeMembers false ms ++ '\x7d' :: rest))) := by
  rw [writeMembers, writeText]
  simp only [List.append_assoc, List.cons_append, List.nil_append]

/-- **The members of an object are read back.** -/
theorem readMembers_writeMembers {f : Reader Value} {ms : Members}
    (h : ∀ m ∈ ms, ReadsBack f m.2) (first : Bool) {fuel : Nat} (hfuel : ms.length < fuel)
    (rest : List Char) :
    readMembers f first fuel (writeMembers first ms ++ '\x7d' :: rest) = .ok (ms, rest) := by
  induction ms generalizing first fuel with
  | nil =>
    obtain ⟨fuel, rfl⟩ := Nat.exists_eq_succ_of_ne_zero (Nat.ne_zero_of_lt hfuel)
    exact readMembers_close f fuel first rest
  | cons m ms ih =>
    obtain ⟨fuel, rfl⟩ := Nat.exists_eq_succ_of_ne_zero (Nat.ne_zero_of_lt hfuel)
    obtain ⟨name, v⟩ := m
    rw [List.forall_mem_cons] at h
    have hlength : ms.length < fuel := by
      rw [List.length_cons] at hfuel
      omega
    have hmember := readMember_write name h.1 (stops_writeMembers ms rest)
    have hpush : pushMember f fuel ('"' :: (name.toList.flatMap writeChar ++
        '"' :: ':' :: (write v ++ (writeMembers false ms ++ '\x7d' :: rest)))) =
          .ok ((name, v) :: ms, rest) := by
      unfold pushMember
      rw [hmember]
      change (readMembers f false fuel _).bind _ = _
      rw [ih h.2 false hlength]
      rfl
    rw [writeMembers_cons]
    cases first with
    | true => exact (readMembers_first f fuel _).trans hpush
    | false => exact (readMembers_comma f fuel _).trans hpush

theorem length_le_length_writeMembers (first : Bool) (ms : Members) :
    ms.length ≤ (writeMembers first ms).length := by
  induction ms generalizing first with
  | nil => exact Nat.zero_le _
  | cons m ms ih =>
    have hrest := ih false
    rw [writeMembers]
    simp only [List.length_append, List.length_cons]
    omega

theorem readObjectWith_writeMembers {f : Reader Value} {ms : Members}
    (hordered : Entries.Ordered ms) (h : ∀ m ∈ ms, ReadsBack f m.2) (rest : List Char) :
    readObjectWith f (writeMembers true ms ++ '\x7d' :: rest) = .ok (ms, rest) := by
  have hlength := length_le_length_writeMembers true ms
  have hread := readMembers_writeMembers h true
    (by rw [List.length_append, List.length_cons]; omega :
      ms.length < (writeMembers true ms ++ '\x7d' :: rest).length + 1) rest
  unfold readObjectWith
  rw [hread]
  exact congrArg (fun t => Except.ok (t, rest)) (Entries.ofPairs_eq_self hordered)

/-! ### Values -/

theorem readValueWith_quote (inner : Option (Reader Value)) (cs : List Char) :
    readValueWith inner ('"' :: cs) =
      (readText cs).map fun found => (.text found.1, found.2) := rfl

theorem readValueWith_list (f : Reader Value) (cs : List Char) :
    readValueWith (some f) ('[' :: cs) =
      (readListWith f cs).map fun found => (.array found.1, found.2) := rfl

theorem readValueWith_object (f : Reader Value) (cs : List Char) :
    readValueWith (some f) ('\x7b' :: cs) =
      (readObjectWith f cs).map fun found => (.object found.1, found.2) := rfl

/-- **A value is read back** by a reader that may open its brackets. -/
theorem readValue_write {a : Nat} {v : Value} (h : v.Fits Number.ReadsBack a) :
    ReadsBack (readValue a) v := by
  induction h with
  | @null a =>
    intro rest _
    cases a <;> rfl
  | @bool a b =>
    intro rest _
    cases a <;> cases b <;> rfl
  | @number a n kind =>
    intro rest hrest
    cases a with
    | zero => exact readValueWith_text kind none hrest
    | succ a => exact readValueWith_text kind (some (readValue a)) hrest
  | @text a s =>
    intro rest _
    have hread (inner : Option (Reader Value)) :
        readValueWith inner (writeText s ++ rest) = .ok (.text s, rest) := by
      rw [writeText, List.append_assoc, List.cons_append, readValueWith_quote,
        List.singleton_append, readText_writeText]
      rfl
    cases a with
    | zero => exact hread none
    | succ a => exact hread (some (readValue a))
  | @array a vs items ih =>
    intro rest _
    have hinner : '[' :: writeItems true vs ++ [']'] ++ rest =
        '[' :: (writeItems true vs ++ ']' :: rest) := by simp
    rw [write, hinner, readValue, readValueWith_list, readListWith_writeItems ih rest]
    rfl
  | @object a ms ordered members ih =>
    intro rest _
    have hinner : '\x7b' :: writeMembers true ms ++ ['\x7d'] ++ rest =
        '\x7b' :: (writeMembers true ms ++ '\x7d' :: rest) := by simp
    rw [write, hinner, readValue, readValueWith_object, readObjectWith_writeMembers ordered ih rest]
    rfl

/-- **A list of values is read back.** -/
theorem readList_renderAll {vs : List Value}
    (h : ∀ v ∈ vs, v.Fits Number.ReadsBack (bracketLimit - 1)) :
    readList (renderAll vs) = .ok vs := by
  have hchars : (renderAll vs).toList = '[' :: (writeItems true vs ++ [']']) :=
    String.toList_ofList
  have hleading : leadingList ('[' :: (writeItems true vs ++ [']'])) = .ok (vs, []) :=
    readListWith_writeItems (fun v hv => readValue_write (h v hv)) []
  unfold readList
  rw [hchars, hleading]
  rfl

end BadgeEntry.Json
