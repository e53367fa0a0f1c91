import BadgeEntry.Pattern.Search
import BadgeEntry.Proofs.Text.Spans

/-!
# What threads come to

Some threads lead to others if following them comes to following the others, with a number of
steps less to go.  What a single instruction does is said in this form, and runs of instructions
are put together from it.

## Main definitions

* `Leads` — threads lead to others in a number of steps.

## Main results

* `leads_take`, `leads_of_stops`, `leads_mark`, `leads_jump`, `leads_fork`, `leads_of_contains` —
  single instructions.
* `leads_literal`, `exists_leads_of_not_prefix` — **a text is taken as it is, or not at all.**
* `exists_leads_many` — **a repetition takes all the characters it can.**
* `Pattern.group?_congr` — patterns with the same instructions find the same.
-/

namespace BadgeEntry

open Text

/-- Some threads come to others in a number of steps. -/
def Leads (code : Array Instruction) (steps : Nat) (seen : Forks) (threads : List Thread)
    (seen' : Forks) (threads' : List Thread) : Prop :=
  ∀ fuel, follow code (fuel + steps) seen threads = follow code fuel seen' threads'

section
variable {code : Array Instruction} {seen : Forks} {waiting : List Thread} {set : CharSet}
  {c : Char} {address offset : Nat} {rest : List Char} {marks : Marks}

theorem Leads.trans {j k : Nat} {seen₁ seen₂ seen₃ : Forks}
    {threads₁ threads₂ threads₃ : List Thread}
    (h : Leads code j seen₁ threads₁ seen₂ threads₂)
    (h' : Leads code k seen₂ threads₂ seen₃ threads₃) :
    Leads code (j + k) seen₁ threads₁ seen₃ threads₃ := by
  intro fuel
  rw [Nat.add_comm j k, ← Nat.add_assoc, h, h']

theorem Leads.follow_eq {steps fuel : Nat} {seen' : Forks} {threads threads' : List Thread}
    (h : Leads code steps seen threads seen' threads') (hfuel : steps ≤ fuel) :
    follow code fuel seen threads = follow code (fuel - steps) seen' threads' := by
  rw [← h, Nat.sub_add_cancel hfuel]

theorem follow_nil (fuel : Nat) : follow code fuel seen [] = (none, seen) := by
  cases fuel <;> rfl

/-! ### Single instructions -/

attribute [simp] follow

theorem leads_take (hcode : code[address]? = some (.take set)) (hc : set.has c = true) :
    Leads code 1 seen (⟨address, offset, c :: rest, marks⟩ :: waiting)
      seen (⟨address + 1, offset + 1, rest, marks⟩ :: waiting) := by
  intro fuel
  simp [hcode, hc]

/-- A thread fails where no character can be taken. -/
theorem leads_of_stops (hcode : code[address]? = some (.take set)) (hstops : Stops set.has rest) :
    Leads code 1 seen (⟨address, offset, rest, marks⟩ :: waiting) seen waiting := by
  intro fuel
  cases rest with
  | nil => simp [hcode]
  | cons c rest =>
    have hc : set.has c = false := (stops_cons _).mp hstops
    simp [hcode, hc]

theorem leads_mark {slot : Nat} (hcode : code[address]? = some (.mark slot)) :
    Leads code 1 seen (⟨address, offset, rest, marks⟩ :: waiting)
      seen (⟨address + 1, offset, rest, (slot, offset) :: marks⟩ :: waiting) := by
  intro fuel
  simp [hcode]

theorem leads_jump {target : Nat} (hcode : code[address]? = some (.jump target)) :
    Leads code 1 seen (⟨address, offset, rest, marks⟩ :: waiting)
      seen (⟨target, offset, rest, marks⟩ :: waiting) := by
  intro fuel
  simp [hcode]

theorem leads_fork {first second : Nat} (hcode : code[address]? = some (.fork first second))
    (hnew : seen.contains (address, offset) = false) :
    Leads code 1 seen (⟨address, offset, rest, marks⟩ :: waiting) (seen.insert (address, offset))
      (⟨first, offset, rest, marks⟩ :: ⟨second, offset, rest, marks⟩ :: waiting) := by
  intro fuel
  simp [hcode, hnew]

/-- A fork that was come to does not count for the others. -/
theorem contains_insert_of_pair_ne {fork other : Nat × Nat} (hne : fork ≠ other) :
    (seen.insert fork).contains other = seen.contains other := by
  rw [Std.TreeSet.contains_insert, Bool.or_eq_right_iff_imp, beq_iff_eq]
  exact fun heq => absurd (Std.LawfulEqCmp.compare_eq_iff_eq.mp heq) hne

/-- Forks are told apart by their places. -/
theorem contains_insert_of_ne {place : Nat} (hne : offset ≠ place)
    (hseen : seen.contains (address, place) = false) :
    (seen.insert (address, offset)).contains (address, place) = false := by
  rw [contains_insert_of_pair_ne fun heq => hne (Prod.mk.inj heq).2, hseen]

/-- A thread is given up at a fork that another one came to. -/
theorem leads_of_contains {first second : Nat} (hcode : code[address]? = some (.fork first second))
    (hseen : seen.contains (address, offset) = true) :
    Leads code 1 seen (⟨address, offset, rest, marks⟩ :: waiting) seen waiting := by
  intro fuel
  simp [hcode, hseen]

/-- A thread behind the last instruction has matched. -/
theorem follow_of_matched {fuel : Nat} (hcode : code[address]? = none) (hfuel : 0 < fuel) :
    follow code fuel seen (⟨address, offset, rest, marks⟩ :: waiting) = (some marks, seen) := by
  obtain ⟨fuel, rfl⟩ := Nat.exists_eq_succ_of_ne_zero hfuel.ne'
  simp [hcode]

/-! ### A text as it is -/

/-- From an address on, the characters of a text are taken. -/
def TakesLiteral (code : Array Instruction) (address : Nat) (text : List Char) : Prop :=
  ∀ i c, text[i]? = some c → code[address + i]? = some (.take (.only c))

theorem TakesLiteral.head {cs : List Char} (h : TakesLiteral code address (c :: cs)) :
    code[address]? = some (.take (.only c)) :=
  h 0 c rfl

theorem TakesLiteral.tail {cs : List Char} (h : TakesLiteral code address (c :: cs)) :
    TakesLiteral code (address + 1) cs := by
  intro i d hd
  rw [Nat.add_right_comm, Nat.add_assoc]
  exact h (i + 1) d hd

variable (seen offset marks waiting)

/-- A text is taken if it is there. -/
theorem leads_literal {text : List Char} (hcode : TakesLiteral code address text) :
    Leads code text.length seen (⟨address, offset, text ++ rest, marks⟩ :: waiting)
      seen (⟨address + text.length, offset + text.length, rest, marks⟩ :: waiting) := by
  induction text generalizing address offset with
  | nil => exact fun fuel => rfl
  | cons c text ih =>
    have hc : (CharSet.only c).has c = true := decide_eq_true rfl
    rw [List.length_cons, Nat.add_comm text.length 1, ← Nat.add_assoc, ← Nat.add_assoc]
    exact (leads_take hcode.head hc).trans (ih (offset + 1) hcode.tail)

/-- A thread fails if the text is not there. -/
theorem exists_leads_of_not_prefix {text : List Char} (hcode : TakesLiteral code address text)
    (hnot : ¬text <+: rest) : ∃ steps ≤ text.length,
      Leads code steps seen (⟨address, offset, rest, marks⟩ :: waiting) seen waiting := by
  induction text generalizing address offset rest with
  | nil => exact absurd List.nil_prefix hnot
  | cons c text ih =>
    rcases rest with _ | ⟨d, rest⟩
    · exact ⟨1, Nat.le_add_left 1 _, leads_of_stops hcode.head (stops_nil _)⟩
    · by_cases hd : d = c
      · subst hd
        have hrest : ¬text <+: rest := fun h => hnot ((List.prefix_cons_inj d).mpr h)
        obtain ⟨steps, hsteps, hleads⟩ := ih (offset + 1) hcode.tail hrest
        have hd : (CharSet.only d).has d = true := decide_eq_true rfl
        refine ⟨1 + steps, ?_, (leads_take hcode.head hd).trans hleads⟩
        rw [List.length_cons]
        omega
      · have hstops : Stops (CharSet.only c).has (d :: rest) :=
          (stops_cons _).mpr (decide_eq_false hd)
        exact ⟨1, Nat.le_add_left 1 _, leads_of_stops hcode.head hstops⟩

end

/-! ### Any number of characters -/

section
variable {code : Array Instruction} {set : CharSet} {address offset : Nat} {run rest : List Char}
  {seen : Forks} {marks : Marks}

/-- From an address on, any number of characters of a set is taken. -/
structure TakesMany (code : Array Instruction) (set : CharSet) (address : Nat) : Prop where
  /-- One more character, or the end. -/
  fork : code[address]? = some (.fork (address + 1) (address + 3))
  /-- The character. -/
  take : code[address + 1]? = some (.take set)
  /-- Back to the choice. -/
  jump : code[address + 2]? = some (.jump address)

/-- One more character is taken, and a thread waits that would have taken no more. -/
theorem TakesMany.leads_round {c : Char} (hcode : TakesMany code set address)
    (marks : Marks) (waiting : List Thread) (hc : set.has c = true)
    (hnew : seen.contains (address, offset) = false) :
    Leads code 3 seen (⟨address, offset, c :: rest, marks⟩ :: waiting)
      (seen.insert (address, offset)) (⟨address, offset + 1, rest, marks⟩ ::
        ⟨address + 3, offset, c :: rest, marks⟩ :: waiting) :=
  ((leads_fork hcode.fork hnew).trans (leads_take hcode.take hc)).trans (leads_jump hcode.jump)

/-- No more characters are taken where none can be. -/
theorem TakesMany.leads_end (hcode : TakesMany code set address) (marks : Marks)
    (waiting : List Thread) (hstops : Stops set.has rest)
    (hnew : seen.contains (address, offset) = false) :
    Leads code 2 seen (⟨address, offset, rest, marks⟩ :: waiting)
      (seen.insert (address, offset)) (⟨address + 3, offset, rest, marks⟩ :: waiting) :=
  (leads_fork hcode.fork hnew).trans (leads_of_stops hcode.take hstops)

/-- All the characters are taken that can be, and forks at other addresses are not touched. -/
theorem exists_leads_many (hcode : TakesMany code set address) (marks : Marks)
    (waiting : List Thread) (hrun : ∀ c ∈ run, set.has c = true) (hstops : Stops set.has rest)
    (hnew : ∀ i ≤ run.length, seen.contains (address, offset + i) = false) :
    ∃ seen' waiting', Leads code (3 * run.length + 2)
      seen (⟨address, offset, run ++ rest, marks⟩ :: waiting)
      seen' (⟨address + 3, offset + run.length, rest, marks⟩ :: waiting') ∧
      ∀ other ≠ address, ∀ place, seen'.contains (other, place) = seen.contains (other, place) := by
  -- each character leaves one more thread that waits, for the end of the run there
  induction run generalizing seen offset waiting with
  | nil =>
    refine ⟨_, _, hcode.leads_end marks waiting hstops (hnew 0 (Nat.zero_le _)), ?_⟩
    exact fun other hne place => contains_insert_of_pair_ne fun heq => hne (Prod.mk.inj heq).1.symm
  | cons c run ih =>
    obtain ⟨hc, hrun⟩ := List.forall_mem_cons.mp hrun
    have hround : Leads code 3 seen (⟨address, offset, c :: (run ++ rest), marks⟩ :: waiting)
        (seen.insert (address, offset)) (⟨address, offset + 1, run ++ rest, marks⟩ ::
          ⟨address + 3, offset, c :: (run ++ rest), marks⟩ :: waiting) :=
      hcode.leads_round marks waiting hc (hnew 0 (Nat.zero_le _))
    have hnew' : ∀ i ≤ run.length,
        (seen.insert (address, offset)).contains (address, offset + 1 + i) = false := by
      intro i hi
      have hplace := hnew (i + 1) (Nat.succ_le_succ hi)
      rw [Nat.add_comm i 1, ← Nat.add_assoc] at hplace
      exact contains_insert_of_ne (by omega) hplace
    obtain ⟨seen', waiting', hrest, hsame⟩ := ih _ hrun hnew'
    refine ⟨seen', waiting', ?_, fun other hne place => ?_⟩
    · have hsteps : 3 * (c :: run).length + 2 = 3 + (3 * run.length + 2) := by
        rw [List.length_cons]
        omega
      have hplace : offset + (c :: run).length = offset + 1 + run.length := by
        rw [List.length_cons, Nat.add_assoc, Nat.add_comm 1]
      rw [hsteps, hplace]
      exact hround.trans hrest
    · rw [hsame other hne place]
      exact contains_insert_of_pair_ne fun heq => hne (Prod.mk.inj heq).1.symm

end

/-! ### The instructions of a pattern -/

namespace Pattern

/-- Patterns with the same instructions find the same. -/
theorem group?_congr {p q : Pattern} (h : p.code 0 = q.code 0) : p.group? = q.group? := by
  have hsize : p.size = q.size := by rw [← length_code p 0, h, length_code]
  funext index text
  simp only [group?, find?, fuel, h, hsize]

theorem code_literal (cs : List Char) (here : Nat) :
    (literal cs).code here = cs.map fun c => .take (.only c) := by
  induction cs generalizing here with
  | nil => rfl
  | cons c cs ih =>
    change .take (.only c) :: (literal cs).code (here + 1) = _
    rw [ih, List.map_cons]

end Pattern

end BadgeEntry
