import BadgeEntry.Pattern.Reader
import BadgeEntry.Proofs.Pattern.Following

/-!
# Where names are cut

Between two names stands a comma with the spaces next to it.  A search for that pattern finds the
first comma of a text, the spaces before it and the spaces behind it: it starts at the leftmost
of the spaces, and takes as many of them as it can.

A search that starts in front of spaces takes them in vain if no comma follows, and leaves forks
behind.  A later search that comes to one of them would have done the same, so no comma is hidden.

## Main definitions

* `Pattern.span?`, `Pattern.cut` — the place of the first match, and a text cut at all of them.
* `separator` — a comma with the spaces next to it.
* `AtSeparator` — a separator stands at the front of a text.
* `Harmless` — forks that hide no separator.

## Main results

* `exists_leads_of_not_atSeparator` — spaces that are taken in vain.
* `followFrom_of_separator`, `followFrom_of_notMem` — a search from one place on.
* `span?_append_comma`, `span?_of_notMem` — **the first comma is found, with its spaces.**
* `cut_append_comma`, `cut_of_notMem` — a text is cut at its first comma, and then the rest of it.
-/

namespace BadgeEntry

/-! ### Cutting at matches -/

namespace Pattern

/-- Where the first match in a text starts, and where it ends. -/
def span? (p : Pattern) (cs : List Char) : Option (Nat × Nat) := do
  let marks ← (group 0 p).find? cs
  let start ← marks.lookup (startSlot 0)
  let finish ← marks.lookup (finishSlot 0)
  return (start, finish)

/-- The pieces of a text between the matches of a pattern, one after another, but between the
first `most` matches only. -/
def cut (p : Pattern) : Nat → List Char → List (List Char)
  | 0, cs => [cs]
  | most + 1, cs =>
    match p.span? cs with
    | none => [cs]
    | some (start, finish) => cs.take start :: p.cut most (cs.drop finish)

end Pattern

namespace Listing

open Text

/-- A comma, with any number of spaces on both sides. -/
def separator : Pattern :=
  .sequence [.repeated .many true (.char ' '), .char ',', .repeated .many true (.char ' ')]

/-- Its instructions. -/
def separatorCode : Array Instruction :=
  ((Pattern.group 0 separator).code 0).toArray

variable {cs front body run run' rest after : List Char} {seen : Forks} {offset fuel : Nat}

/-! ### The instructions -/

theorem takesMany_before : TakesMany separatorCode (.only ' ') 1 :=
  ⟨rfl, rfl, rfl⟩

theorem takesMany_behind : TakesMany separatorCode (.only ' ') 5 :=
  ⟨rfl, rfl, rfl⟩

theorem takes_comma : separatorCode[4]? = some (.take (.only ',')) := rfl

/-- A search has enough steps at every place. -/
theorem le_fuel_separator (n : Nat) : 4 * n + 10 ≤ (Pattern.group 0 separator).fuel n := by
  change 4 * n + 10 ≤ (2 * 9 * (n + 1) + 1) * (9 + 1)
  omega

/-! ### A separator at the front of a text -/

/-- Behind the spaces at the front of a text stands a comma. -/
def AtSeparator (cs : List Char) : Prop :=
  (cs.dropWhile (· = ' ')).head? = some ','

theorem atSeparator_space_cons : AtSeparator (' ' :: cs) ↔ AtSeparator cs := by
  rw [AtSeparator, AtSeparator, List.dropWhile_cons_of_pos (by simp)]

theorem atSeparator_cons_of_ne {c : Char} (hc : c ≠ ' ') : AtSeparator (c :: cs) ↔ c = ',' := by
  rw [AtSeparator, List.dropWhile_cons_of_neg (by simpa using hc), List.head?_cons,
    Option.some_inj]

theorem atSeparator_append_comma (hrun : ∀ c ∈ run, c = ' ') :
    AtSeparator (run ++ ',' :: rest) := by
  rw [AtSeparator, dropWhile_append_of_stop (fun c hc => decide_eq_true (hrun c hc))
    ((stops_cons _).mpr rfl), List.head?_cons]

/-- No separator begins inside of a name. -/
theorem not_atSeparator_append (hne : body ≠ []) (hcomma : ',' ∉ body)
    (hend : StopsAtEnd (· = ' ') body) (rest : List Char) : ¬AtSeparator (body ++ rest) := by
  induction body with
  | nil => exact absurd rfl hne
  | cons c body ih =>
    obtain ⟨hc, hbody⟩ := not_or.mp (List.mem_cons.not.mp hcomma)
    by_cases hspace : c = ' '
    · subst hspace
      rw [List.cons_append, atSeparator_space_cons]
      cases body with
      | nil => exact absurd (hend ' ' rfl) (by simp)
      | cons d body => exact ih (List.cons_ne_nil d body) hbody (stopsAtEnd_cons_cons.mp hend)
    · rw [List.cons_append, atSeparator_cons_of_ne hspace]
      exact Ne.symm hc

/-! ### A search at one place -/

/-- Forks that hide no separator: there are none behind a comma, and none in front of a separator
of the text. -/
structure Harmless (seen : Forks) (offset : Nat) (cs : List Char) : Prop where
  /-- No spaces behind a comma were taken. -/
  behind : ∀ place, seen.contains (5, place) = false
  /-- No separator was passed over. -/
  before : ∀ i, AtSeparator (cs.drop i) → seen.contains (1, offset + i) = false

theorem harmless_empty (offset : Nat) (cs : List Char) : Harmless ∅ offset cs :=
  ⟨fun _ => Std.TreeSet.contains_emptyc, fun _ _ => Std.TreeSet.contains_emptyc⟩

theorem Harmless.tail (h : Harmless seen offset cs) : Harmless seen (offset + 1) cs.tail := by
  refine ⟨h.behind, fun i hi => ?_⟩
  rw [List.drop_tail] at hi
  rw [Nat.add_assoc, Nat.add_comm 1]
  exact h.before (i + 1) hi

/-- A place without a separator may be put in front. -/
theorem Harmless.of_tail (h : Harmless seen (offset + 1) cs.tail) (hnot : ¬AtSeparator cs) :
    Harmless seen offset cs := by
  refine ⟨h.behind, fun i hi => ?_⟩
  cases i with
  | zero => exact absurd hi hnot
  | succ i =>
    rw [← List.drop_tail] at hi
    rw [Nat.add_comm i, ← Nat.add_assoc]
    exact h.before i hi

/-- A fork at a place without a separator is harmless. -/
theorem Harmless.insert (h : Harmless seen offset cs) (hnot : ¬AtSeparator cs) :
    Harmless (seen.insert (1, offset)) offset cs := by
  refine ⟨fun place => ?_, fun i hi => ?_⟩
  · rw [contains_insert_of_pair_ne (by simp), h.behind]
  · cases i with
    | zero => exact absurd hi hnot
    | succ i => exact contains_insert_of_ne (by omega) (h.before (i + 1) hi)

/-- A search remembers where it starts. -/
theorem leads_first (seen : Forks) (offset : Nat) (cs : List Char) :
    Leads separatorCode 1 seen [⟨0, offset, cs, []⟩] seen [⟨1, offset, cs, [(0, offset)]⟩] :=
  leads_mark rfl

/-- Where there is neither a space nor a comma, a thread fails. -/
theorem leads_of_neither (marks : Marks) (waiting : List Thread) (hspace : Stops (· = ' ') cs)
    (hcomma : Stops (· = ',') cs) (hnew : seen.contains (1, offset) = false) :
    Leads separatorCode 3 seen (⟨1, offset, cs, marks⟩ :: waiting) (seen.insert (1, offset))
      waiting :=
  (takesMany_before.leads_end marks waiting hspace hnew).trans (leads_of_stops takes_comma hcomma)

/-- Where no separator stands, spaces are taken in vain, and no separator is hidden. -/
theorem exists_leads_of_not_atSeparator (marks : Marks) (waiting : List Thread)
    (hharmless : Harmless seen offset cs) (hnot : ¬AtSeparator cs) :
    ∃ steps ≤ 4 * cs.length + 3, ∃ seen', Harmless seen' offset cs ∧
      Leads separatorCode steps seen (⟨1, offset, cs, marks⟩ :: waiting) seen' waiting := by
  induction cs generalizing seen offset waiting with
  | nil =>
    cases hseen : seen.contains (1, offset) with
    | true => exact ⟨1, by simp, seen, hharmless, leads_of_contains takesMany_before.fork hseen⟩
    | false =>
      exact ⟨3, by simp, _, hharmless.insert hnot,
        leads_of_neither marks waiting (stops_nil _) (stops_nil _) hseen⟩
  | cons c cs ih =>
    cases hseen : seen.contains (1, offset) with
    | true => exact ⟨1, by omega, seen, hharmless, leads_of_contains takesMany_before.fork hseen⟩
    | false =>
      by_cases hspace : c = ' '
      · -- the thread that takes the space fails later on, and the one that waits needs a comma
        subst hspace
        have hround : Leads separatorCode 3 seen (⟨1, offset, ' ' :: cs, marks⟩ :: waiting)
            (seen.insert (1, offset))
            (⟨1, offset + 1, cs, marks⟩ :: ⟨4, offset, ' ' :: cs, marks⟩ :: waiting) :=
          takesMany_before.leads_round marks waiting (decide_eq_true rfl) hseen
        obtain ⟨steps, hsteps, seen', hharmless', hrest⟩ :=
          ih (⟨4, offset, ' ' :: cs, marks⟩ :: waiting) (hharmless.insert hnot).tail
            (atSeparator_space_cons.not.mp hnot)
        have hfail : Leads separatorCode 1 seen' (⟨4, offset, ' ' :: cs, marks⟩ :: waiting)
            seen' waiting :=
          leads_of_stops takes_comma ((stops_cons _).mpr rfl)
        refine ⟨3 + steps + 1, ?_, seen', hharmless'.of_tail hnot, (hround.trans hrest).trans hfail⟩
        rw [List.length_cons]
        omega
      · have hcomma : c ≠ ',' := (atSeparator_cons_of_ne hspace).not.mp hnot
        exact ⟨3, by omega, _, hharmless.insert hnot, leads_of_neither marks waiting
          ((stops_cons _).mpr (decide_eq_false hspace))
          ((stops_cons _).mpr (decide_eq_false hcomma)) hseen⟩

/-- Where no separator stands, none is found, and none is hidden. -/
theorem follow_of_not_atSeparator (hharmless : Harmless seen offset cs) (hnot : ¬AtSeparator cs)
    (hfuel : 4 * cs.length + 10 ≤ fuel) :
    ∃ seen', follow separatorCode fuel seen [⟨0, offset, cs, []⟩] = (none, seen') ∧
      Harmless seen' (offset + 1) cs.tail := by
  obtain ⟨steps, hsteps, seen', hharmless', hleads⟩ :=
    exists_leads_of_not_atSeparator [(0, offset)] [] hharmless hnot
  refine ⟨seen', ?_, hharmless'.tail⟩
  rw [((leads_first seen offset cs).trans hleads).follow_eq (by omega), follow_nil]

/-- Where a separator stands, it is found as a whole. -/
theorem follow_of_separator
    (hharmless : Harmless seen offset (run ++ ',' :: (run' ++ rest)))
    (hrun : ∀ c ∈ run, c = ' ') (hrun' : ∀ c ∈ run', c = ' ') (hstops : Stops (· = ' ') rest)
    (hfuel : 4 * (run ++ ',' :: (run' ++ rest)).length + 10 ≤ fuel) :
    ∃ seen', follow separatorCode fuel seen [⟨0, offset, run ++ ',' :: (run' ++ rest), []⟩] =
      (some [(1, offset + run.length + 1 + run'.length), (0, offset)], seen') := by
  have hnew : ∀ i ≤ run.length, seen.contains (1, offset + i) = false := by
    intro i hi
    refine hharmless.before i ?_
    rw [List.drop_append_of_le_length hi]
    exact atSeparator_append_comma fun c hc => hrun c (List.mem_of_mem_drop hc)
  have hstop : Stops (CharSet.only ' ').has (',' :: (run' ++ rest)) := (stops_cons _).mpr rfl
  obtain ⟨seen₁, waiting₁, hbefore, hsame⟩ := exists_leads_many takesMany_before [(0, offset)] []
    (fun c hc => decide_eq_true (hrun c hc)) hstop hnew
  have hcomma := ((leads_first seen offset _).trans hbefore).trans
    (leads_take takes_comma (decide_eq_true rfl))
  have hnew' : ∀ i ≤ run'.length, seen₁.contains (5, offset + run.length + 1 + i) = false := by
    intro i _
    rw [hsame 5 (by decide), hharmless.behind]
  obtain ⟨seen₂, waiting₂, hbehind, -⟩ := exists_leads_many takesMany_behind [(0, offset)] waiting₁
    (fun c hc => decide_eq_true (hrun' c hc)) hstops hnew'
  have hslot : separatorCode[8]? = some (.mark 1) := rfl
  have hfound := (hcomma.trans hbehind).trans (leads_mark hslot)
  rw [List.length_append, List.length_cons, List.length_append] at hfuel
  refine ⟨seen₂, ?_⟩
  rw [hfound.follow_eq (by omega)]
  exact follow_of_matched rfl (by omega)

/-! ### A search from one place on -/

/-- A search takes the first comma there is, with the spaces next to it. -/
theorem followFrom_of_separator
    (hharmless : Harmless seen offset (body ++ (run ++ ',' :: (run' ++ rest))))
    (hcomma : ',' ∉ body) (hend : StopsAtEnd (· = ' ') body)
    (hrun : ∀ c ∈ run, c = ' ') (hrun' : ∀ c ∈ run', c = ' ') (hstops : Stops (· = ' ') rest)
    (hfuel : 4 * (body ++ (run ++ ',' :: (run' ++ rest))).length + 10 ≤ fuel) :
    followFrom separatorCode fuel seen offset (body ++ (run ++ ',' :: (run' ++ rest))) =
      some [(1, offset + body.length + run.length + 1 + run'.length),
        (0, offset + body.length)] := by
  induction body generalizing seen offset with
  | nil =>
    obtain ⟨seen', hfollow⟩ := follow_of_separator hharmless hrun hrun' hstops hfuel
    rw [followFrom.eq_def, List.nil_append, hfollow]
    rfl
  | cons c body ih =>
    have hnot := not_atSeparator_append (List.cons_ne_nil c body) hcomma hend
      (run ++ ',' :: (run' ++ rest))
    obtain ⟨seen', hfollow, hharmless'⟩ := follow_of_not_atSeparator hharmless hnot hfuel
    have hend' : StopsAtEnd (· = ' ') body := by
      cases body with
      | nil => exact stopsAtEnd_nil
      | cons d body => exact stopsAtEnd_cons_cons.mp hend
    have hfuel' : 4 * (body ++ (run ++ ',' :: (run' ++ rest))).length + 10 ≤ fuel := by
      rw [List.cons_append, List.length_cons] at hfuel
      omega
    have hrest := ih hharmless' (not_or.mp (List.mem_cons.not.mp hcomma)).2 hend' hfuel'
    rw [List.cons_append] at hfollow ⊢
    rw [followFrom, hfollow, List.length_cons, Nat.add_comm body.length, ← Nat.add_assoc]
    exact hrest

theorem not_atSeparator_of_notMem (hcomma : ',' ∉ cs) : ¬AtSeparator cs := by
  intro hcs
  exact hcomma ((List.dropWhile_sublist _).mem (List.mem_of_mem_head? hcs))

/-- A search without a comma finds nothing. -/
theorem followFrom_of_notMem (hharmless : Harmless seen offset cs) (hcomma : ',' ∉ cs)
    (hfuel : 4 * cs.length + 10 ≤ fuel) :
    followFrom separatorCode fuel seen offset cs = none := by
  induction cs generalizing seen offset with
  | nil =>
    obtain ⟨seen', hfollow, -⟩ :=
      follow_of_not_atSeparator hharmless (not_atSeparator_of_notMem hcomma) hfuel
    rw [followFrom, hfollow]
  | cons c cs ih =>
    obtain ⟨seen', hfollow, hharmless'⟩ :=
      follow_of_not_atSeparator hharmless (not_atSeparator_of_notMem hcomma) hfuel
    have hfuel' : 4 * cs.length + 10 ≤ fuel := by
      rw [List.length_cons] at hfuel
      omega
    rw [followFrom, hfollow]
    exact ih hharmless' (not_or.mp (List.mem_cons.not.mp hcomma)).2 hfuel'

/-! ### What is cut -/

theorem span?_of_notMem (hcomma : ',' ∉ cs) : separator.span? cs = none := by
  have hfind : (Pattern.group 0 separator).find? cs = none :=
    followFrom_of_notMem (harmless_empty 0 cs) hcomma (le_fuel_separator cs.length)
  rw [Pattern.span?, hfind]
  rfl

/-- The first match is the first comma with the spaces before it and behind it. -/
theorem span?_append_comma (hcomma : ',' ∉ front) (after : List Char) :
    separator.span? (front ++ ',' :: after) = some ((dropEnd (· = ' ') front).length,
      front.length + 1 + (after.takeWhile (· = ' ')).length) := by
  obtain ⟨run, hfront, hrun⟩ := dropEnd_append_all (· = ' ') front
  have hbody : ',' ∉ dropEnd (· = ' ') front :=
    fun hmem => hcomma ((dropEnd_prefix_self _ front).subset hmem)
  have hfind : (Pattern.group 0 separator).find? (dropEnd (· = ' ') front ++ (run ++ ',' ::
      (after.takeWhile (· = ' ') ++ after.dropWhile (· = ' ')))) = _ :=
    followFrom_of_separator (harmless_empty 0 _) hbody (stopsAtEnd_dropEnd _ front)
      (by simpa using hrun) (fun c hc => by simpa using List.mem_takeWhile_imp hc)
      (stops_dropWhile _ after) (le_fuel_separator _)
  have hlength : front.length = (dropEnd (· = ' ') front).length + run.length := by
    rw [← List.length_append, ← hfront]
  rw [List.takeWhile_append_dropWhile, ← List.append_assoc, ← hfront, Nat.zero_add, ← hlength]
    at hfind
  rw [Pattern.span?, hfind]
  rfl

theorem cut_of_notMem (hcomma : ',' ∉ cs) (most : Nat) : separator.cut most cs = [cs] := by
  cases most with
  | zero => rfl
  | succ most => rw [Pattern.cut, span?_of_notMem hcomma]

/-- A text is cut at its first comma; the spaces on both sides belong to no piece. -/
theorem cut_append_comma (hcomma : ',' ∉ front) (most : Nat) (after : List Char) :
    separator.cut (most + 1) (front ++ ',' :: after) =
      dropEnd (· = ' ') front :: separator.cut most (after.dropWhile (· = ' ')) := by
  have hprefix : dropEnd (· = ' ') front <+: front ++ ',' :: after :=
    (dropEnd_prefix_self _ front).trans (List.prefix_append front _)
  have hsplit : front ++ ',' :: after =
      (front ++ ',' :: after.takeWhile (· = ' ')) ++ after.dropWhile (· = ' ') := by
    rw [List.append_assoc, List.cons_append, List.takeWhile_append_dropWhile]
  have hdrop : (front ++ ',' :: after).drop
      (front.length + 1 + (after.takeWhile (· = ' ')).length) = after.dropWhile (· = ' ') := by
    rw [hsplit]
    refine List.drop_left' ?_
    rw [List.length_append, List.length_cons, Nat.add_assoc, Nat.add_comm 1]
  rw [Pattern.cut, span?_append_comma hcomma]
  change (front ++ ',' :: after).take _ :: _ = _
  rw [← List.prefix_iff_eq_take.mp hprefix, hdrop]

end Listing

end BadgeEntry
