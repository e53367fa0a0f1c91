import BadgeEntry.EditPage.Extractor
import BadgeEntry.Proofs.Pattern.Following

/-!
# Which token is found

The usual patterns find the first token of a page: at the first place where the text before a token
stands, then characters without a double quote, at least one, and then a double quote.  Places
where nothing stands between the quotes, or where no quote follows, are passed over.

A thread that comes to a place without a token leaves forks behind only if it takes characters up to
the end of the page, and then there is no quote left for a later place.  So what a thread is
given up for never hides a token.

## Main definitions

* `BeginsWithToken` — a token stands at the front of a text.
* `patternAfter`, `tokenCode`, `instructions` — the usual patterns, for any text before a token, and
  what threads of theirs do.
* `Harmless` — forks that hide no token.

## Main results

* `exists_leads_of_quoted`, `exists_leads_of_not_mem` — the characters of a token.
* `follow_of_beginsWithToken`, `follow_of_forall_not` — a search at one place.
* `followFrom_of_first`, `followFrom_of_forall_not` — a search from one place on.
* `group?_of_first`, `group?_of_forall_not` — **the first token of a page is found.**
-/

namespace BadgeEntry.EditPage

open Text

/-- A text begins with `start`, a token and a quote. -/
def BeginsWithToken (start cs token : List Char) : Prop :=
  token ≠ [] ∧ '"' ∉ token ∧ ∃ after, cs = start ++ (token ++ '"' :: after)

/-- The pattern for a token behind `start`. -/
def patternAfter (start : List Char) : Pattern :=
  .seq (Pattern.literal start) quotedToken

/-- Its instructions. -/
def instructions (start : List Char) : Array Instruction :=
  ((patternAfter start).code 0).toArray

variable {start cs rest token : List Char} {seen : Forks} {waiting : List Thread} {marks : Marks}
  {offset : Nat}

/-! ### The instructions -/

/-- The characters that a token is made of. -/
def tokenChars : CharSet := .compl (.only '"')

/-- The instructions behind those for `start`: a character of the token, and then one more or the
quote. -/
def tokenCode (start : List Char) : List Instruction :=
  [.mark 2, .take tokenChars, .fork (start.length + 1) (start.length + 3), .mark 3,
    .take (.only '"')]

theorem code_patternAfter (start : List Char) : (patternAfter start).code 0 =
    start.map (fun c => .take (.only c)) ++ tokenCode start := by
  have hlength : (Pattern.literal start).size = start.length := by
    rw [← Pattern.length_code _ 0, Pattern.code_literal, List.length_map]
  rw [patternAfter, Pattern.code, Pattern.code_literal, hlength, Nat.zero_add]
  rfl

theorem takesLiteral_instructions (start : List Char) :
    TakesLiteral (instructions start) 0 start := by
  intro i c hc
  have hi : i < start.length := (List.getElem?_eq_some_iff.mp hc).1
  rw [instructions, List.getElem?_toArray, code_patternAfter, Nat.zero_add,
    List.getElem?_append_left (by rwa [List.length_map]), List.getElem?_map, hc]
  rfl

theorem instructions_getElem? (start : List Char) (i : Nat) :
    (instructions start)[start.length + i]? = (tokenCode start)[i]? := by
  rw [instructions, List.getElem?_toArray, code_patternAfter,
    List.getElem?_append_right (by rw [List.length_map]; exact Nat.le_add_right ..),
    List.length_map, Nat.add_sub_cancel_left]

/-! ### The characters of a token -/

theorem has_tokenChars {c : Char} : tokenChars.has c = true ↔ c ≠ '"' := by
  simp [tokenChars, CharSet.has]

theorem stops_tokenChars : Stops tokenChars.has ('"' :: rest) :=
  (stops_cons _).mpr rfl

theorem stops_quote (h : '"' ∉ rest) : Stops (CharSet.only '"').has rest := by
  rintro c hc
  refine decide_eq_false fun heq => h ?_
  rw [← heq]
  exact List.mem_of_mem_head? hc

/-- Characters up to a quote are taken, if no fork is in the way, and the quote is. -/
theorem exists_leads_of_quoted (rest : List Char) (marks : Marks) (waiting : List Thread)
    (hquote : '"' ∉ token) (hne : token ≠ [])
    (hnew : ∀ place > offset, seen.contains (start.length + 2, place) = false) :
    ∃ seen' waiting', Leads (instructions start) (2 * token.length + 3)
      seen (⟨start.length + 1, offset, token ++ '"' :: rest, marks⟩ :: waiting)
      seen' (⟨start.length + 5, offset + token.length + 1, rest,
        (3, offset + token.length) :: marks⟩ :: waiting') := by
  -- each character leaves one more thread that waits, for the end of the token there
  induction token generalizing seen offset waiting with
  | nil => exact absurd rfl hne
  | cons c token ih =>
    obtain ⟨hc, htoken⟩ := not_or.mp (List.mem_cons.not.mp hquote)
    have htake : Leads (instructions start) 1
        seen (⟨start.length + 1, offset, (c :: token) ++ '"' :: rest, marks⟩ :: waiting)
        seen (⟨start.length + 2, offset + 1, token ++ '"' :: rest, marks⟩ :: waiting) :=
      leads_take (instructions_getElem? start 1) (has_tokenChars.mpr (Ne.symm hc))
    have hfork := htake.trans
      (leads_fork (instructions_getElem? start 2) (hnew (offset + 1) (Nat.lt_succ_self offset)))
    rcases token with _ | ⟨d, token⟩
    · -- the thread that looks for one more character fails, and the one that waits goes on
      have hfail := hfork.trans (leads_of_stops (instructions_getElem? start 1) stops_tokenChars)
      have hmark := hfail.trans (leads_mark (instructions_getElem? start 3))
      exact ⟨_, _, hmark.trans (leads_take (instructions_getElem? start 4) (decide_eq_true rfl))⟩
    · have hnew' : ∀ place > offset + 1, (seen.insert (start.length + 2, offset + 1)).contains
          (start.length + 2, place) = false := by
        intro place hplace
        exact contains_insert_of_ne (Nat.ne_of_lt hplace) (hnew place (Nat.lt_of_succ_lt hplace))
      obtain ⟨seen', waiting', hrest⟩ := ih (⟨start.length + 3, offset + 1,
        (d :: token) ++ '"' :: rest, marks⟩ :: waiting) htoken (List.cons_ne_nil d token) hnew'
      refine ⟨seen', waiting', ?_⟩
      have hsteps : 2 * (c :: d :: token).length + 3 = 1 + 1 + (2 * (d :: token).length + 3) := by
        rw [List.length_cons]
        omega
      have hplace : offset + (c :: d :: token).length = offset + 1 + (d :: token).length := by
        rw [List.length_cons, Nat.add_right_comm, Nat.add_assoc]
      rw [hsteps, hplace]
      exact hfork.trans hrest

/-- Characters up to the end of the page are taken in vain. -/
theorem exists_leads_of_not_mem (start : List Char) (seen : Forks) (offset : Nat) (marks : Marks)
    (waiting : List Thread) (hquote : '"' ∉ rest) :
    ∃ steps ≤ 4 * rest.length + 1, ∃ seen', Leads (instructions start) steps
      seen (⟨start.length + 1, offset, rest, marks⟩ :: waiting) seen' waiting := by
  induction rest generalizing seen offset waiting with
  | nil => exact ⟨1, le_refl 1, seen, leads_of_stops (instructions_getElem? start 1) (stops_nil _)⟩
  | cons c rest ih =>
    obtain ⟨hc, hrest⟩ := not_or.mp (List.mem_cons.not.mp hquote)
    have htake : Leads (instructions start) 1
        seen (⟨start.length + 1, offset, c :: rest, marks⟩ :: waiting)
        seen (⟨start.length + 2, offset + 1, rest, marks⟩ :: waiting) :=
      leads_take (instructions_getElem? start 1) (has_tokenChars.mpr (Ne.symm hc))
    cases hseen : seen.contains (start.length + 2, offset + 1) with
    | true =>
      have hgone := htake.trans (leads_of_contains (instructions_getElem? start 2) hseen)
      exact ⟨2, by rw [List.length_cons]; omega, seen, hgone⟩
    | false =>
      have hfork := htake.trans (leads_fork (instructions_getElem? start 2) hseen)
      obtain ⟨steps, hsteps, seen', hloop⟩ := ih (seen.insert (start.length + 2, offset + 1))
        (offset + 1) (⟨start.length + 3, offset + 1, rest, marks⟩ :: waiting) hrest
      have hmark := (hfork.trans hloop).trans (leads_mark (instructions_getElem? start 3))
      have hfail := hmark.trans (leads_of_stops (instructions_getElem? start 4) (stops_quote hrest))
      exact ⟨1 + 1 + steps + 1 + 1, by rw [List.length_cons]; omega, seen', hfail⟩

/-! ### A search at one place -/

/-- Forks that hide no token: there are none, or nothing of the page reads as `start`. -/
def Harmless (start : List Char) (seen : Forks) (cs : List Char) : Prop :=
  seen = ∅ ∨ ∀ place, ¬start <+: cs.drop place

theorem Harmless.eq_empty (h : Harmless start seen cs) (hfront : start <+: cs) : seen = ∅ :=
  h.resolve_right fun hnone => hnone 0 hfront

theorem Harmless.tail (h : Harmless start seen cs) : Harmless start seen cs.tail := by
  refine h.imp_right fun hnone place => ?_
  rw [List.drop_tail]
  exact hnone (place + 1)

/-- A search begins with the text before a token. -/
theorem leads_start (start rest : List Char) (seen : Forks) (offset : Nat) (waiting : List Thread) :
    Leads (instructions start) (start.length + 1)
    seen (⟨0, offset, start ++ rest, []⟩ :: waiting)
    seen (⟨start.length + 1, offset + start.length, rest, [(2, offset + start.length)]⟩ ::
      waiting) := by
  have hliteral : Leads (instructions start) start.length
      seen (⟨0, offset, start ++ rest, []⟩ :: waiting)
      seen (⟨0 + start.length, offset + start.length, rest, []⟩ :: waiting) :=
    leads_literal seen waiting offset [] (takesLiteral_instructions start)
  rw [Nat.zero_add] at hliteral
  exact hliteral.trans (leads_mark (instructions_getElem? start 0))

/-- Where a token stands, it is found. -/
theorem follow_of_beginsWithToken {fuel : Nat} (offset : Nat) (hharmless : Harmless start seen cs)
    (hbegins : BeginsWithToken start cs token) (hfuel : start.length + 4 * cs.length + 6 ≤ fuel) :
    ∃ seen', follow (instructions start) fuel seen [⟨0, offset, cs, []⟩] =
      (some [(3, offset + start.length + token.length), (2, offset + start.length)], seen') := by
  obtain ⟨hne, hquote, after, rfl⟩ := hbegins
  obtain rfl := hharmless.eq_empty (List.prefix_append start _)
  have hnew : ∀ place > offset + start.length,
      (∅ : Forks).contains (start.length + 2, place) = false :=
    fun place _ => Std.TreeSet.contains_emptyc
  obtain ⟨seen', waiting', hloop⟩ :=
    exists_leads_of_quoted after [(2, offset + start.length)] [] hquote hne hnew
  have hlength : token.length ≤ (start ++ (token ++ '"' :: after)).length := by
    simp only [List.length_append]
    omega
  refine ⟨seen', ?_⟩
  rw [((leads_start start _ ∅ offset []).trans hloop).follow_eq (by omega)]
  exact follow_of_matched (instructions_getElem? start 5) (by omega)

/-- Behind a quote that is not closed, no text stands that ends with a quote. -/
theorem not_prefix_drop (hstart : start.getLast? = some '"') (hquote : '"' ∉ rest) (place : Nat) :
    ¬start <+: (start ++ rest).drop (place + 1) := by
  obtain ⟨front, rfl⟩ := List.getLast?_eq_some_iff.mp hstart
  rintro ⟨others, heq⟩
  -- the last character of the text is one of `rest`
  have hlast : (front ++ ['"'] ++ rest)[place + 1 + front.length]? = some '"' := by
    rw [← List.getElem?_drop, ← heq]
    simp
  have hlength : (front ++ ['"']).length ≤ place + 1 + front.length := by
    rw [List.length_append, List.length_singleton]
    omega
  rw [List.getElem?_append_right hlength] at hlast
  exact hquote (List.mem_of_getElem? hlast)

/-- Where no token stands, none is found, and none is hidden. -/
theorem follow_of_forall_not {fuel : Nat} (offset : Nat) (hstart : start.getLast? = some '"')
    (hharmless : Harmless start seen cs) (hnot : ∀ token, ¬BeginsWithToken start cs token)
    (hfuel : start.length + 4 * cs.length + 6 ≤ fuel) :
    ∃ seen', follow (instructions start) fuel seen [⟨0, offset, cs, []⟩] = (none, seen') ∧
      Harmless start seen' cs.tail := by
  by_cases hfront : start <+: cs
  · obtain ⟨rest, rfl⟩ := hfront
    obtain rfl := hharmless.eq_empty (List.prefix_append start rest)
    by_cases hquote : '"' ∈ rest
    · obtain ⟨token, after, rfl, htoken⟩ := List.eq_append_cons_of_mem hquote
      cases token with
      | nil =>
        have hfail := (leads_start start ('"' :: after) ∅ offset []).trans
          (leads_of_stops (instructions_getElem? start 1) stops_tokenChars)
        refine ⟨∅, ?_, Or.inl rfl⟩
        rw [List.nil_append, hfail.follow_eq (by omega), follow_nil]
      | cons c token =>
        exact absurd ⟨List.cons_ne_nil c token, htoken, after, rfl⟩ (hnot (c :: token))
    · obtain ⟨steps, hsteps, seen', hloop⟩ := exists_leads_of_not_mem start ∅
        (offset + start.length) [(2, offset + start.length)] [] hquote
      have hlength : rest.length ≤ (start ++ rest).length := by
        rw [List.length_append]
        omega
      refine ⟨seen', ?_, Or.inr fun place => ?_⟩
      · rw [((leads_start start rest ∅ offset []).trans hloop).follow_eq (by omega), follow_nil]
      · rw [List.drop_tail]
        exact not_prefix_drop hstart hquote place
  · obtain ⟨steps, hsteps, hfail⟩ :=
      exists_leads_of_not_prefix seen [] offset [] (takesLiteral_instructions start) hfront
    refine ⟨seen, ?_, hharmless.tail⟩
    rw [hfail.follow_eq (by omega), follow_nil]

/-! ### A search from one place on -/

/-- A search takes the first token there is. -/
theorem followFrom_of_first {fuel place : Nat} (offset : Nat) (hstart : start.getLast? = some '"')
    (hharmless : Harmless start seen cs) (hfuel : start.length + 4 * cs.length + 6 ≤ fuel)
    (hbegins : BeginsWithToken start (cs.drop place) token)
    (hfirst : ∀ earlier < place, ∀ other, ¬BeginsWithToken start (cs.drop earlier) other) :
    followFrom (instructions start) fuel seen offset cs =
      some [(3, offset + place + start.length + token.length),
        (2, offset + place + start.length)] := by
  induction place generalizing cs seen offset with
  | zero =>
    obtain ⟨seen', hfollow⟩ := follow_of_beginsWithToken offset hharmless hbegins hfuel
    rw [followFrom, hfollow]
    rfl
  | succ place ih =>
    obtain ⟨seen', hfollow, hharmless'⟩ := follow_of_forall_not offset hstart hharmless
      (hfirst 0 (Nat.succ_pos place)) hfuel
    cases cs with
    | nil =>
      obtain ⟨-, -, after, heq⟩ := hbegins
      simp at heq
    | cons c cs =>
      rw [followFrom, hfollow]
      have hfuel' : start.length + 4 * cs.length + 6 ≤ fuel := by
        rw [List.length_cons] at hfuel
        omega
      have hrest := ih (offset + 1) hharmless' hfuel'
        hbegins fun earlier hearlier => hfirst (earlier + 1) (Nat.succ_lt_succ hearlier)
      rw [Nat.add_right_comm offset 1, Nat.add_assoc offset place 1] at hrest
      exact hrest

/-- A search without a token finds none. -/
theorem followFrom_of_forall_not {fuel : Nat} (offset : Nat) (hstart : start.getLast? = some '"')
    (hharmless : Harmless start seen cs) (hfuel : start.length + 4 * cs.length + 6 ≤ fuel)
    (hnot : ∀ place token, ¬BeginsWithToken start (cs.drop place) token) :
    followFrom (instructions start) fuel seen offset cs = none := by
  induction cs generalizing seen offset with
  | nil =>
    obtain ⟨seen', hfollow, -⟩ := follow_of_forall_not offset hstart hharmless (hnot 0)
      hfuel
    rw [followFrom, hfollow]
  | cons c cs ih =>
    obtain ⟨seen', hfollow, hharmless'⟩ := follow_of_forall_not offset hstart hharmless
      (hnot 0) hfuel
    rw [followFrom, hfollow]
    have hfuel' : start.length + 4 * cs.length + 6 ≤ fuel := by
      rw [List.length_cons] at hfuel
      omega
    exact ih (offset + 1) hharmless' hfuel' fun place => hnot (place + 1)

/-! ### What is found -/

/-- A search has enough steps at every place. -/
theorem le_fuel (start : List Char) (n : Nat) :
    start.length + 4 * n + 6 ≤ (patternAfter start).fuel n := by
  have hsize : (patternAfter start).size = start.length + 5 := by
    rw [← Pattern.length_code _ 0, code_patternAfter, List.length_append, List.length_map]
    rfl
  have hforks : 10 * (n + 1) ≤ 2 * (start.length + 5) * (n + 1) :=
    Nat.mul_le_mul_right (n + 1) (by omega)
  have hlarge : 10 * (n + 1) ≤ 2 * (start.length + 5) * (n + 1) * (start.length + 5 + 1) :=
    hforks.trans (Nat.le_mul_of_pos_right _ (Nat.succ_pos _))
  rw [Pattern.fuel, hsize, Nat.add_mul, Nat.one_mul]
  omega

variable {page : String}

/-- The first token is found. -/
theorem group?_of_first {place : Nat} (hstart : start.getLast? = some '"')
    (hbegins : BeginsWithToken start (page.toList.drop place) token)
    (hfirst : ∀ earlier < place, ∀ other, ¬BeginsWithToken start (page.toList.drop earlier) other) :
    (patternAfter start).group? 1 page = some (String.ofList token) := by
  have hfind : (patternAfter start).find? page.toList =
      some [(3, 0 + place + start.length + token.length), (2, 0 + place + start.length)] :=
    followFrom_of_first 0 hstart (Or.inl rfl) (le_fuel start _) hbegins hfirst
  obtain ⟨-, -, after, heq⟩ := hbegins
  have htoken : (page.toList.take (0 + place + start.length + token.length)).drop
      (0 + place + start.length) = token := by
    rw [Nat.zero_add, List.drop_take, Nat.add_sub_cancel_left, ← List.drop_drop, heq,
      List.drop_left, List.take_left]
  rw [Pattern.group?, hfind]
  exact congrArg (fun cs => some (String.ofList cs)) htoken

/-- Without a token there is nothing to be found. -/
theorem group?_of_forall_not (hstart : start.getLast? = some '"')
    (hnot : ∀ place token, ¬BeginsWithToken start (page.toList.drop place) token) :
    (patternAfter start).group? 1 page = none := by
  have hfind : (patternAfter start).find? page.toList = none :=
    followFrom_of_forall_not 0 hstart (Or.inl rfl) (le_fuel start _) hnot
  rw [Pattern.group?, hfind]
  rfl

end BadgeEntry.EditPage
