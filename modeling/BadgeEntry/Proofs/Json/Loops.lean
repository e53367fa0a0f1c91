import BadgeEntry.Proofs.Json.Grammar
import BadgeEntry.Proofs.Json.Kept

/-!
# Elements between brackets are read exactly

The readers of lists and of objects are the same loop over different elements.  What such a loop
yields is told once, as `LoopYields`, and from this it follows that it reads just the elements
that the grammar allows between two brackets, if its elements are read exactly.

## Main definitions

* `Reads` — a reader of just what is written in some way.
* `IsLoop` — a reader of elements up to a closing bracket.

## Main results

* `isLoop_readItems`, `isLoop_readMembers` — the two loops.
* `IsLoop.eq_ok_iff` — **elements are read exactly.**
-/

namespace BadgeEntry.Json

open Text

variable {α : Type} {cs rest : List Char}

/-! ### Blanks -/

theorem isBlank_nil : IsBlank [] :=
  fun _ h => absurd h List.not_mem_nil

theorem IsBlank.append {cs ds : List Char} (hcs : IsBlank cs) (hds : IsBlank ds) :
    IsBlank (cs ++ ds) := by
  intro c hc
  exact (List.mem_append.mp hc).elim (hcs c) (hds c)

/-- Blanks are left out. -/
theorem IsBlank.skipBlanks_append {gap : List Char} (h : IsBlank gap) (cs : List Char) :
    skipBlanks (gap ++ cs) = skipBlanks cs :=
  List.dropWhile_append_of_pos h

theorem IsBlank.skipBlanks_append_cons {gap : List Char} (h : IsBlank gap) {c : Char}
    (hc : isJsonBlank c = false) (cs : List Char) : skipBlanks (gap ++ c :: cs) = c :: cs := by
  rw [h.skipBlanks_append, skipBlanks_cons hc]

/-- A text is its blanks and what is left without them. -/
theorem exists_skipBlanks (cs : List Char) : ∃ gap, IsBlank gap ∧ cs = gap ++ skipBlanks cs :=
  ⟨cs.takeWhile isJsonBlank, fun _ hc => List.mem_takeWhile_imp hc,
    List.takeWhile_append_dropWhile.symm⟩

/-- What is behind blanks cannot go on a number if it cannot without them. -/
theorem IsBlank.stops_append {gap : List Char} (h : IsBlank gap) (hrest : Stops isNumberChar rest) :
    Stops isNumberChar (gap ++ rest) := by
  refine Stops.append ?_ hrest
  intro c hc
  have hblank := h c (List.mem_of_mem_head? hc)
  by_contra hnumber
  simp only [isJsonBlank, Bool.or_eq_true, beq_iff_eq] at hblank
  rcases hblank with ((rfl | rfl) | rfl) | rfl <;> exact hnumber rfl

/-! ### Elements between brackets -/

/-- A reader that reads just what is written in some way, perhaps behind blanks, in front of
what cannot go on a number.  What is written begins neither with a blank nor with a closing
bracket. -/
structure Reads (f : Reader α) (E : List Char → α → Prop) : Prop where
  sound {cs rest : List Char} {a : α} (read : f cs = .ok (a, rest)) :
    ∃ before mid, IsBlank before ∧ cs = before ++ (mid ++ rest) ∧ E mid a
  complete {mid rest : List Char} {a : α} (written : E mid a) (stops : Stops isNumberChar rest) :
    f (mid ++ rest) = .ok (a, rest)
  starts {mid : List Char} {a : α} (written : E mid a) :
    ∃ c tail, mid = c :: tail ∧ isValueStart c = true

/-- What an element, and the elements behind it, come to. -/
def pushElement (f : Reader α) (loop : Bool → Nat → Reader (List α)) (fuel : Nat)
    (cs : List Char) : Except Stop (List α × List Char) := do
  let (a, rest) ← f cs
  let (as, rest) ← loop false fuel rest
  return (a :: as, rest)

theorem pushElement_eq_ok_iff {f : Reader α} {loop : Bool → Nat → Reader (List α)} {fuel : Nat}
    {as : List α} : pushElement f loop fuel cs = .ok (as, rest) ↔
      ∃ a others mid, as = a :: others ∧ f cs = .ok (a, mid) ∧
        loop false fuel mid = .ok (others, rest) := by
  constructor
  · intro h
    obtain ⟨⟨a, mid⟩, helement, h⟩ := exists_of_bind_eq_ok h
    obtain ⟨⟨others, last⟩, hothers, h⟩ := exists_of_bind_eq_ok h
    cases h
    exact ⟨a, others, mid, rfl, helement, hothers⟩
  · rintro ⟨a, others, mid, rfl, helement, hothers⟩
    unfold pushElement
    rw [helement]
    change (loop false fuel mid).bind _ = _
    rw [hothers]
    rfl

/-- The ways in which a loop over elements yields something: it stands at its closing bracket,
at its first element, or at a comma with another element behind it. -/
inductive LoopYields (close : Char) (f : Reader α) (loop : Bool → Nat → Reader (List α)) :
    Bool → Nat → List Char → List α × List Char → Prop
  | close {first : Bool} {fuel : Nat} {cs rest : List Char} (skip : skipBlanks cs = close :: rest) :
    LoopYields close f loop first fuel cs ([], rest)
  | first {fuel : Nat} {cs tail : List Char} {c : Char} {result : List α × List Char}
    (skip : skipBlanks cs = c :: tail) (open' : c ≠ close)
    (push : pushElement f loop fuel (c :: tail) = .ok result) :
    LoopYields close f loop true fuel cs result
  | later {fuel : Nat} {cs mid tail : List Char} {c : Char} {result : List α × List Char}
    (skip : skipBlanks cs = ',' :: mid) (skipMore : skipBlanks mid = c :: tail) (open' : c ≠ close)
    (push : pushElement f loop fuel (c :: tail) = .ok result) :
    LoopYields close f loop false fuel cs result

/-- A character that begins no value, goes on no number and is no blank. -/
structure IsCloser (c : Char) : Prop where
  notStart : isValueStart c = false
  notNumber : isNumberChar c = false
  notBlank : isJsonBlank c = false

/-- A loop over elements up to a closing bracket, bounded by fuel. -/
structure IsLoop (close : Char) (f : Reader α) (loop : Bool → Nat → Reader (List α)) : Prop where
  closer : IsCloser close
  zero (first : Bool) (cs : List Char) (result : List α × List Char) : loop first 0 cs ≠ .ok result
  succ (first : Bool) (fuel : Nat) (cs : List Char) (result : List α × List Char) :
    loop first (fuel + 1) cs = .ok result ↔ LoopYields close f loop first fuel cs result

section
variable {close : Char} {f : Reader α} {loop : Bool → Nat → Reader (List α)}
  {E : List Char → α → Prop} {as : List α}

theorem Following.length_le (h : Following E cs as) : as.length ≤ cs.length := by
  induction h with
  | none => exact Nat.zero_le _
  | more =>
    simp only [List.length_append, List.length_cons]
    omega

/-- What begins neither with a blank nor with a closing bracket is behind its blanks. -/
theorem IsBlank.skipBlanks_append_start {before mid : List Char} (hblank : IsBlank before)
    (hmid : ∃ c tail, mid = c :: tail ∧ isValueStart c = true) (hclose : IsCloser close)
    (rest : List Char) :
    ∃ c tail, skipBlanks (before ++ (mid ++ rest)) = c :: tail ∧ mid ++ rest = c :: tail ∧
      c ≠ close := by
  obtain ⟨c, tail, rfl, hc⟩ := hmid
  have hnotBlank : isJsonBlank c = false := by
    simp only [isValueStart, Bool.and_eq_true, Bool.not_eq_true'] at hc
    exact hc.1.1
  refine ⟨c, tail ++ rest, hblank.skipBlanks_append_cons hnotBlank _, rfl, ?_⟩
  rintro rfl
  exact absurd (hc.symm.trans hclose.notStart) (by decide)

/-- What is written of an element, with blanks around it, is behind its blanks. -/
theorem Reads.skipBlanks_append (hf : Reads f E) {before mid : List Char} {a : α}
    (hblank : IsBlank before) (hmid : E mid a) (hclose : IsCloser close)
    (rest : List Char) :
    ∃ c tail, skipBlanks (before ++ (mid ++ rest)) = c :: tail ∧ mid ++ rest = c :: tail ∧
      c ≠ close :=
  hblank.skipBlanks_append_start (hf.starts hmid) hclose rest

/-- The rest of a text between two brackets cannot go on a number. -/
theorem Following.stops (h : Following E cs as) (hclose : IsCloser close)
    (rest : List Char) : Stops isNumberChar (cs ++ close :: rest) := by
  cases h with
  | none hblank => exact hblank.stops_append ((stops_cons _).mpr hclose.notNumber)
  | more hblank =>
    rw [List.append_assoc]
    exact hblank.stops_append ((stops_cons _).mpr rfl)

namespace IsLoop

variable (hloop : IsLoop close f loop) (hf : Reads f E)
include hloop hf

theorem exists_following {fuel : Nat} (h : loop false fuel cs = .ok (as, rest)) :
    ∃ inner, cs = inner ++ close :: rest ∧ Following E inner as := by
  induction fuel generalizing cs as with
  | zero => exact absurd h (hloop.zero _ _ _)
  | succ fuel ih =>
    obtain ⟨gap, hgap, hcs⟩ := exists_skipBlanks cs
    cases (hloop.succ _ _ _ _).mp h with
    | close hskip => exact ⟨gap, by rw [← hskip, ← hcs], .none hgap⟩
    | @later _ _ mid tail c _ hskip hmore _ hpush =>
      obtain ⟨a, others, last, rfl, helement, hothers⟩ := pushElement_eq_ok_iff.mp hpush
      obtain ⟨space, hspace, hmid⟩ := exists_skipBlanks mid
      obtain ⟨before, text, hbefore, htext, hwritten⟩ := hf.sound helement
      obtain ⟨inner, rfl, hinner⟩ := ih hothers
      refine ⟨gap ++ ',' :: ((space ++ before) ++ (text ++ inner)), ?_,
        .more hgap (hspace.append hbefore) hwritten hinner⟩
      rw [hcs, hskip, hmid, hmore, htext]
      simp only [List.append_assoc, List.cons_append]

theorem exists_enclosed {fuel : Nat} (h : loop true fuel cs = .ok (as, rest)) :
    ∃ inner, cs = inner ++ close :: rest ∧ Enclosed E inner as := by
  cases fuel with
  | zero => exact absurd h (hloop.zero _ _ _)
  | succ fuel =>
    obtain ⟨gap, hgap, hcs⟩ := exists_skipBlanks cs
    cases (hloop.succ _ _ _ _).mp h with
    | close hskip => exact ⟨gap, by rw [← hskip, ← hcs], .none hgap⟩
    | first hskip _ hpush =>
      obtain ⟨a, others, last, rfl, helement, hothers⟩ := pushElement_eq_ok_iff.mp hpush
      obtain ⟨before, text, hbefore, htext, hwritten⟩ := hf.sound helement
      obtain ⟨inner, rfl, hinner⟩ := hloop.exists_following hf hothers
      refine ⟨(gap ++ before) ++ (text ++ inner), ?_, .some (hgap.append hbefore) hwritten hinner⟩
      rw [hcs, hskip, htext]
      simp only [List.append_assoc]

theorem following {inner : List Char} (h : Following E inner as) {fuel : Nat}
    (hfuel : as.length < fuel) (rest : List Char) :
    loop false fuel (inner ++ close :: rest) = .ok (as, rest) := by
  induction h generalizing fuel with
  | none hgap =>
    obtain ⟨fuel, rfl⟩ := Nat.exists_eq_succ_of_ne_zero (Nat.ne_zero_of_lt hfuel)
    exact (hloop.succ _ _ _ _).mpr (.close (hgap.skipBlanks_append_cons hloop.closer.notBlank rest))
  | @more gap before cs others a as hgap hbefore hwritten hothers ih =>
    obtain ⟨fuel, rfl⟩ := Nat.exists_eq_succ_of_ne_zero (Nat.ne_zero_of_lt hfuel)
    have hlater := ih (Nat.lt_of_succ_lt_succ hfuel)
    have helement := hf.complete hwritten (hothers.stops hloop.closer rest)
    obtain ⟨c, tail, hskip, htext, hopen⟩ :=
      hf.skipBlanks_append hbefore hwritten hloop.closer (others ++ close :: rest)
    rw [htext] at helement
    have hsplit : gap ++ ',' :: (before ++ (cs ++ others)) ++ close :: rest =
        gap ++ ',' :: (before ++ (cs ++ (others ++ close :: rest))) := by simp
    rw [hsplit]
    refine (hloop.succ _ _ _ _).mpr (.later (hgap.skipBlanks_append_cons rfl _) hskip hopen ?_)
    exact pushElement_eq_ok_iff.mpr ⟨a, as, _, rfl, helement, hlater⟩

theorem enclosed {inner : List Char} (h : Enclosed E inner as) {fuel : Nat}
    (hfuel : as.length < fuel) (rest : List Char) :
    loop true fuel (inner ++ close :: rest) = .ok (as, rest) := by
  obtain ⟨fuel, rfl⟩ := Nat.exists_eq_succ_of_ne_zero (Nat.ne_zero_of_lt hfuel)
  cases h with
  | none hgap =>
    have hclose := hgap.skipBlanks_append_cons hloop.closer.notBlank rest
    exact (hloop.succ _ _ _ _).mpr (.close hclose)
  | @some before cs others a as hbefore hwritten hothers =>
    have hlater := hloop.following hf hothers (Nat.lt_of_succ_lt_succ hfuel) rest
    have helement := hf.complete hwritten (hothers.stops hloop.closer rest)
    obtain ⟨c, tail, hskip, htext, hopen⟩ :=
      hf.skipBlanks_append hbefore hwritten hloop.closer (others ++ close :: rest)
    rw [htext] at helement
    rw [List.append_assoc, List.append_assoc]
    refine (hloop.succ _ _ _ _).mpr (.first hskip hopen ?_)
    exact pushElement_eq_ok_iff.mpr ⟨a, as, _, rfl, helement, hlater⟩

/-- **Elements are read exactly**, up to the closing bracket, if there is fuel for them. -/
theorem eq_ok_iff : loop true (cs.length + 1) cs = .ok (as, rest) ↔
    ∃ inner, cs = inner ++ close :: rest ∧ Enclosed E inner as := by
  refine ⟨hloop.exists_enclosed hf, ?_⟩
  rintro ⟨inner, rfl, hinner⟩
  refine hloop.enclosed hf hinner ?_ rest
  rw [List.length_append, List.length_cons]
  cases hinner with
  | none => simp
  | some _ hwritten hothers =>
    obtain ⟨c, tail, rfl, -⟩ := hf.starts hwritten
    have hlength := hothers.length_le
    simp only [List.length_append, List.length_cons]
    omega

end IsLoop

end

/-! ### The two loops -/

/-- One round of a loop over elements: `more` reads an element and goes on. -/
def loopRound (close : Char) (unfinished wrongEnd : Reason) (first : Bool)
    (more : Reader (List α)) (cs : List Char) : Except Stop (List α × List Char) :=
  match skipBlanks cs with
  | [] => stopBefore unfinished []
  | c :: rest =>
    if c = close then .ok ([], rest)
    else if first then more (c :: rest)
    else if c = ',' then
      match skipBlanks rest with
      | [] => stopBefore .unfinishedValue []
      | d :: tail => if d = close then stopWithin .trailingComma (d :: tail) else more (d :: tail)
    else stopWithin wrongEnd (c :: rest)

theorem loopRound_eq_ok_iff {close : Char} (hclose : close ≠ ',') {f : Reader α}
    {loop : Bool → Nat → Reader (List α)} {unfinished wrongEnd : Reason} {first : Bool} {fuel : Nat}
    {result : List α × List Char} :
    loopRound close unfinished wrongEnd first (pushElement f loop fuel) cs = .ok result ↔
      LoopYields close f loop first fuel cs result := by
  constructor
  · intro h
    unfold loopRound at h
    split at h
    · cases h
    · next c rest hskip =>
      split at h
      · next hc =>
        cases h
        exact .close (hc ▸ hskip)
      · next hopen =>
        split at h
        · next hfirst =>
          subst hfirst
          exact .first hskip hopen h
        · next hfirst =>
          rw [Bool.not_eq_true] at hfirst
          subst hfirst
          split at h
          · next hcomma =>
            split at h
            · cases h
            · next d tail hmore =>
              split at h
              · cases h
              · next hopen => exact .later (hcomma ▸ hskip) hmore hopen h
          · cases h
  · intro h
    unfold loopRound
    cases h with
    | close hskip => simp only [hskip, if_true]
    | first hskip hopen hpush => simp only [hskip, if_neg hopen, if_true, hpush]
    | later hskip hmore hopen hpush =>
      simp only [hskip, hmore, if_neg hclose.symm, if_neg hopen, if_true, Bool.false_eq_true,
        if_false, hpush]

theorem isLoop_readItems (item : Reader Value) : IsLoop ']' item (readItems item) where
  closer := ⟨rfl, rfl, rfl⟩
  zero first cs result := nofun
  succ first fuel cs result := by
    have hround : readItems item first (fuel + 1) cs = loopRound ']' .unfinishedList
        .expectedItemEnd first (pushElement item (readItems item) fuel) cs := rfl
    rw [hround]
    exact loopRound_eq_ok_iff (by decide)

theorem isLoop_readMembers (value : Reader Value) :
    IsLoop '\x7d' (readMember value) (readMembers value) where
  closer := ⟨rfl, rfl, rfl⟩
  zero first cs result := nofun
  succ first fuel cs result := by
    have hround : readMembers value first (fuel + 1) cs = loopRound '\x7d' .unfinishedObject
        .expectedMemberEnd first (pushElement (readMember value) (readMembers value) fuel) cs := rfl
    rw [hround]
    exact loopRound_eq_ok_iff (by decide)

end BadgeEntry.Json
