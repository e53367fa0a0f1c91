import BadgeEntry.Proofs.Text.Spans
import BadgeEntry.Site.Endpoint

/-!
# Typed roots and their normal form

A root is typed with blanks around it and with slashes at its end, or without them.  Blanks are
taken away at both ends, and then slashes at the end only.  A blank that stands before those
slashes stays, but it is no end of the text any more as soon as a slash is put back behind it.  So
a normal root is its own normal form.

## Main definitions

* `IsBare` — a text that has no blanks at its ends.
* `Decorates` — a text with blanks around it and slashes at its end.

## Main results

* `exists_trim`, `trim_of_isBare` — what is left without the blanks.
* `stem_eq_nil_iff`, `stem_of_decorates` — what is left without the slashes.
* `normalize_eq_none_iff_exists` — **only blanks around slashes stand for no root.**
* `normalize_of_normalize` — **a normal root is its own normal form.**
* `normalize_of_decorates` — **blanks around a root and slashes at its end make no difference.**
-/

namespace BadgeEntry

namespace Text

/-! ### Without blanks -/

/-- A text that is not empty and has no blank at either end. -/
structure IsBare (cs : List Char) : Prop where
  ne_nil : cs ≠ []
  stops : Stops isBlank cs
  stopsAtEnd : StopsAtEnd isBlank cs

variable {front cs back : List Char}

/-- A text of blanks leaves nothing. -/
theorem trim_of_all (h : ∀ c ∈ cs, isBlank c = true) : trim cs = [] := by
  have hnone : cs.dropWhile isBlank = [] := List.dropWhile_eq_nil_iff.mpr h
  rw [trim, hnone]
  rfl

/-- Blanks around a bare text are taken away. -/
theorem trim_of_isBare (hfront : ∀ c ∈ front, isBlank c = true) (hbare : IsBare cs)
    (hback : ∀ c ∈ back, isBlank c = true) : trim (front ++ (cs ++ back)) = cs := by
  have hstops : Stops isBlank (cs ++ back) := by
    obtain ⟨c, rest, rfl⟩ := List.exists_cons_of_ne_nil hbare.ne_nil
    exact (stops_cons _).mpr ((stops_cons _).mp hbare.stops)
  rw [trim, dropWhile_append_of_stop hfront hstops, dropEnd_append_of_all hback,
    dropEnd_of_stopsAtEnd hbare.stopsAtEnd]

theorem IsBare.trim_eq_self (hbare : IsBare cs) : trim cs = cs := by
  have hnone : ∀ c ∈ ([] : List Char), isBlank c = true := by simp
  simpa using trim_of_isBare hnone hbare hnone

/-- A text consists of blanks and what is left without them. -/
theorem exists_trim (cs : List Char) : ∃ front back, cs = front ++ (trim cs ++ back) ∧
    (∀ c ∈ front, isBlank c = true) ∧ (∀ c ∈ back, isBlank c = true) ∧ Stops isBlank (trim cs) := by
  obtain ⟨back, hrest, hback⟩ := dropEnd_append_all isBlank (cs.dropWhile isBlank)
  have hstops := stops_dropWhile isBlank cs
  refine ⟨cs.takeWhile isBlank, back, ?_, ?_, List.all_eq_true.mp hback, ?_⟩
  · rw [trim, ← hrest, List.takeWhile_append_dropWhile]
  · exact fun c hc => List.mem_takeWhile_imp hc
  · -- what is left begins as the text without the blanks in front
    rw [hrest] at hstops
    intro c hc
    exact hstops c (List.mem_head?_append_of_mem_head? hc)

end Text

namespace Site

open Text

/-! ### Without slashes -/

/-- A text stands for a root with decoration: blanks around it and slashes behind it. -/
def Decorates (root input : String) : Prop :=
  ∃ front slashes back, input.toList = front ++ (root.toList ++ slashes ++ back) ∧
    (∀ c ∈ front, isBlank c = true) ∧ (∀ c ∈ slashes, c = '/') ∧ (∀ c ∈ back, isBlank c = true)

variable {cs front slashes back : List Char} {input root : String}

theorem isBare_slashes (hslashes : ∀ c ∈ slashes, c = '/') (hne : slashes ≠ []) :
    IsBare slashes := by
  have hslash : isBlank '/' = false := by decide
  refine ⟨hne, fun c hc => ?_, fun c hc => ?_⟩
  · rwa [hslashes c (List.mem_of_mem_head? hc)]
  · rwa [hslashes c (List.mem_of_getLast? hc)]

/-- Slashes behind a bare text have no blank behind them. -/
theorem isBare_append_slashes (hbare : IsBare cs) (hslashes : ∀ c ∈ slashes, c = '/') :
    IsBare (cs ++ slashes) := by
  by_cases hnone : slashes = []
  · rwa [hnone, List.append_nil]
  · obtain ⟨c, rest, rfl⟩ := List.exists_cons_of_ne_nil hbare.ne_nil
    refine ⟨List.cons_ne_nil _ _, (stops_cons _).mpr ((stops_cons _).mp hbare.stops), ?_⟩
    intro d hd
    rw [List.getLast?_append_of_ne_nil _ hnone] at hd
    exact (isBare_slashes hslashes hnone).stopsAtEnd d hd

/-- Nothing is left of slashes with blanks around them, and of nothing else. -/
theorem stem_eq_nil_iff : stem cs = [] ↔ ∃ front slashes back, cs = front ++ (slashes ++ back) ∧
    (∀ c ∈ front, isBlank c = true) ∧ (∀ c ∈ slashes, c = '/') ∧
      ∀ c ∈ back, isBlank c = true := by
  constructor
  · intro hnone
    obtain ⟨front, back, hcs, hfront, hback, -⟩ := exists_trim cs
    obtain ⟨slashes, htrim, hslashes⟩ := dropEnd_append_all (· = '/') (trim cs)
    rw [← stem, hnone, List.nil_append] at htrim
    refine ⟨front, trim cs, back, hcs, hfront, fun c hc => ?_, hback⟩
    rw [htrim] at hc
    exact of_decide_eq_true (List.all_eq_true.mp hslashes c hc)
  · rintro ⟨front, slashes, back, rfl, hfront, hslashes, hback⟩
    have hdrop : dropEnd (· = '/') ([] ++ slashes) = [] :=
      dropEnd_append_of_all fun c hc => decide_eq_true (hslashes c hc)
    by_cases hnone : slashes = []
    · subst hnone
      rw [stem, List.nil_append, trim_of_all (List.forall_mem_append.mpr ⟨hfront, hback⟩)]
      rfl
    · rwa [stem, trim_of_isBare hfront (isBare_slashes hslashes hnone) hback]

/-- A decorated root has the same stem as the root. -/
theorem stem_of_decorates (hbare : IsBare root.toList) (h : Decorates root input) :
    stem input.toList = stem root.toList := by
  obtain ⟨front, slashes, back, hinput, hfront, hslashes, hback⟩ := h
  rw [stem, hinput, trim_of_isBare hfront (isBare_append_slashes hbare hslashes) hback,
    dropEnd_append_of_all fun c hc => decide_eq_true (hslashes c hc), stem, hbare.trim_eq_self]

/-- What is left does not end in a slash, and begins without a blank. -/
theorem stem_stops (cs : List Char) :
    StopsAtEnd (· = '/') (stem cs) ∧ Stops isBlank (stem cs) := by
  obtain ⟨-, -, -, -, -, hstops⟩ := exists_trim cs
  obtain ⟨slashes, htrim, -⟩ := dropEnd_append_all (· = '/') (trim cs)
  refine ⟨stopsAtEnd_dropEnd _ _, fun c hc => hstops c ?_⟩
  rw [htrim]
  exact List.mem_head?_append_of_mem_head? hc

/-! ### Normal roots -/

theorem normalize_eq_some_iff :
    normalize input = some root ↔
      stem input.toList ≠ [] ∧ root = String.ofList (stem input.toList ++ ['/']) := by
  unfold normalize
  split
  · next hnone => simp [hnone]
  · next c cs hsome => simp [hsome, eq_comm]

/-- Texts with the same stem stand for the same root. -/
theorem normalize_congr {input' : String} (h : stem input.toList = stem input'.toList) :
    normalize input = normalize input' := by
  unfold normalize
  rw [h]

/-- **Only slashes with blanks around them stand for no root.** -/
theorem normalize_eq_none_iff_exists : normalize input = none ↔
    ∃ front slashes back, input.toList = front ++ (slashes ++ back) ∧
      (∀ c ∈ front, isBlank c = true) ∧ (∀ c ∈ slashes, c = '/') ∧
        ∀ c ∈ back, isBlank c = true :=
  (normalize_eq_none_iff input).trans stem_eq_nil_iff

/-- A normal root is a text with one slash behind it. -/
theorem exists_of_normalize (h : normalize input = some root) :
    ∃ text : String, root = text ++ "/" ∧ text ≠ "" ∧ text.toList.getLast? ≠ some '/' := by
  obtain ⟨hne, rfl⟩ := normalize_eq_some_iff.mp h
  refine ⟨String.ofList (stem input.toList), ?_, ?_, ?_⟩
  · rw [String.ofList_append]
  · simpa using hne
  · rw [String.toList_ofList]
    intro hlast
    simpa using (stem_stops input.toList).1 '/' hlast

/-- **A normal root is its own normal form.** -/
theorem normalize_of_normalize (h : normalize input = some root) :
    normalize root = some root := by
  obtain ⟨hne, hroot⟩ := normalize_eq_some_iff.mp h
  obtain ⟨hslash, hstops⟩ := stem_stops input.toList
  have hlist : root.toList = stem input.toList ++ ['/'] := by rw [hroot, String.toList_ofList]
  have hbare : IsBare root.toList := by
    rw [hlist]
    obtain ⟨c, rest, hcons⟩ := List.exists_cons_of_ne_nil hne
    rw [hcons] at hstops ⊢
    refine ⟨List.cons_ne_nil _ _, (stops_cons _).mpr ((stops_cons _).mp hstops), ?_⟩
    exact stopsAtEnd_concat.mpr (by decide)
  -- so no blank is taken away, and only the last slash is
  have hstem : stem root.toList = stem input.toList := by
    rw [stem, hbare.trim_eq_self, hlist, dropEnd_append_of_all (by simp),
      dropEnd_of_stopsAtEnd hslash]
  rw [normalize_congr hstem, h]

/-- **Blanks around a root and slashes at its end make no difference.** -/
theorem normalize_of_decorates (hbare : IsBare root.toList) (h : Decorates root input) :
    normalize input = normalize root :=
  normalize_congr (stem_of_decorates hbare h)

end Site

end BadgeEntry
