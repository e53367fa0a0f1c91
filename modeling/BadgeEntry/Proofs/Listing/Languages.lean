import BadgeEntry.Listing.Language
import BadgeEntry.Proofs.Listing.Separator

/-!
# Which projects name a language

The names in a text are its parts between commas, without the spaces next to a comma.  The text is
read once, with spaces held back; it could as well be cut at all the commas first, or at the matches
of a pattern.  In all three forms the first comma of a text ends the first name, and what follows
the spaces behind it is read like a text of its own.

## Main definitions

* `trimmedParts` — the parts of a text between commas, without the spaces next to a comma.
* `NamesLanguage` — a project names a language.
* `Names.Reads` — what has been read since the last comma.

## Main results

* `induction_at_comma` — texts are taken apart at their first comma.
* `trimmedParts_append_comma`, `trimmedParts_of_notMem` — the first part, and the other ones.
* `splitNames_eq`, `splitNames_eq_cut` — **the names in a text are its parts between commas**, and
  between the matches of a pattern.
* `countLanguage_exact` — **how many projects name a language.**
-/

namespace BadgeEntry.Listing

open Json Text

variable {cs front part : List Char} {complete : List (List Char)}

/-! ### Parts of a text -/

/-- The parts of a text between commas, without spaces at the end of every part but the last, and
without spaces at the front of every part but the first. -/
def trimmedParts (cs : List Char) : List (List Char) :=
  let parts := cs.splitOn ','
  parts.mapIdx fun i part =>
    let part := if i = 0 then part else part.dropWhile (· = ' ')
    if i + 1 = parts.length then part else dropEnd (· = ' ') part

/-- Texts are taken apart at their first comma; the spaces behind it are passed over. -/
@[elab_as_elim]
theorem induction_at_comma {motive : List Char → Prop} (cs : List Char)
    (whole : ∀ cs, ',' ∉ cs → motive cs)
    (comma : ∀ front after, ',' ∉ front → motive (after.dropWhile (· = ' ')) →
      motive (front ++ ',' :: after)) : motive cs := by
  induction hlength : cs.length using Nat.strong_induction_on generalizing cs with
  | _ n ih =>
    subst hlength
    by_cases hcomma : ',' ∈ cs
    · obtain ⟨front, after, rfl, hfront⟩ := List.eq_append_cons_of_mem hcomma
      refine comma front after hfront (ih _ ?_ _ rfl)
      have hle := (List.dropWhile_sublist (· = ' ') (l := after)).length_le
      rw [List.length_append, List.length_cons]
      omega
    · exact whole cs hcomma

theorem trimmedParts_of_notMem (hcomma : ',' ∉ cs) : trimmedParts cs = [cs] := by
  rw [trimmedParts, List.splitOn_eq_singleton hcomma]
  rfl

/-- Spaces at the front of a text are spaces at the front of its first part. -/
theorem splitOn_dropWhile (cs : List Char) : (cs.dropWhile (· = ' ')).splitOn ',' =
    (cs.splitOn ',').modifyHead (List.dropWhile (· = ' ')) := by
  induction cs with
  | nil => rfl
  | cons c cs ih =>
    rw [List.splitOn_cons_eq_if_modifyHead c cs]
    by_cases hspace : c = ' '
    · subst hspace
      rw [List.dropWhile_cons_of_pos (by simp), if_neg (by simp), List.modifyHead_modifyHead, ih]
      rfl
    · rw [List.dropWhile_cons_of_neg (by simpa using hspace), List.splitOn_cons_eq_if_modifyHead]
      split
      · rfl
      · rw [List.modifyHead_modifyHead]
        congr 1
        funext part
        exact (List.dropWhile_cons_of_neg (by simpa using hspace)).symm

/-- The first comma of a text ends its first part, and the others are those of what follows the
spaces behind it. -/
theorem trimmedParts_append_comma (hfront : ',' ∉ front) (after : List Char) :
    trimmedParts (front ++ ',' :: after) =
      dropEnd (· = ' ') front :: trimmedParts (after.dropWhile (· = ' ')) := by
  simp only [trimmedParts]
  rw [List.splitOn_append_cons_self_of_not_mem hfront, splitOn_dropWhile]
  cases hsplit : after.splitOn ',' with
  | nil => exact absurd hsplit (List.splitOn_ne_nil _ _)
  | cons part parts =>
    simp only [List.modifyHead_cons, List.mapIdx_cons, List.length_cons]
    simp

/-- No part contains a comma. -/
theorem notMem_of_mem_trimmedParts (hpart : part ∈ trimmedParts cs) : ',' ∉ part := by
  induction cs using induction_at_comma with
  | whole cs hcomma =>
    rw [trimmedParts_of_notMem hcomma, List.mem_singleton] at hpart
    rwa [hpart]
  | comma front after hfront ih =>
    rw [trimmedParts_append_comma hfront] at hpart
    rcases List.mem_cons.mp hpart with rfl | hpart
    · exact fun hmem => hfront ((dropEnd_prefix_self _ front).subset hmem)
    · exact ih hpart

/-! ### Reading the names -/

/-- The names before the last comma are complete, and then `cs` has been read. -/
structure Names.Reads (s : Names) (complete : List (List Char)) (cs : List Char) : Prop where
  /-- The complete names. -/
  complete_eq : s.complete = complete
  /-- The next name has no spaces at its end. -/
  current_eq : s.current.reverse = dropEnd (· = ' ') cs
  /-- They are held back. -/
  held_eq : (s.held ++ s.current).reverse = cs
  /-- There was something since the last comma, or there was no comma. -/
  afterComma_eq : s.afterComma = false

namespace Names

variable {s : Names}

/-- One more character. -/
theorem Reads.take {c : Char} (h : s.Reads complete cs) (hc : c ≠ ',') :
    (s.take c).Reads complete (cs ++ [c]) := by
  rw [Names.take, if_neg hc]
  by_cases hspace : c = ' '
  · subst hspace
    have hheld : (' ' :: s.held ++ s.current).reverse = cs ++ [' '] := by
      rw [List.cons_append, List.reverse_cons, h.held_eq]
    have hdrop : dropEnd (· = ' ') (cs ++ [' ']) = dropEnd (· = ' ') cs :=
      dropEnd_append_of_all (by simp)
    rw [if_pos rfl, h.afterComma_eq, if_neg Bool.false_ne_true]
    exact ⟨h.complete_eq, h.current_eq.trans hdrop.symm, hheld, rfl⟩
  · have hcurrent : (c :: (s.held ++ s.current)).reverse = cs ++ [c] := by
      rw [List.reverse_cons, h.held_eq]
    have hdrop : dropEnd (· = ' ') (cs ++ [c]) = cs ++ [c] :=
      dropEnd_of_stopsAtEnd (stopsAtEnd_concat.mpr (decide_eq_false hspace))
    rw [if_neg hspace]
    exact ⟨h.complete_eq, hcurrent.trans hdrop.symm, hcurrent, rfl⟩

/-- Any number of characters. -/
theorem Reads.foldl (h : s.Reads complete cs) (hfront : ',' ∉ front) :
    (front.foldl Names.take s).Reads complete (cs ++ front) := by
  induction front generalizing s cs with
  | nil => rwa [List.append_nil]
  | cons c front ih =>
    obtain ⟨hc, hfront⟩ := not_or.mp (List.mem_cons.not.mp hfront)
    rw [List.foldl_cons, List.append_cons]
    exact ih (h.take (Ne.symm hc)) hfront

/-- The end of the text. -/
theorem Reads.toList_eq (h : s.Reads complete cs) : s.toList = complete.reverse ++ [cs] := by
  rw [Names.toList, h.held_eq, h.complete_eq, List.reverse_cons]

/-- A comma. -/
theorem Reads.take_comma (h : s.Reads complete cs) :
    s.take ',' = ⟨dropEnd (· = ' ') cs :: complete, [], [], true⟩ := by
  rw [Names.take, if_pos rfl, h.current_eq, h.complete_eq]

theorem reads_nil (complete : List (List Char)) :
    Reads ⟨complete, [], [], false⟩ complete [] :=
  ⟨rfl, rfl, rfl, rfl⟩

/-- Spaces behind a comma are passed over. -/
theorem toList_foldl_afterComma (complete : List (List Char)) (cs : List Char) :
    (cs.foldl Names.take ⟨complete, [], [], true⟩).toList =
      ((cs.dropWhile (· = ' ')).foldl Names.take ⟨complete, [], [], false⟩).toList := by
  induction cs with
  | nil => rfl
  | cons c cs ih =>
    by_cases hspace : c = ' '
    · subst hspace
      rw [List.dropWhile_cons_of_pos (by simp), ← ih]
      rfl
    · rw [List.dropWhile_cons_of_neg (by simpa using hspace), List.foldl_cons, List.foldl_cons]
      simp only [Names.take, hspace, if_false]

/-- What is read from the start of a name on. -/
theorem toList_foldl (complete : List (List Char)) (cs : List Char) :
    (cs.foldl Names.take ⟨complete, [], [], false⟩).toList =
      complete.reverse ++ trimmedParts cs := by
  induction cs using induction_at_comma generalizing complete with
  | whole cs hcomma =>
    rw [trimmedParts_of_notMem hcomma]
    exact ((reads_nil complete).foldl hcomma).toList_eq
  | comma front after hfront ih =>
    rw [List.foldl_append, List.foldl_cons, ((reads_nil complete).foldl hfront).take_comma,
      toList_foldl_afterComma, ih, trimmedParts_append_comma hfront, List.reverse_cons,
      List.append_assoc]
    rfl

end Names

/-- **The names in a text are its parts between commas.** -/
theorem splitNames_eq (text : String) :
    splitNames text = (trimmedParts text.toList).map String.ofList := by
  rw [splitNames, Names.toList_foldl, List.reverse_nil, List.nil_append]

/-- The parts are the pieces between separators. -/
theorem cut_separator {most : Nat} (hmost : cs.length ≤ most) :
    separator.cut most cs = trimmedParts cs := by
  induction cs using induction_at_comma generalizing most with
  | whole cs hcomma => rw [cut_of_notMem hcomma, trimmedParts_of_notMem hcomma]
  | comma front after hfront ih =>
    rw [List.length_append, List.length_cons] at hmost
    obtain ⟨most, rfl⟩ : ∃ n, most = n + 1 := Nat.exists_eq_succ_of_ne_zero (by omega)
    have hrest : (after.dropWhile (· = ' ')).length ≤ most := by
      have hle := (List.dropWhile_sublist (· = ' ') (l := after)).length_le
      omega
    rw [cut_append_comma hfront, ih hrest, trimmedParts_append_comma hfront]

/-- The names in a text are its pieces between the matches of a pattern. -/
theorem splitNames_eq_cut (text : String) : splitNames text =
    (separator.cut text.toList.length text.toList).map String.ofList := by
  rw [splitNames_eq, cut_separator (le_refl _)]

/-! ### Counting -/

/-- A project names a language: it is an object, with a text for its languages, and the language is
one of the parts of that text. -/
def NamesLanguage (language : String) (project : Value) : Prop :=
  ∃ members text, project = .object members ∧
    Entries.get? "implementation_languages" members = some (.text text) ∧
    language.toList ∈ trimmedParts text.toList

variable {language : String} {project : Value}

/-- Only objects with a text for their languages name any. -/
theorem languages?_eq_some_iff {listed : List String} : languages? project = some listed ↔
    ∃ members text, project = .object members ∧
      Entries.get? "implementation_languages" members = some (.text text) ∧
      splitNames text = listed := by
  constructor
  · intro hlisted
    rw [languages?] at hlisted
    split at hlisted
    · next text hmember =>
      cases project with
      | object members => exact ⟨members, text, rfl, hmember, Option.some.inj hlisted⟩
      | null | bool | number | text | array => cases hmember
    · cases hlisted
  · rintro ⟨members, text, rfl, htext, rfl⟩
    rw [languages?, Value.member?, languagesMember, htext]

theorem mem_splitNames {text : String} :
    language ∈ splitNames text ↔ language.toList ∈ trimmedParts text.toList := by
  rw [splitNames_eq, List.mem_map]
  constructor
  · rintro ⟨part, hpart, rfl⟩
    rwa [String.toList_ofList]
  · intro hpart
    exact ⟨language.toList, hpart, String.ofList_toList⟩

/-- The projects that are counted are those that name the language. -/
theorem names_eq_true_iff : names language project = true ↔ NamesLanguage language project := by
  rw [names, Option.any_eq_true]
  constructor
  · rintro ⟨listed, hlisted, hmem⟩
    obtain ⟨members, text, hproject, htext, rfl⟩ := languages?_eq_some_iff.mp hlisted
    exact ⟨members, text, hproject, htext, mem_splitNames.mp (List.contains_iff_mem.mp hmem)⟩
  · rintro ⟨members, text, hproject, htext, hmem⟩
    exact ⟨splitNames text, languages?_eq_some_iff.mpr ⟨members, text, hproject, htext, rfl⟩,
      List.contains_iff_mem.mpr (mem_splitNames.mpr hmem)⟩

instance (language : String) : DecidablePred (NamesLanguage language) :=
  fun _ => decidable_of_iff _ names_eq_true_iff

theorem countLanguage_eq_countP (projects : List Value) (language : String) :
    countLanguage projects language = projects.countP (NamesLanguage language ·) := by
  refine List.countP_congr fun project _ => ?_
  rw [names_eq_true_iff, decide_eq_true_iff]

theorem countLanguage_append (projects others : List Value) (language : String) :
    countLanguage (projects ++ others) language =
      countLanguage projects language + countLanguage others language :=
  List.countP_append

/-- A project counts once, if it names the language at all. -/
theorem countLanguage_singleton (project : Value) (language : String) :
    countLanguage [project] language = if NamesLanguage language project then 1 else 0 := by
  rw [countLanguage_eq_countP, List.countP_singleton]
  simp only [decide_eq_true_eq]

theorem NamesLanguage.notMem (h : NamesLanguage language project) : ',' ∉ language.toList := by
  obtain ⟨members, text, -, -, hpart⟩ := h
  exact notMem_of_mem_trimmedParts hpart

/-- **How many projects name a language.**  A project names it if it is an object whose languages
are a text with that language as one of its parts between commas, without the spaces next to a
comma.  Each project counts once or not at all; a language with a comma is never named; other
projects make no difference; and the counts of two lists of projects are added.

The names in a text are also its pieces between the matches of a pattern. -/
theorem countLanguage_exact :
    (∀ projects language,
      countLanguage projects language = projects.countP (NamesLanguage language ·)) ∧
    (∀ project language,
      countLanguage [project] language = if NamesLanguage language project then 1 else 0) ∧
    (∀ projects language, ',' ∈ language.toList → countLanguage projects language = 0) ∧
    (∀ before project after language,
      (¬∃ members text, project = .object members ∧
        Entries.get? "implementation_languages" members = some (.text text)) →
      countLanguage (before ++ project :: after) language =
        countLanguage (before ++ after) language) ∧
    (∀ projects others language, countLanguage (projects ++ others) language =
      countLanguage projects language + countLanguage others language) ∧
    ∃ p, Pattern.read? " *, *" = some p ∧
      ∀ text, splitNames text = (p.cut text.toList.length text.toList).map String.ofList := by
  refine ⟨countLanguage_eq_countP, countLanguage_singleton, ?_, ?_, countLanguage_append,
    separator, rfl, splitNames_eq_cut⟩
  · intro projects language hcomma
    rw [countLanguage_eq_countP, List.countP_eq_zero]
    intro project _ hnames
    exact (of_decide_eq_true hnames).notMem hcomma
  · intro before project after language hother
    have hnot : ¬NamesLanguage language project := by
      rintro ⟨members, text, hproject, htext, -⟩
      exact hother ⟨members, text, hproject, htext⟩
    rw [List.append_cons, countLanguage_append, countLanguage_append before [project],
      countLanguage_singleton, if_neg hnot, Nat.add_zero, countLanguage_append]

/-- A project with one language, one that names a language twice, one with spaces in front of the
first name, and one without a text for its languages. -/
def someProjects : List Value :=
  [.object [("implementation_languages", .text "R")],
    .object [("implementation_languages", .text "C , R,Python,R")],
    .object [("implementation_languages", .text "  R, Ruby")],
    .object [("implementation_languages", .null)]]

theorem countLanguage_someProjects :
    countLanguage someProjects "R" = 2 ∧ countLanguage someProjects "C , R" = 0 ∧
      countLanguage (someProjects.take 3) "  R" = countLanguage someProjects "  R" := by
  refine ⟨?_, ?_, ?_⟩
  · rw [countLanguage_exact.1]
    decide
  · exact countLanguage_exact.2.2.1 someProjects "C , R" (by decide)
  · refine (countLanguage_exact.2.2.2.1 (someProjects.take 3) (.object
      [("implementation_languages", .null)]) [] "  R" ?_).symm
    rintro ⟨members, text, hproject, htext⟩
    cases hproject
    cases htext

end BadgeEntry.Listing
