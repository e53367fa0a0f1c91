import BadgeEntry.Proofs.Site.Pages
import BadgeEntry.Proofs.Url.AnyRoot

/-!
# The places of a site's pages

The form of a project, its page and the pages of the listing each lie at a place below the
root.  So for a root of the web their addresses are that of the root with a place below it,
and for a root of any kind they have addresses.

## Main definitions

* `formPlace`, `editPlace`, `listingPlace` — the places.

## Main results

* `parse_projectPage`, `parse_editPage`, `parse_listingPage` — **the addresses of the pages
  of a site of the web.**
* `exists_parse_projectPage` and its kin — the pages of a site of any kind have addresses.
-/

namespace BadgeEntry.Site

open Url Text Decimal

/-! ### Words -/

/-- The characters of the words that places are made of. -/
def isWordChar (c : Char) : Bool :=
  c.toNat < 0x80 && (c.isAlphanum || c == '.')

/-- A word does not begin with a point. -/
def IsWord (s : List Char) : Prop :=
  s.head?.any (· != '.') = true ∧ ∀ c ∈ s, isWordChar c = true

instance (s : List Char) : Decidable (IsWord s) :=
  decidable_of_iff (s.head?.any (· != '.') = true ∧ s.all isWordChar = true)
    (and_congr_right fun _ => List.all_eq_true)

section
variable {c : Char} (h : isWordChar c = true)
include h

theorem of_isWordChar {P : Char → Prop}
    (hall : ∀ n : Fin 128, isWordChar (Char.ofNat n) = true → P (Char.ofNat n)) : P c := by
  refine of_ascii (P := fun c => isWordChar c = true → P c) hall ?_ h
  unfold isWordChar at h
  rw [Bool.and_eq_true, decide_eq_true_eq] at h
  exact h.1

theorem isUncoded_of_isWordChar :
    IsUncoded (isQueryCoded true) c ∧ IsUncoded isFragmentCoded c := by
  unfold IsUncoded
  exact of_isWordChar (P := fun c => (c.toNat < 0x80 ∧ isQueryCoded true c = false) ∧
    c.toNat < 0x80 ∧ isFragmentCoded c = false) h (by decide)

end

/-- A word is a segment. -/
theorem isSegment_of_isWord {s : List Char} (h : IsWord s) : IsSegment s := by
  obtain ⟨hfirst, hchars⟩ := h
  have hkind (c : Char) (hc : c ∈ s) :
      (c.toNat < 0x80 ∧ isPathCoded c = false) ∧ c ≠ '/' ∧ c ≠ '\\' ∧ c ≠ '%' :=
    of_isWordChar (P := fun c => (c.toNat < 0x80 ∧ isPathCoded c = false) ∧ c ≠ '/' ∧ c ≠ '\\' ∧
      c ≠ '%') (hchars c hc) (by decide)
  cases s with
  | nil => exact absurd hfirst (by decide)
  | cons c cs =>
    have hpoint : c ≠ '.' := by simpa using hfirst
    have hpercent := (hkind c List.mem_cons_self).2.2.2
    have hdotted : dotted (c :: cs) = c :: dotted cs :=
      dotted.eq_3 c cs (fun _ hc => absurd hc hpercent) (fun _ hc => absurd hc hpercent)
    refine ⟨fun d hd => (hkind d hd).1, fun hmem => (hkind _ hmem).2.1 rfl,
      fun hmem => (hkind _ hmem).2.2.1 rfl, ?_, ?_⟩
    · simp [isSingleDot, hdotted, hpoint]
    · simp [isDoubleDot, hdotted, hpoint]

theorem isWord_digits (n : Nat) : IsWord (digits n) := by
  have hall : ∀ d : Fin 10, isWordChar (d : Nat).digitChar = true ∧ (d : Nat).digitChar ≠ '.' := by
    decide
  have hchars (c : Char) (hc : c ∈ digits n) : isWordChar c = true ∧ c ≠ '.' := by
    obtain ⟨d, rfl⟩ := exists_digitChar hc
    exact hall d
  refine ⟨?_, fun c hc => (hchars c hc).1⟩
  obtain ⟨c, cs, hdigits⟩ := List.exists_cons_of_ne_nil (digits_ne_nil n)
  have hfirst := (hchars c (by rw [hdigits]; exact List.mem_cons_self)).2
  rw [hdigits]
  simpa using hfirst

/-- The place of some words, with a query. -/
def placeOf (words : List (List Char)) (query : Option (List Char)) (hne : words ≠ [])
    (hwords : ∀ s ∈ words, IsWord s)
    (hquery : ∀ text ∈ query, ∀ c ∈ text, isWordChar c = true ∨ c = '=') : Place where
  segments := words
  query := query
  isSegments := ⟨hne, fun s hs => isSegment_of_isWord (hwords s hs)⟩
  uncoded := by
    intro c hc
    have hchar : isWordChar c = true ∨ c = '/' ∨ c = '?' ∨ c = '=' := by
      rcases List.mem_append.mp hc with hc | hc
      · rcases mem_segmentsText hc with hc | ⟨s, hs, hc⟩
        · exact Or.inr (Or.inl hc)
        · exact Or.inl ((hwords s hs).2 c hc)
      · cases hquery' : query with
        | none =>
          rw [hquery'] at hc
          exact absurd hc List.not_mem_nil
        | some text =>
          rw [hquery'] at hc
          rcases List.mem_cons.mp hc with hc | hc
          · exact Or.inr (Or.inr (Or.inl hc))
          · exact (hquery text hquery' c hc).imp_right fun hc => Or.inr (Or.inr hc)
    unfold IsUncoded
    rcases hchar with hchar | rfl | rfl | rfl
    · exact isUncoded_of_isWordChar hchar
    · decide
    · decide
    · decide

/-! ### The places -/

variable (project : ProjectId) (page : UInt32)

theorem forall_mem_none {P : List Char → Prop} : ∀ text ∈ (none : Option (List Char)), P text :=
  fun _ h => by cases h

/-- The words of the page of a project. -/
def projectWords : List (List Char) :=
  ["en".toList, "projects".toList, digits project.toNat]

theorem isWord_of_mem_projectWords : ∀ s ∈ projectWords project, IsWord s := by
  have hwords : IsWord "en".toList ∧ IsWord "projects".toList := by decide
  intro s hs
  simp only [projectWords, List.mem_cons, List.not_mem_nil, or_false] at hs
  rcases hs with rfl | rfl | rfl
  · exact hwords.1
  · exact hwords.2
  · exact isWord_digits _

/-- Where the form of a project is submitted. -/
def formPlace : Place :=
  placeOf (projectWords project) none (List.cons_ne_nil _ _) (isWord_of_mem_projectWords project)
    forall_mem_none

/-- Where the form of a project is shown. -/
def editPlace : Place :=
  placeOf (projectWords project ++ ["edit".toList]) none (List.cons_ne_nil _ _)
    (List.forall_mem_append.mpr ⟨isWord_of_mem_projectWords project,
      List.forall_mem_singleton.mpr (by decide)⟩) forall_mem_none

/-- The query of a page of the listing. -/
def listingQuery : List Char :=
  "page=".toList ++ digits page.toNat

theorem isWordChar_of_mem_listingQuery {c : Char} (h : c ∈ listingQuery page) :
    isWordChar c = true ∨ c = '=' := by
  have hall : "page=".toList.all (fun c => isWordChar c || c == '=') = true := rfl
  rcases List.mem_append.mp h with h | h
  · simpa using List.all_eq_true.mp hall c h
  · exact Or.inl ((isWord_digits page.toNat).2 c h)

/-- Where a page of the listing is. -/
def listingPlace : Place :=
  placeOf ["projects.json".toList] (some (listingQuery page)) (List.cons_ne_nil _ _)
    (List.forall_mem_singleton.mpr (by decide))
    fun text htext c hc => by cases htext; exact isWordChar_of_mem_listingQuery page hc

theorem segmentsText_projectWords :
    segmentsText (projectWords project) = projectPlace project := by
  rw [segmentsText, projectWords, List.intercalate_cons_cons, List.intercalate_cons_cons,
    List.intercalate_singleton]
  rfl

theorem segmentsText_formPlace :
    segmentsText (formPlace project).segments = projectPlace project :=
  segmentsText_projectWords project

theorem segmentsText_editPlace :
    segmentsText (editPlace project).segments = projectPlace project ++ "/edit".toList := by
  have hedit : segmentsText (projectWords project ++ ["edit".toList]) =
      segmentsText (projectWords project) ++ '/' :: segmentsText ["edit".toList] :=
    intercalate_append (List.cons_ne_nil _ _) (List.cons_ne_nil _ _)
  rw [segmentsText_projectWords] at hedit
  exact hedit

theorem segmentsText_listingPlace :
    segmentsText (listingPlace page).segments = "projects.json".toList :=
  List.intercalate_singleton

theorem formPlace_text : (formPlace project).text = projectPlace project :=
  (List.append_nil _).trans (segmentsText_formPlace project)

theorem editPlace_text : (editPlace project).text = projectPlace project ++ "/edit".toList :=
  (List.append_nil _).trans (segmentsText_editPlace project)

theorem listingPlace_text :
    (listingPlace page).text = "projects.json".toList ++ '?' :: listingQuery page := by
  rw [Place.text, segmentsText_listingPlace]
  rfl

variable {root : String}

theorem projectPage_eq_append :
    projectPage root project = root ++ String.ofList (formPlace project).text := by
  rw [projectPage_eq, formPlace_text]

theorem editPage_eq_append :
    editPage root project = root ++ String.ofList (editPlace project).text := by
  rw [editPage_eq, editPlace_text]

theorem listingPage_eq_append :
    listingPage root page = root ++ String.ofList (listingPlace page).text := by
  have htext : "projects.json".toList ++ '?' :: listingQuery page =
      "projects.json?page=".toList ++ digits page.toNat := rfl
  rw [listingPlace_text, htext, String.ofList_append, String.ofList_toList, ← String.append_assoc]
  rfl

/-! ### Sites of the web -/

section
variable [NameMapping] {base : Address} (hbase : Address.parse root = .ok base)
  (hweb : base.kind = .web)
  (hslash : root.toList.getLast? = some '/')
include hbase hweb hslash

/-- **The address to which the form of a project is submitted.** -/
theorem parse_projectPage :
    Address.parse (projectPage root project) = .ok (base.extended (formPlace project)) := by
  rw [projectPage_eq_append]
  exact parse_extended hbase hweb hslash _

/-- **The address of the form of a project.** -/
theorem parse_editPage :
    Address.parse (editPage root project) = .ok (base.extended (editPlace project)) := by
  rw [editPage_eq_append]
  exact parse_extended hbase hweb hslash _

/-- **The address of a page of the listing.** -/
theorem parse_listingPage :
    Address.parse (listingPage root page) = .ok (base.extended (listingPlace page)) := by
  rw [listingPage_eq_append]
  exact parse_extended hbase hweb hslash _

end

/-! ### Sites of any kind -/

/-- A place begins with a host if its first word is one. -/
theorem startsWithHost_text [NameMapping] {place : Place} {name rest : List Char}
    (htext : place.text = name ++ rest)
    (hname : IsWord name ∧ ∀ c ∈ name, isNameChar c = true)
    (hrest : ∃ c ∈ rest.head?, c = '/' ∨ c = '?') (hbackslash : '\\' ∉ rest)
    (hweb : ∃ host, readWebHost name = .ok host)
    (hplain : ∃ host, readPlainHost name = .ok host) : StartsWithHost place.text where
  isBelowText := place.isBelowText_text
  backslash := by
    rw [htext, List.mem_append, not_or]
    exact ⟨fun hmem => absurd (hname.2 _ hmem) (by decide), hbackslash⟩
  front := by
    refine ⟨name, rest, htext, ?_, hname.2, hrest, hweb, hplain⟩
    rintro rfl
    exact absurd hname.1 (by decide)

theorem notMem_digits_backslash (n : Nat) : '\\' ∉ digits n := fun hmem =>
  absurd ((isWord_digits n).2 _ hmem) (by decide)

theorem startsWithHost_formPlace [NameMapping] : StartsWithHost (formPlace project).text := by
  have htext : (formPlace project).text =
      "en".toList ++ ("/projects/".toList ++ digits project.toNat) := formPlace_text project
  refine startsWithHost_text htext ⟨by decide, List.all_eq_true.mp rfl⟩ ⟨'/', rfl, Or.inl rfl⟩ ?_
    ⟨_, rfl⟩ ⟨_, rfl⟩
  rw [List.mem_append, not_or]
  exact ⟨by decide, notMem_digits_backslash _⟩

theorem startsWithHost_editPlace [NameMapping] : StartsWithHost (editPlace project).text := by
  have htext : (editPlace project).text =
      "en".toList ++ ("/projects/".toList ++ digits project.toNat ++ "/edit".toList) :=
    editPlace_text project
  refine startsWithHost_text htext ⟨by decide, List.all_eq_true.mp rfl⟩ ⟨'/', rfl, Or.inl rfl⟩ ?_
    ⟨_, rfl⟩ ⟨_, rfl⟩
  rw [List.mem_append, List.mem_append, not_or, not_or]
  exact ⟨⟨by decide, notMem_digits_backslash _⟩, by decide⟩

theorem startsWithHost_listingPlace [NameMapping] : StartsWithHost (listingPlace page).text := by
  refine startsWithHost_text (listingPlace_text page) ⟨by decide, List.all_eq_true.mp rfl⟩
    ⟨'?', rfl, Or.inr rfl⟩ ?_ ⟨_, rfl⟩ ⟨_, rfl⟩
  rw [listingQuery, List.mem_cons, List.mem_append, not_or, not_or]
  exact ⟨by decide, by decide, notMem_digits_backslash _⟩

section
variable [NameMapping] {base : Address} (hbase : Address.parse root = .ok base)
  (hslash : root.toList.getLast? = some '/')
include hbase hslash

theorem exists_parse_projectPage : ∃ form, Address.parse (projectPage root project) = .ok form := by
  rw [projectPage_eq_append]
  exact exists_parse_of_startsWithHost hbase hslash (startsWithHost_formPlace project)

theorem exists_parse_editPage : ∃ edit, Address.parse (editPage root project) = .ok edit := by
  rw [editPage_eq_append]
  exact exists_parse_of_startsWithHost hbase hslash (startsWithHost_editPlace project)

theorem exists_parse_listingPage :
    ∃ listing, Address.parse (listingPage root page) = .ok listing := by
  rw [listingPage_eq_append]
  exact exists_parse_of_startsWithHost hbase hslash (startsWithHost_listingPlace page)

end

end BadgeEntry.Site
