import BadgeEntry.Proofs.Url.Written

/-!
# Places below a root

The pages of a site lie at places below its root, which ends in a slash.  A place is put
behind the text of the root.  If the root has neither a query nor a fragment, the path goes
on behind its last slash, whatever dots, codes and slashes of both kinds stand before that.
If it has one of them, the place becomes a part of it, and the path is the one of the root.
Either way the page is written as the root with the place behind it.

## Main definitions

* `Place` — some segments, and perhaps a query, in which nothing would be coded.
* `Address.extended` — an address with a place below it.
* `Address.IsOpen` — an address of which the path can go on.

## Main results

* `parse_extended` — **what the text of a root with a place behind it is read as.**
* `render_extended` — how it is written.
-/

namespace BadgeEntry.Url

open Text

/-- A place below a root. -/
structure Place where
  /-- The segments. -/
  segments : List (List Char)
  /-- The query. -/
  query : Option (List Char)
  isSegments : IsSegments segments
  uncoded : ∀ c ∈ segmentsText segments ++ renderPart '?' query,
    IsUncoded (isQueryCoded true) c ∧ IsUncoded isFragmentCoded c

/-- A place as it is put behind a root. -/
def Place.text (place : Place) : List Char :=
  segmentsText place.segments ++ renderPart '?' place.query

/-- Query and fragment with a text behind the last of them. -/
def extendTail (text : List Char) : Option (List Char) × Option (List Char) →
    Option (List Char) × Option (List Char)
  | (query, some fragment) => (query, some (fragment ++ text))
  | (query, none) => (query.map (· ++ text), none)

/-- An address with a place below it.  Behind a query or a fragment the place belongs to
that. -/
def Address.extended (u : Address) (place : Place) : Address :=
  if u.query = none ∧ u.fragment = none then
    { u with path := .rooted (u.path.segments.dropLast ++ place.segments), query := place.query }
  else
    let tail := extendTail place.text (u.query, u.fragment)
    { u with query := tail.1, fragment := tail.2 }

namespace Place

variable (place : Place)

theorem isBelowText_text : IsBelowText place.text := by
  intro c hc
  have huncoded := (place.uncoded c hc).1
  exact of_ascii (P := fun c => isQueryCoded true c = false → 0x20 < c.toNat ∧ c ≠ '#')
    (by decide) huncoded.1 huncoded.2

theorem isTail_query : IsTail place.query none := by
  refine ⟨fun text htext c hc => (place.uncoded c ?_).1, fun text htext => by cases htext⟩
  rw [Option.mem_def.mp htext]
  exact List.mem_append_right _ (List.mem_cons_of_mem _ hc)

end Place

/-- What is below an address is on its site. -/
theorem isOnSite_extended (u : Address) (place : Place) : (u.extended place).IsOnSite u := by
  unfold Address.extended
  split
  · exact ⟨rfl, rfl, rfl⟩
  · refine ⟨rfl, rfl, ?_⟩
    cases u.fragment <;> rfl

/-- Behind a query or a fragment a place does not change the path. -/
theorem extended_path_of_not_none {u : Address} (h : ¬(u.query = none ∧ u.fragment = none))
    (place : Place) : (u.extended place).path = u.path := by
  unfold Address.extended
  rw [if_neg h]

/-! ### Behind a query or a fragment -/

theorem isTail_none : IsTail none none :=
  ⟨fun _ h => (by cases h), fun _ h => (by cases h)⟩

section
variable {text : List Char} (hquery : ∀ c ∈ text, IsUncoded (isQueryCoded true) c)
  (hfragment : ∀ c ∈ text, IsUncoded isFragmentCoded c)

include hfragment in
theorem fragment_append (cs : List Char) :
    readTail.fragment ('#' :: (cs ++ text)) = (readTail.fragment ('#' :: cs)).map (· ++ text) := by
  rw [readTail.fragment, readTail.fragment, percentEncode_append, percentEncode_eq_self hfragment]
  rfl

theorem bne_of_notMem {mark : Char} {cs : List Char} (h : mark ∉ cs) :
    ∀ c ∈ cs, (c != mark) = true := by
  intro c hc
  rw [bne_iff_ne]
  rintro rfl
  exact h hc

/-- A query ends before a number sign. -/
theorem readTail_query {front rest : List Char} (hfront : '#' ∉ front)
    (hrest : Stops (· != '#') rest) :
    readTail true ('?' :: (front ++ rest)) =
      (some (percentEncode (isQueryCoded true) front), readTail.fragment rest) := by
  rw [readTail, takeWhile_append_of_stop (bne_of_notMem hfront) hrest,
    dropWhile_append_of_stop (bne_of_notMem hfront) hrest]

include hquery hfragment

/-- What is put behind a query or a fragment belongs to it. -/
theorem readTail_append {mark : Char} (hmark : endsPath mark = true) (cs : List Char) :
    readTail true (mark :: (cs ++ text)) = extendTail text (readTail true (mark :: cs)) := by
  rw [endsPath, Bool.or_eq_true, beq_iff_eq, beq_iff_eq] at hmark
  rcases hmark with rfl | rfl
  · -- a number sign parts the query from a fragment, to which the text then belongs
    by_cases hmem : '#' ∈ cs
    · obtain ⟨front, rest, rfl, hfront⟩ := List.eq_append_cons_of_mem hmem
      have hstops (rest : List Char) : Stops (· != '#') ('#' :: rest) := (stops_cons _).mpr rfl
      rw [List.append_assoc, List.cons_append, readTail_query hfront (hstops _),
        readTail_query hfront (hstops _), fragment_append hfragment]
      rfl
    · have hnone : '#' ∉ text := fun hmem => absurd (hquery _ hmem).2 (by decide)
      have hboth : '#' ∉ cs ++ text := by
        rw [List.mem_append, not_or]
        exact ⟨hmem, hnone⟩
      have hread := readTail_query hboth (stops_nil _)
      have hread' := readTail_query hmem (stops_nil _)
      rw [List.append_nil] at hread hread'
      rw [hread, hread', percentEncode_append, percentEncode_eq_self hquery]
      rfl
  · rw [readTail, readTail, fragment_append hfragment]
    · rfl
    · simp
    · simp

end

/-! ### Behind a slash -/

/-- The text of a root behind its authority ends in a slash, or there is none. -/
def EndsInSlash (cs : List Char) : Prop :=
  cs = [] ∨ ∃ front, cs = front ++ ['/']

/-- A path goes on behind its last slash. -/
theorem placeText_append {cs : List Char} (h : EndsInSlash cs) :
    ∃ done, placeText .web [] cs = done ++ [[]] ∧ ∀ segments, IsSegments segments →
      placeText .web [] (cs ++ segmentsText segments) = done ++ segments := by
  rcases h with rfl | ⟨front, rfl⟩
  · exact ⟨[], rfl, fun segments h => placeText_segmentsText h.1 h.2⟩
  · refine ⟨(pieces true front).foldl (passPiece .web) [], ?_, fun segments h => ?_⟩
    · have hlast : pieces true ([] : List Char) = [[]] := rfl
      unfold placeText
      rw [Kind.isSpecial, pieces_append_slash, hlast]
      exact placePieces_concat_nil .web (by decide) [] _
    · have hpieces : pieces true (segmentsText segments) = segments := by
        rw [pieces_of_notMem (notMem_backslash h.2), segmentsText,
          List.splitOn_intercalate '/' (fun s hs => (h.2 s hs).slash) h.1]
      obtain ⟨s, ss, hsegments⟩ := List.exists_cons_of_ne_nil h.1
      unfold placeText
      rw [Kind.isSpecial, List.append_assoc, List.singleton_append, pieces_append_slash, hpieces,
        hsegments, placePieces_append, ← hsegments, placePieces_of_isSegment h.1 h.2]

/-! ### Whole addresses -/

/-- A text has no mark that ends a path, or a first one. -/
theorem endsPath_cases (cs : List Char) :
    (∀ c ∈ cs, (!endsPath c) = true) ∨ ∃ front mark rest, cs = front ++ mark :: rest ∧
      (∀ c ∈ front, (!endsPath c) = true) ∧ endsPath mark = true := by
  have happend := List.takeWhile_append_dropWhile (p := fun c => !endsPath c) (l := cs)
  have hfront : ∀ c ∈ cs.takeWhile (!endsPath ·), (!endsPath c) = true :=
    fun c hc => List.mem_takeWhile_imp (p := fun c => !endsPath c) hc
  have hstops := List.head?_dropWhile_not (fun c => !endsPath c) cs
  cases hdrop : cs.dropWhile (!endsPath ·) with
  | nil =>
    rw [hdrop, List.append_nil] at happend
    rw [← happend]
    exact Or.inl hfront
  | cons mark rest =>
    rw [hdrop] at happend hstops
    exact Or.inr ⟨_, mark, rest, happend.symm, hfront, by simpa using hstops⟩

theorem readTail_ne_none {mark : Char} (hmark : endsPath mark = true) (rest : List Char) :
    ¬((readTail true (mark :: rest)).1 = none ∧ (readTail true (mark :: rest)).2 = none) := by
  rw [endsPath, Bool.or_eq_true, beq_iff_eq, beq_iff_eq] at hmark
  rcases hmark with rfl | rfl
  · exact fun hnone => absurd hnone.1 (by simp [readTail])
  · exact fun hnone => absurd hnone.2 (by simp [readTail, readTail.fragment])

/-- On the web no segment of a path is left out. -/
theorem readSegments_web (done : List (List Char)) (cs : List Char) :
    readSegments .web done cs = placeText .web done cs := rfl

section
variable {scheme : String} (hweb : kindOf scheme = .web) (authority : Option Authority)
include hweb

/-- What is read from a text without a mark that ends the path. -/
theorem withPath_of_path {cs : List Char} (h : ∀ c ∈ cs, (!endsPath c) = true)
    {query : Option (List Char)} (htail : IsTail query none) :
    withPath scheme authority [] (cs ++ renderPart '?' query) =
      ⟨scheme, authority, .rooted (placeText .web [] cs), query, none⟩ := by
  have hstops : Stops (!endsPath ·) _ := stops_tail rfl rfl query none
  have hread := htail.readTail_render
  rw [renderPart, List.append_nil] at hstops hread
  unfold withPath
  dsimp only
  rw [takeWhile_append_of_stop h hstops, dropWhile_append_of_stop h hstops, hweb, Kind.isSpecial,
    hread, readSegments_web]

/-- What is read from a text with a mark that ends the path. -/
theorem withPath_of_mark {front : List Char} (h : ∀ c ∈ front, (!endsPath c) = true)
    {mark : Char} (hmark : endsPath mark = true) (rest : List Char) :
    withPath scheme authority [] (front ++ mark :: rest) =
      ⟨scheme, authority, .rooted (placeText .web [] front), (readTail true (mark :: rest)).1,
        (readTail true (mark :: rest)).2⟩ := by
  have hstops : Stops (!endsPath ·) (mark :: rest) := (stops_cons _).mpr (by rw [hmark]; rfl)
  unfold withPath
  dsimp only
  rw [takeWhile_append_of_stop h hstops, dropWhile_append_of_stop h hstops, hweb, Kind.isSpecial,
    readSegments_web]

/-- **A place behind the text of a root.** -/
theorem withPath_append {cs : List Char} (h : EndsInSlash cs) (place : Place) :
    withPath scheme authority [] (cs ++ place.text) =
      (withPath scheme authority [] cs).extended place := by
  rcases endsPath_cases cs with hpath | ⟨front, mark, rest, rfl, hfront, hmark⟩
  · -- the segments of the place are the last ones of the path
    obtain ⟨done, hdone, hplaced⟩ := placeText_append h
    have hinside : ∀ c ∈ cs ++ segmentsText place.segments, (!endsPath c) = true := by
      intro c hc
      rcases List.mem_append.mp hc with hc | hc
      · exact hpath c hc
      · rw [(place.isSegments.visible hc).2]
        rfl
    have hnone := withPath_of_path hweb authority hpath isTail_none
    rw [renderPart, List.append_nil] at hnone
    rw [Place.text, ← List.append_assoc, withPath_of_path hweb authority hinside place.isTail_query,
      hnone, hplaced _ place.isSegments, hdone, Address.extended, if_pos ⟨rfl, rfl⟩]
    simp [Path.segments]
  · -- the path ends before the mark, and the place comes behind it
    have htail : readTail true (mark :: (rest ++ place.text)) =
        extendTail place.text (readTail true (mark :: rest)) :=
      readTail_append (fun c hc => (place.uncoded c hc).1) (fun c hc => (place.uncoded c hc).2)
        hmark rest
    rw [List.append_assoc, List.cons_append, withPath_of_mark hweb authority hfront hmark,
      withPath_of_mark hweb authority hfront hmark, Address.extended,
      if_neg (readTail_ne_none hmark rest)]
    dsimp only
    rw [htail]

/-- The path of a root without query and fragment ends in an empty segment. -/
theorem exists_path_concat {cs : List Char} (h : EndsInSlash cs)
    (hquery : (withPath scheme authority [] cs).query = none)
    (hfragment : (withPath scheme authority [] cs).fragment = none) :
    ∃ done, (withPath scheme authority [] cs).path = .rooted (done ++ [[]]) := by
  rcases endsPath_cases cs with hpath | ⟨front, mark, rest, rfl, hfront, hmark⟩
  · obtain ⟨done, hdone, -⟩ := placeText_append h
    have hnone := withPath_of_path hweb authority hpath isTail_none
    rw [renderPart, List.append_nil] at hnone
    exact ⟨done, by rw [hnone, hdone]⟩
  · rw [withPath_of_mark hweb authority hfront hmark] at hquery hfragment
    exact absurd ⟨hquery, hfragment⟩ (readTail_ne_none hmark rest)

end

theorem exists_dropSlash (tail : List Char) : ∃ front, EndsInSlash front ∧
    ∀ below, fileAfterSlashes.dropSlash (tail ++ '/' :: below) = front ++ below := by
  cases tail with
  | nil => exact ⟨[], Or.inl rfl, fun below => rfl⟩
  | cons c tail =>
    by_cases hslash : isAnySlash c = true
    · refine ⟨tail ++ ['/'], Or.inr ⟨tail, rfl⟩, fun below => ?_⟩
      rw [List.cons_append, fileAfterSlashes.dropSlash, if_pos hslash, List.append_assoc,
        List.singleton_append]
    · refine ⟨c :: tail ++ ['/'], Or.inr ⟨c :: tail, rfl⟩, fun below => ?_⟩
      rw [List.cons_append, fileAfterSlashes.dropSlash, if_neg hslash, List.append_assoc,
        List.singleton_append]
      rfl

/-- Whether the path of an address ends in an empty segment, if nothing follows it. -/
def Address.IsOpen (u : Address) : Prop :=
  u.query = none → u.fragment = none → ∃ done, u.path = .rooted (done ++ [[]])

/-- A path goes on behind its last slash. -/
theorem render_rooted_append (done : List (List Char)) {segments : List (List Char)}
    (hne : segments ≠ []) : (Path.rooted (done ++ segments)).render =
      (Path.rooted (done ++ [[]])).render ++ segmentsText segments := by
  have hsegments := render_rooted hne
  unfold Path.render at hsegments ⊢
  dsimp only at hsegments ⊢
  rw [List.flatMap_append, List.flatMap_append, hsegments, List.append_assoc]
  rfl

section
variable {u : Address} (hopen : u.IsOpen) (hquery : u.query = none) (hfragment : u.fragment = none)
include hopen hquery hfragment

/-- Without a query and a fragment the path goes on. -/
theorem extended_path_render (place : Place) :
    (u.extended place).path.render = u.path.render ++ segmentsText place.segments := by
  obtain ⟨done, hpath⟩ := hopen hquery hfragment
  unfold Address.extended
  rw [if_pos ⟨hquery, hfragment⟩, hpath]
  dsimp only
  rw [Path.segments, List.dropLast_concat, render_rooted_append done place.isSegments.1]

omit hopen in
theorem extended_query (place : Place) : (u.extended place).query = place.query := by
  unfold Address.extended
  rw [if_pos ⟨hquery, hfragment⟩]

omit hopen in
theorem extended_fragment (place : Place) : (u.extended place).fragment = none := by
  unfold Address.extended
  rw [if_pos ⟨hquery, hfragment⟩]
  exact hfragment

end

/-- **How an address with a place below it is written.** -/
theorem render_extended {u : Address} {a : Authority} (ha : u.authority = some a)
    (hopen : u.IsOpen) (place : Place) : (u.extended place).render = u.render ++ place.text := by
  have hsite := isOnSite_extended u place
  by_cases hnone : u.query = none ∧ u.fragment = none
  · obtain ⟨hquery, hfragment⟩ := hnone
    unfold Address.render Address.renderAuthority Place.text
    rw [hsite.scheme, hsite.authority, ha, extended_path_render hopen hquery hfragment,
      extended_query hquery hfragment, extended_fragment hquery hfragment, hquery, hfragment]
    simp only [renderPart, List.append_nil, List.append_assoc]
  · unfold Address.extended
    rw [if_neg hnone]
    unfold Address.render Address.renderAuthority
    rw [ha]
    cases hfragment : u.fragment with
    | some fragment => simp [extendTail, renderPart]
    | none =>
      cases hquery : u.query with
      | some query => simp [extendTail, renderPart]
      | none => exact absurd ⟨hquery, hfragment⟩ hnone

section
variable [NameMapping] {root : String} {base : Address} (hbase : Address.parse root = .ok base)
  (hweb : base.kind = .web) (hslash : root.toList.getLast? = some '/')
include hbase hweb hslash

/-- The text behind the authority of a root, from which everything below is read. -/
theorem exists_withPath : ∃ scheme authority cs, kindOf scheme = .web ∧ EndsInSlash cs ∧
    base = withPath scheme (some authority) [] cs ∧ ∀ below, IsBelowText below →
      Address.parse (root ++ String.ofList below) =
        .ok (withPath scheme (some authority) [] (cs ++ below)) := by
  obtain ⟨front, hfront⟩ := List.getLast?_eq_some_iff.mp hslash
  obtain rfl : root = String.ofList (front ++ ['/']) := by
    rw [← hfront, String.ofList_toList]
  obtain ⟨authority, tail, hread⟩ := parse_web_below hbase hweb
  obtain ⟨cs, hcs, hdrop⟩ := exists_dropSlash tail
  have hroot := hread [] isBelowText_nil
  -- the root is the text with nothing below it
  rw [hbase, Except.ok.injEq, hdrop, List.append_nil] at hroot
  refine ⟨base.scheme, authority, cs, hweb, hcs, hroot, fun below hbelow => ?_⟩
  rw [← String.ofList_append, List.append_assoc, List.singleton_append, hread below hbelow, hdrop]

theorem isOpen_of_parse : base.IsOpen := by
  obtain ⟨scheme, authority, cs, hkind, hcs, rfl, -⟩ := exists_withPath hbase hweb hslash
  exact exists_path_concat hkind _ hcs

/-- **What the text of a root with a place behind it is read as.** -/
theorem parse_extended (place : Place) :
    Address.parse (root ++ String.ofList place.text) = .ok (base.extended place) := by
  obtain ⟨scheme, authority, cs, hkind, hcs, rfl, hread⟩ := exists_withPath hbase hweb hslash
  rw [hread _ place.isBelowText_text, withPath_append hkind _ hcs]

end

end BadgeEntry.Url
