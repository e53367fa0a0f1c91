import BadgeEntry.Proofs.Url.Authority
import BadgeEntry.Proofs.Url.Segments

/-!
# Addresses are read back

What is read from a text of the web is an address of which no part is changed when it is
read again: the scheme is in small letters, the parts of the authority and the segments of
the path are read back, and query and fragment are in codes.  So an address is the same
when it is read from the way it is written, alone or inside any other address.  Inside
itself it is also read from its path, query and fragment alone, unless its path would be
taken for an authority.

## Main definitions

* `Address.IsWritten` — an address of the web that is read back.
* `Address.reference` — path, query and fragment as they are written.

## Main results

* `isWritten_of_parse` — what was read from a text is an address that is read back.
* `readAddress_text` — **an address is read back**, inside any other one.
* `resolve_reference` — **an address is read back from its own reference.**
-/

namespace BadgeEntry.Url

open Text

/-! ### Query and fragment -/

theorem keepsCodes_isQueryCoded : KeepsCodes (isQueryCoded true) where
  percent := by decide
  digit := by decide

theorem keepsCodes_isFragmentCoded : KeepsCodes isFragmentCoded where
  percent := by decide
  digit := by decide

theorem stops_renderPart {p : Char → Bool} {mark : Char} (hmark : p mark = false)
    (part : Option (List Char)) : Stops p (renderPart mark part) := by
  cases part with
  | none => exact stops_nil _
  | some text => exact (stops_cons _).mpr hmark

/-- What stands before a query or a fragment ends there. -/
theorem stops_tail {p : Char → Bool} (hquery : p '?' = false) (hfragment : p '#' = false)
    (query fragment : Option (List Char)) :
    Stops p (renderPart '?' query ++ renderPart '#' fragment) :=
  (stops_renderPart hquery query).append (stops_renderPart hfragment fragment)

/-- A mark and characters that stand for themselves are visible, if all such characters are. -/
theorem visible_of_mem_renderPart {coded : Char → Bool} {mark : Char} (hmark : 0x20 < mark.toNat)
    (hall : ∀ n : Fin 128, coded (Char.ofNat n) = false → 0x20 < (Char.ofNat n).toNat)
    {part : Option (List Char)} (hpart : ∀ text ∈ part, ∀ c ∈ text, IsUncoded coded c) {c : Char}
    (hc : c ∈ renderPart mark part) : 0x20 < c.toNat := by
  cases part with
  | none => exact absurd hc List.not_mem_nil
  | some text =>
    rcases List.mem_cons.mp hc with rfl | hc
    · exact hmark
    · have huncoded := hpart text rfl c hc
      exact of_ascii (P := fun c => coded c = false → 0x20 < c.toNat) hall huncoded.1 huncoded.2

/-- A query and a fragment in which nothing would be coded. -/
structure IsTail (query fragment : Option (List Char)) : Prop where
  query : ∀ text ∈ query, ∀ c ∈ text, IsUncoded (isQueryCoded true) c
  fragment : ∀ text ∈ fragment, ∀ c ∈ text, IsUncoded isFragmentCoded c

theorem isUncoded_of_mem_fragment {cs text : List Char}
    (h : text ∈ readTail.fragment cs) : ∀ c ∈ text, IsUncoded isFragmentCoded c := by
  unfold readTail.fragment at h
  split at h
  · cases h
    exact isUncoded_of_mem_percentEncode keepsCodes_isFragmentCoded
  · cases h

/-- What is read as query and fragment is in codes. -/
theorem isTail_readTail (cs : List Char) : IsTail (readTail true cs).1 (readTail true cs).2 := by
  unfold readTail
  split
  · refine ⟨fun text htext => ?_, fun text htext => isUncoded_of_mem_fragment htext⟩
    cases htext
    exact isUncoded_of_mem_percentEncode keepsCodes_isQueryCoded
  · refine ⟨fun text htext => ?_, fun text htext => isUncoded_of_mem_fragment htext⟩
    cases htext

section
variable {query fragment : Option (List Char)} (h : IsTail query fragment)
include h

theorem IsTail.readTail_fragment : readTail.fragment (renderPart '#' fragment) = fragment := by
  cases hfragment : fragment with
  | none => rfl
  | some text =>
    rw [renderPart, readTail.fragment, percentEncode_eq_self (h.fragment text hfragment)]

/-- **Query and fragment are read back.** -/
theorem IsTail.readTail_render :
    readTail true (renderPart '?' query ++ renderPart '#' fragment) = (query, fragment) := by
  have hfragment := h.readTail_fragment
  cases hquery : query with
  | none =>
    rw [renderPart, List.nil_append]
    unfold readTail
    split
    · next rest heq => cases fragment <;> simp [renderPart] at heq
    · rw [hfragment]
  | some text =>
    have huncoded := h.query text hquery
    have hinside : ∀ c ∈ text, (c != '#') = true := by
      intro c hc
      rw [bne_iff_ne]
      rintro rfl
      exact absurd (huncoded _ hc).2 (by decide)
    have hmark : Stops (· != '#') (renderPart '#' fragment) := stops_renderPart rfl fragment
    rw [renderPart, List.cons_append, readTail, takeWhile_append_of_stop hinside hmark,
      dropWhile_append_of_stop hinside hmark, percentEncode_eq_self huncoded, hfragment]

theorem IsTail.visible {c : Char} (hc : c ∈ renderPart '?' query ++ renderPart '#' fragment) :
    0x20 < c.toNat := by
  rcases List.mem_append.mp hc with hc | hc
  · exact visible_of_mem_renderPart (by decide) (by decide) h.query hc
  · exact visible_of_mem_renderPart (by decide) (by decide) h.fragment hc

end

/-! ### Paths with what follows them -/

theorem IsSegment.visible {s : List Char} (h : IsSegment s) {c : Char} (hc : c ∈ s) :
    0x20 < c.toNat ∧ endsPath c = false :=
  of_ascii (P := fun c => isPathCoded c = false → 0x20 < c.toNat ∧ endsPath c = false) (by decide)
    (h.uncoded c hc).1 (h.uncoded c hc).2

/-- A path of segments that are placed as they stand. -/
def IsSegments (segments : List (List Char)) : Prop :=
  segments ≠ [] ∧ ∀ s ∈ segments, IsSegment s

theorem IsSegments.visible {segments : List (List Char)} (h : IsSegments segments) {c : Char}
    (hc : c ∈ segmentsText segments) : 0x20 < c.toNat ∧ endsPath c = false := by
  rcases mem_segmentsText hc with rfl | ⟨s, hs, hc⟩
  · decide
  · exact (h.2 s hs).visible hc

/-- **A path, a query and a fragment are read back.** -/
theorem withPath_segmentsText {scheme : String} (hweb : kindOf scheme = .web)
    (authority : Option Authority) {segments : List (List Char)} (hpath : IsSegments segments)
    {query fragment : Option (List Char)} (htail : IsTail query fragment) :
    withPath scheme authority []
        (segmentsText segments ++ (renderPart '?' query ++ renderPart '#' fragment)) =
      ⟨scheme, authority, .rooted segments, query, fragment⟩ := by
  have hinside : ∀ c ∈ segmentsText segments, (!endsPath c) = true := by
    intro c hc
    rw [(hpath.visible hc).2]
    rfl
  have hstops : Stops (!endsPath ·) _ := stops_tail rfl rfl query fragment
  have hplaced : readSegments .web [] (segmentsText segments) = segments :=
    placeText_segmentsText hpath.1 hpath.2
  unfold withPath
  dsimp only
  rw [takeWhile_append_of_stop hinside hstops, dropWhile_append_of_stop hinside hstops, hweb,
    hplaced, Kind.isSpecial, htail.readTail_render]

/-- What is read as a path is placed as it stands. -/
theorem isSegments_readSegments {cs : List Char} (htab : '\t' ∉ cs) :
    IsSegments (readSegments .web [] cs) := by
  refine ⟨placePieces_ne_nil (List.splitOn_ne_nil _ _) _, ?_⟩
  refine isSegment_of_mem_placePieces (List.forall_mem_nil _) fun piece hpiece => ?_
  exact isPiece_of_mem_pieces htab hpiece

/-! ### Addresses -/

/-- An address of the web that is read back. -/
structure Address.IsWritten [NameMapping] (u : Address) : Prop where
  web : u.kind = .web
  authority : ∃ a, u.authority = some a ∧ a.IsWritten u.scheme
  path : ∃ segments, u.path = .rooted segments ∧ IsSegments segments
  tail : IsTail u.query u.fragment

theorem notMem_tab_joined (cs : List Char) : '\t' ∉ joined cs := by
  intro h
  have hkept := (List.mem_filter.mp h).2
  exact absurd hkept (by decide)

theorem isWritten_withPath [NameMapping] {scheme : String} (hweb : kindOf scheme = .web)
    {a : Authority} (ha : a.IsWritten scheme) {cs : List Char} (htab : '\t' ∉ cs) :
    (withPath scheme (some a) [] cs).IsWritten where
  web := hweb
  authority := ⟨a, rfl, ha⟩
  path := by
    refine ⟨_, rfl, ?_⟩
    rw [hweb]
    exact isSegments_readSegments fun hmem => htab ((List.takeWhile_sublist _).subset hmem)
  tail := by
    unfold withPath
    dsimp only
    rw [hweb]
    exact isTail_readTail _

theorem dropSlash_sublist (cs : List Char) : (fileAfterSlashes.dropSlash cs).Sublist cs := by
  cases cs with
  | nil => exact List.Sublist.refl _
  | cons c cs =>
    rw [fileAfterSlashes.dropSlash]
    split
    · exact List.sublist_cons_self c cs
    · exact List.Sublist.refl _

/-- What was read from a text is an address that is read back. -/
theorem isWritten_of_parse [NameMapping] {text : String} {u : Address}
    (h : Address.parse text = .ok u) (hweb : u.kind = .web) : u.IsWritten := by
  obtain ⟨cs, -, hread⟩ := parse_eq_ok h
  have hkind : kindOf u.scheme = .web := hweb
  have hspecial : (kindOf u.scheme).isSpecial = true := by
    rw [hkind]
    rfl
  rw [resolveWithScheme_of_web hkind, afterSlashes_eq_ok_iff] at hread
  obtain ⟨a, rest, hread, hu⟩ := hread
  obtain ⟨-, tail, hregion, rfl⟩ := readAuthority_eq_ok_iff.mp hread
  have hbackslash : '\\' ∉ ((joined cs).dropWhile isAnySlash).takeWhile (inAuthority u.scheme) := by
    intro hmem
    have hinside := List.mem_takeWhile_imp hmem
    rw [inAuthority, hspecial] at hinside
    exact absurd hinside (by decide)
  obtain ⟨ha, rfl⟩ := isWritten_of_readRegion hkind hbackslash hregion
  rw [afterAuthority_of_isSpecial hspecial] at hu
  have htab := notMem_tab_joined cs
  rw [hu]
  refine isWritten_withPath hkind ha fun hmem => htab ?_
  have hpath := (dropSlash_sublist _).subset hmem
  exact ((List.dropWhile_sublist _).trans (List.dropWhile_sublist _)).subset hpath

/-! ### Reading the text of an address -/

/-- A scheme of the web is one of five. -/
theorem mem_webSchemes {scheme : String} (h : kindOf scheme = .web) :
    scheme ∈ webPorts.map Prod.fst := by
  unfold kindOf at h
  split at h
  · next hsome =>
    obtain ⟨port, hport⟩ := Option.isSome_iff_exists.mp hsome
    obtain ⟨front, rest, hports, -⟩ := List.lookup_eq_some_iff.mp hport
    rw [hports, List.map_append]
    exact List.mem_append_right _ List.mem_cons_self
  · split at h <;> cases h

/-- A scheme of the web is read back. -/
theorem splitScheme_of_web {scheme : String} (h : kindOf scheme = .web) (rest : List Char) :
    splitScheme (scheme.toList ++ ':' :: rest) = some (scheme, rest) := by
  have hall : ∀ s ∈ webPorts.map Prod.fst, s.toList.head?.any Char.isAlpha = true ∧
      s.toList.all inScheme = true ∧
        String.ofList ((joined s.toList).map Char.toLower) = s := by decide
  obtain ⟨hhead, hinside, hlower⟩ := hall scheme (mem_webSchemes h)
  rw [List.all_eq_true] at hinside
  have hcolon : Stops inScheme (':' :: rest) := (stops_cons _).mpr (by decide)
  rw [splitScheme_eq_some_iff, takeWhile_append_of_stop hinside hcolon,
    dropWhile_append_of_stop hinside hcolon]
  refine ⟨?_, rfl, hlower⟩
  cases hscheme : scheme.toList with
  | nil => simp [hscheme] at hhead
  | cons c cs => simpa [hscheme] using hhead

/-- The path, the query and the fragment as they are written. -/
def Address.reference (u : Address) : List Char :=
  u.path.render ++ (renderPart '?' u.query ++ renderPart '#' u.fragment)

theorem trimmed_of_visible {cs : List Char} (h : ∀ c ∈ cs, 0x20 < c.toNat) : trimmed cs = cs := by
  have hkeep : ∀ c ∈ cs, (decide (c.toNat ≤ 0x20)) = false := by
    intro c hc
    rw [decide_eq_false_iff_not]
    exact Nat.not_le.mpr (h c hc)
  have hdrop : cs.dropWhile (·.toNat ≤ 0x20) = cs := by
    cases cs with
    | nil => rfl
    | cons c cs => exact List.dropWhile_cons_of_neg (by simp [hkeep c List.mem_cons_self])
  unfold trimmed
  rw [hdrop]
  exact dropEnd_eq_self _ hkeep

/-- Between the scheme and the reference there are two slashes and the authority. -/
theorem render_eq_append {u : Address} {a : Authority} (ha : u.authority = some a) :
    u.render = u.scheme.toList ++ ':' :: '/' :: '/' :: (a.render ++ u.reference) := by
  unfold Address.render Address.renderAuthority Address.reference
  rw [ha]
  simp only [List.append_assoc, List.cons_append]

theorem visible_of_isHostChar {c : Char} (h : isHostChar c = true) : 0x20 < c.toNat := by
  unfold isHostChar at h
  simp only [Bool.and_eq_true, decide_eq_true_eq] at h
  exact h.1.1

/-- A reference with one slash at its front is a path. -/
theorem resolveRelative_slash [NameMapping] (base : Address) {rest : List Char}
    (h : Stops isAnySlash rest) :
    resolveRelative base ('/' :: rest) = .ok (withPath base.scheme base.authority [] rest) := by
  cases rest with
  | nil => rfl
  | cons c rest =>
    have hc : isAnySlash c = false := (stops_cons _).mp h
    have hslash : c ≠ '/' := by
      rintro rfl
      exact absurd hc (by decide)
    simp [resolveRelative, hc, hslash, show isAnySlash '/' = true by decide]

section
variable [NameMapping] {u : Address} (h : u.IsWritten)
include h

theorem Address.IsWritten.visible_reference {c : Char} (hc : c ∈ u.reference) :
    0x20 < c.toNat := by
  obtain ⟨segments, hpath, hsegments⟩ := h.path
  rw [Address.reference, hpath, render_rooted hsegments.1, List.cons_append] at hc
  rcases List.mem_cons.mp hc with rfl | hc
  · decide
  · rcases List.mem_append.mp hc with hc | hc
    · exact (hsegments.visible hc).1
    · exact h.tail.visible hc

theorem Address.IsWritten.visible {c : Char} (hc : c ∈ u.render) : 0x20 < c.toNat := by
  obtain ⟨a, ha, hauthority⟩ := h.authority
  have hscheme : ∀ s ∈ webPorts.map Prod.fst, s.toList.all (fun c => 0x20 < c.toNat) = true := by
    decide
  rw [render_eq_append ha] at hc
  simp only [List.mem_append, List.mem_cons] at hc
  rcases hc with hc | rfl | rfl | rfl | hc | hc
  · exact of_decide_eq_true (List.all_eq_true.mp (hscheme _ (mem_webSchemes h.web)) c hc)
  · decide
  · decide
  · decide
  · rcases mem_render hauthority hc with hc | rfl
    · exact visible_of_isHostChar hc
    · decide
  · exact h.visible_reference hc

/-- What stands behind the slashes of a scheme is read back. -/
theorem Address.IsWritten.afterSlashes_eq {a : Authority} (ha : u.authority = some a) :
    afterSlashes u.scheme (a.render ++ u.reference) = .ok u := by
  obtain ⟨a', ha', hauthority⟩ := h.authority
  obtain rfl : a = a' := Option.some.inj (ha.symm.trans ha')
  obtain ⟨segments, hpath, hsegments⟩ := h.path
  have hkind : kindOf u.scheme = .web := h.web
  have hspecial : (kindOf u.scheme).isSpecial = true := by
    rw [hkind]
    rfl
  have hreference : u.reference = '/' ::
      (segmentsText segments ++ (renderPart '?' u.query ++ renderPart '#' u.fragment)) := by
    rw [Address.reference, hpath, render_rooted hsegments.1, List.cons_append]
  rw [hreference, afterSlashes_eq_ok_iff]
  refine ⟨a, _, readAuthority_render hkind hauthority _, ?_⟩
  rw [afterAuthority_of_isSpecial hspecial]
  have hdrop (cs : List Char) : fileAfterSlashes.dropSlash ('/' :: cs) = cs := rfl
  rw [hdrop, withPath_segmentsText hkind _ hsegments h.tail, ← ha, ← hpath]

/-- **An address is read back** from the way it is written, inside any other one. -/
theorem Address.IsWritten.readAddress_text (base : Option Address) :
    readAddress base u.text = .ok u := by
  obtain ⟨a, ha, hauthority⟩ := h.authority
  have hkind : kindOf u.scheme = .web := h.web
  have hsplit : splitScheme (trimmed u.text.toList) =
      some (u.scheme, '/' :: '/' :: (a.render ++ u.reference)) := by
    rw [Address.text, String.toList_ofList, trimmed_of_visible fun c hc => h.visible hc,
      render_eq_append ha, splitScheme_of_web hkind]
  have hvisible : ∀ c ∈ '/' :: '/' :: (a.render ++ u.reference), 0x20 < c.toNat := by
    intro c hc
    refine h.visible ?_
    rw [render_eq_append ha]
    exact List.mem_append_right _ (List.mem_cons_of_mem _ hc)
  -- the authority does not begin with a slash, so just two slashes stand before it
  have hstops : Stops isAnySlash (a.render ++ u.reference) := by
    obtain ⟨c, cs, hrender, hc⟩ := exists_render_eq_cons hauthority
    rw [hrender]
    refine (stops_cons _).mpr ?_
    by_contra hslash
    rw [Bool.not_eq_false, isAnySlash, Bool.or_eq_true, beq_iff_eq, beq_iff_eq] at hslash
    rcases hslash with rfl | rfl <;> exact absurd hc (by decide)
  have hslashes : ∀ c ∈ ['/', '/'], isAnySlash c = true := List.all_eq_true.mp rfl
  have htake := takeWhile_append_of_stop hslashes hstops
  have hdrop := dropWhile_append_of_stop hslashes hstops
  rw [List.cons_append, List.singleton_append] at htake hdrop
  unfold readAddress
  dsimp only
  rw [hsplit]
  dsimp only
  unfold resolveWithScheme
  rw [hkind]
  dsimp only
  rw [joined_of_visible hvisible, htake, hdrop, h.afterSlashes_eq ha]
  cases base.filter fun b => b.scheme = u.scheme with
  | none => rfl
  | some b => exact if_neg (by decide)

/-- Behind the first slash of a path there is no second one, unless the path begins with
two of them. -/
theorem Address.IsWritten.exists_reference_eq (hslashes : ¬['/', '/'] <+: u.path.render) :
    ∃ rest, u.reference = '/' :: rest ∧ Stops isAnySlash rest ∧
      withPath u.scheme u.authority [] rest = u := by
  obtain ⟨segments, hpath, hsegments⟩ := h.path
  have hrender := render_rooted hsegments.1
  refine ⟨segmentsText segments ++ (renderPart '?' u.query ++ renderPart '#' u.fragment),
    ?_, ?_, ?_⟩
  · rw [Address.reference, hpath, hrender, List.cons_append]
  · refine Stops.append ?_ ?_
    · intro c hc
      obtain ⟨cs, htext⟩ := List.head?_eq_some_iff.mp hc
      by_contra hslash
      rw [Bool.not_eq_false, isAnySlash, Bool.or_eq_true, beq_iff_eq, beq_iff_eq] at hslash
      rcases hslash with rfl | rfl
      · rw [hpath, hrender, htext] at hslashes
        exact hslashes ⟨cs, rfl⟩
      · refine notMem_backslash hsegments.2 ?_
        rw [htext]
        exact List.mem_cons_self
    · exact stops_tail rfl rfl u.query u.fragment
  · rw [withPath_segmentsText h.web _ hsegments h.tail, ← hpath]

/-- **An address is read back from its own reference**, unless its path begins with two
slashes. -/
theorem Address.IsWritten.resolve_reference (hslashes : ¬['/', '/'] <+: u.path.render) :
    u.resolve (String.ofList u.reference) = .ok u := by
  obtain ⟨rest, hreference, hstops, hread⟩ := h.exists_reference_eq hslashes
  obtain ⟨segments, hpath, -⟩ := h.path
  have hvisible : ∀ c ∈ u.reference, 0x20 < c.toNat := fun c hc => h.visible_reference hc
  have hsplit : splitScheme u.reference = none := by
    rw [hreference]
    rfl
  unfold Address.resolve readAddress
  dsimp only
  rw [String.toList_ofList, trimmed_of_visible hvisible, hsplit]
  dsimp only
  unfold resolveWithoutScheme
  dsimp only
  rw [joined_of_visible hvisible, hpath, h.web, hreference, if_neg (by simp)]
  dsimp only
  rw [resolveRelative_slash u hstops, hread]

end

end BadgeEntry.Url
