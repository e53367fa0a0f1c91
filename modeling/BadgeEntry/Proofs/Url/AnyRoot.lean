import BadgeEntry.Proofs.Url.Places

/-!
# Addresses below a root of any kind

A root need not be an address of the web: a file and an address with any other scheme are
read as well.  There the slash at the end of the root may belong to the slashes after the
scheme, and then a host is read from the front of the place.  So a place below such a root
has an address if its front is a host, and is no slash.

## Main definitions

* `StartsWithHost` — the texts of which the front is a host.

## Main results

* `exists_parse_of_startsWithHost` — **a page below a root of any kind has an address.**
-/

namespace BadgeEntry.Url

open Text

/-! ### Places that begin with a host -/

/-- A text that begins with a host of either kind, which ends where a path or a query
begins; it can be put below a root, and holds no backslash. -/
structure StartsWithHost [NameMapping] (cs : List Char) : Prop where
  isBelowText : IsBelowText cs
  backslash : '\\' ∉ cs
  front : ∃ name rest, cs = name ++ rest ∧ name ≠ [] ∧ (∀ c ∈ name, isNameChar c = true) ∧
    (∃ c ∈ rest.head?, c = '/' ∨ c = '?') ∧ (∃ host, readWebHost name = .ok host) ∧
      ∃ host, readPlainHost name = .ok host

section
variable [NameMapping] {below : List Char} (h : StartsWithHost below)
include h

/-- There is no slash at the front. -/
theorem StartsWithHost.stops : Stops isAnySlash below := by
  obtain ⟨name, rest, rfl, hne, hchars, -⟩ := h.front
  obtain ⟨c, cs, rfl⟩ := List.exists_cons_of_ne_nil hne
  refine (stops_cons _).mpr ?_
  have hc := hchars c List.mem_cons_self
  by_contra hslash
  rw [Bool.not_eq_false, isAnySlash, Bool.or_eq_true, beq_iff_eq, beq_iff_eq] at hslash
  rcases hslash with rfl | rfl <;> exact absurd hc (by decide)

end

/-! ### Other schemes -/

theorem inAuthority_of_isNameChar (scheme : String) {c : Char} (h : isNameChar c = true) :
    inAuthority scheme c = true := by
  have hchar := isHostChar_of_isNameChar h
  unfold isHostChar at hchar
  simp_all [inAuthority, endsAuthority]

section

variable [NameMapping]

theorem readHostAndPort_of_other {scheme : String} (hother : kindOf scheme = .other)
    {name : List Char} (hchars : ∀ c ∈ name, isNameChar c = true) {host : Host}
    (hhost : readPlainHost name = .ok host) :
    readHostAndPort scheme name = .ok ((host, none), []) := by
  have htake : takeHost false name = (name, []) := by
    have htake : takeHost false (name ++ []) = (name, []) := takeHost_of_isNameChar hchars rfl
    rwa [List.append_nil] at htake
  simp [readHostAndPort, hother, Kind.isSpecial, htake, hhost, bind, Except.bind, pure,
    Except.pure]

/-- A host at the front of a text is an authority. -/
theorem exists_afterSlashes_of_other {scheme : String} (hother : kindOf scheme = .other)
    {below : List Char} (h : StartsWithHost below) :
    ∃ u, afterSlashes scheme below = .ok u := by
  obtain ⟨name, rest, rfl, hne, hchars, hmark, -, host, hhost⟩ := h.front
  have hinside : ∀ c ∈ name, inAuthority scheme c = true :=
    fun c hc => inAuthority_of_isNameChar scheme (hchars c hc)
  have hstops : Stops (inAuthority scheme) rest := by
    obtain ⟨c, hc, hslash⟩ := hmark
    intro d hd
    obtain rfl : c = d := Option.some.inj (hc.symm.trans hd)
    rcases hslash with rfl | rfl <;> rfl
  have hsign : '@' ∉ name := fun hmem => absurd (hchars _ hmem) (by decide)
  have hsplit : (splitLastAt name).getD ([], name) = ([], name) := by
    rw [splitLastAt_of_notMem hsign]
    rfl
  have hregion : readRegion scheme name = .ok (⟨[], host, none⟩, []) := by
    refine (readRegion_eq_ok_iff hsplit).mpr ⟨rfl, ?_, fun hlost => hlost.2 rfl⟩
    exact readHostAndPort_of_other hother hchars hhost
  have hauthority : readAuthority scheme (name ++ rest) = .ok (⟨[], host, none⟩, rest) := by
    rw [readAuthority_eq_ok_iff, takeWhile_append_of_stop hinside hstops,
      dropWhile_append_of_stop hinside hstops]
    refine ⟨fun hlone => hsign ?_, [], hregion, rfl⟩
    rw [hlone.1]
    exact List.mem_cons_self
  exact ⟨_, afterSlashes_eq_ok_iff.mpr ⟨_, _, hauthority, rfl⟩⟩

/-- An address of another scheme fails only at its authority. -/
theorem exists_resolveWithScheme_iff_of_other {scheme : String} (hother : kindOf scheme = .other)
    (cs : List Char) : (∃ u, resolveWithScheme none scheme cs = .ok u) ↔
      ∀ rest, joined cs = '/' :: '/' :: rest → ∃ u, afterSlashes scheme rest = .ok u := by
  unfold resolveWithScheme
  rw [hother]
  dsimp only
  split
  · next rest hcs =>
    rw [hcs]
    constructor
    · rintro hok rest' heq
      obtain rfl := (List.cons.inj (List.cons.inj heq).2).2
      exact hok
    · exact fun h => h rest rfl
  · next rest hslash hcs =>
    refine iff_of_true ⟨_, rfl⟩ fun rest' heq => ?_
    rw [hcs] at heq
    exact absurd (List.cons.inj heq).2 (hslash rest')
  · next hnone _ =>
    exact iff_of_true ⟨_, rfl⟩ fun rest' heq => absurd heq (hnone _)

/-- What is put below a root of another scheme is read if the root is. -/
theorem exists_resolveWithScheme_of_other {scheme : String} (hother : kindOf scheme = .other)
    {front below : List Char} (hroot : ∃ u, resolveWithScheme none scheme (front ++ ['/']) = .ok u)
    (h : StartsWithHost below) :
    ∃ u, resolveWithScheme none scheme (front ++ '/' :: below) = .ok u := by
  rw [exists_resolveWithScheme_iff_of_other hother, joined_append_slash _ isBelowText_nil] at hroot
  rw [exists_resolveWithScheme_iff_of_other hother, joined_append_slash _ h.isBelowText]
  intro rest heq
  match hfront : joined front with
  | [] =>
    rw [hfront] at heq
    have hslash := h.stops '/' (by rw [(List.cons.inj heq).2]; rfl)
    exact absurd hslash (by decide)
  | [c] =>
    -- the last slash of the root is the second one after the scheme
    rw [hfront] at heq
    obtain rfl := (List.cons.inj (List.cons.inj heq).2).2
    exact exists_afterSlashes_of_other hother h
  | c :: d :: front =>
    rw [hfront] at heq hroot
    obtain ⟨rfl, hrest⟩ := List.cons.inj heq
    obtain ⟨rfl, rfl⟩ := List.cons.inj hrest
    obtain ⟨u, hu⟩ := hroot _ rfl
    obtain ⟨authority, rest, hread, -⟩ := afterSlashes_eq_ok_iff.mp hu
    obtain ⟨tail, -, hbelow⟩ := readAuthority_below hread
    exact ⟨_, afterSlashes_eq_ok_iff.mpr ⟨_, _, hbelow below, rfl⟩⟩

/-! ### Files -/

/-- Whether `c` stands inside the host of a file. -/
def inFileHost (c : Char) : Bool :=
  !(isAnySlash c || c == '?' || c == '#')

/-- A file fails only at its host. -/
theorem exists_fileAfterSlashes_iff (cs : List Char) :
    (∃ u, fileAfterSlashes cs = .ok u) ↔ isDrive (cs.takeWhile inFileHost) = true ∨
      cs.takeWhile inFileHost = [] ∨ ∃ host, readWebHost (cs.takeWhile inFileHost) = .ok host := by
  have htake : cs.takeWhile (fun c => !(isAnySlash c || c == '?' || c == '#')) =
      cs.takeWhile inFileHost := rfl
  unfold fileAfterSlashes
  dsimp only
  rw [htake]
  by_cases hdrive : isDrive (cs.takeWhile inFileHost) = true
  · rw [if_pos hdrive]
    exact iff_of_true ⟨_, rfl⟩ (Or.inl hdrive)
  · rw [if_neg hdrive]
    by_cases hempty : cs.takeWhile inFileHost = []
    · rw [if_pos (List.isEmpty_iff.mpr hempty)]
      exact iff_of_true ⟨_, rfl⟩ (Or.inr (Or.inl hempty))
    · rw [if_neg (by rwa [List.isEmpty_iff])]
      cases hhost : readWebHost (cs.takeWhile inFileHost) with
      | error fault => simp [hdrive, hempty, bind, Except.bind]
      | ok host =>
        refine iff_of_true ?_ (Or.inr (Or.inr ⟨host, rfl⟩))
        simp only [bind, Except.bind]
        split
        · exact ⟨_, rfl⟩
        · exact ⟨_, rfl⟩

theorem exists_fileAfterSlashes_of_startsWithHost {below : List Char} (h : StartsWithHost below) :
    ∃ u, fileAfterSlashes below = .ok u := by
  obtain ⟨name, rest, rfl, hne, hchars, ⟨c, hc, hmark⟩, hhost, -⟩ := h.front
  have hinside : ∀ c ∈ name, inFileHost c = true := by
    have hall {c : Char} (hc : isHostChar c = true) : inFileHost c = true := by
      unfold isHostChar at hc
      simp_all [inFileHost, isAnySlash]
    exact fun c hc => hall (isHostChar_of_isNameChar (hchars c hc))
  have hstops : Stops inFileHost rest := by
    intro d hd
    obtain rfl : c = d := Option.some.inj (hc.symm.trans hd)
    rcases hmark with rfl | rfl <;> rfl
  rw [exists_fileAfterSlashes_iff, takeWhile_append_of_stop hinside hstops]
  exact Or.inr (Or.inr hhost)

/-- The host of a file ends before the first slash. -/
theorem exists_fileAfterSlashes_below {front : List Char}
    (h : ∃ u, fileAfterSlashes (front ++ ['/']) = .ok u) (below : List Char) :
    ∃ u, fileAfterSlashes (front ++ '/' :: below) = .ok u := by
  have hslash : inFileHost '/' = false := rfl
  rw [exists_fileAfterSlashes_iff, takeWhile_append_cons_of_neg _ hslash] at h ⊢
  exact h

/-- A file fails only at the host behind two slashes. -/
theorem exists_resolveFile_iff (cs : List Char) : (∃ u, resolveFile none cs = .ok u) ↔
    ∀ c d rest, cs = c :: d :: rest → isAnySlash c = true → isAnySlash d = true →
      ∃ u, fileAfterSlashes rest = .ok u := by
  unfold resolveFile
  split
  · exact iff_of_true ⟨_, rfl⟩ fun _ _ _ heq => absurd heq (by simp)
  · refine iff_of_true ⟨_, rfl⟩ fun c d rest heq hc => ?_
    obtain ⟨rfl, -⟩ := List.cons.inj heq
    exact absurd hc (by decide)
  · refine iff_of_true ⟨_, rfl⟩ fun c d rest heq hc => ?_
    obtain ⟨rfl, -⟩ := List.cons.inj heq
    exact absurd hc (by decide)
  · next c rest _ _ =>
    split
    · next hc =>
      split
      · next hsecond =>
        cases rest with
        | nil => exact absurd hsecond (by simp)
        | cons d rest =>
          rw [List.drop_one, List.tail_cons]
          constructor
          · rintro hok c' d' rest' heq - -
            obtain ⟨-, hrest⟩ := List.cons.inj heq
            rwa [← (List.cons.inj hrest).2]
          · exact fun h => h c d rest rfl hc hsecond
      · next hsecond =>
        refine iff_of_true ⟨_, rfl⟩ fun c' d rest' heq _ hd => absurd ?_ hsecond
        obtain ⟨-, rfl⟩ := List.cons.inj heq
        exact hd
    · next hc =>
      refine iff_of_true ⟨_, rfl⟩ fun c' d rest' heq hc' => absurd ?_ hc
      obtain ⟨rfl, -⟩ := List.cons.inj heq
      exact hc'

/-- What is put below a file is read if the file is. -/
theorem exists_resolveFile_below {front below : List Char}
    (hroot : ∃ u, resolveFile none (front ++ ['/']) = .ok u) (h : StartsWithHost below) :
    ∃ u, resolveFile none (front ++ '/' :: below) = .ok u := by
  rw [exists_resolveFile_iff] at hroot ⊢
  intro c d rest heq hc hd
  match front with
  | [] =>
    obtain ⟨rfl, rfl⟩ := List.cons.inj heq
    exact absurd hd (by rw [(stops_cons _).mp h.stops]; decide)
  | [c'] =>
    -- the last slash of the root is the second one
    obtain ⟨rfl, hrest⟩ := List.cons.inj heq
    obtain ⟨rfl, rfl⟩ := List.cons.inj hrest
    exact exists_fileAfterSlashes_of_startsWithHost h
  | c' :: d' :: front =>
    obtain ⟨rfl, hrest⟩ := List.cons.inj heq
    obtain ⟨rfl, rfl⟩ := List.cons.inj hrest
    exact exists_fileAfterSlashes_below (hroot c' d' _ rfl hc hd) below

end

/-- A piece without breaks stays as it is. -/
theorem joinedPiece_eq_self {piece : List Char} (h : ∀ c ∈ piece, 0x20 < c.toNat) :
    joinedPiece piece = piece := by
  unfold joinedPiece
  dsimp only
  rw [joined_of_visible h]
  split
  · next letter c rest =>
    rw [if_neg]
    rintro ⟨-, hbreak⟩
    obtain ⟨d, hd, hbreak⟩ := (Option.any_eq_true _ _).mp hbreak
    have hmem := List.mem_of_mem_drop (List.mem_of_mem_head? hd)
    have hvisible := h d ((List.dropWhile_sublist _).subset hmem)
    simp only [isBreak, Bool.or_eq_true, beq_iff_eq] at hbreak
    rcases hbreak with (rfl | rfl) | rfl <;> exact absurd hvisible (by decide)
  · rfl

theorem intercalate_append {ps qs : List (List Char)} (hps : ps ≠ []) (hqs : qs ≠ []) :
    ['/'].intercalate (ps ++ qs) = ['/'].intercalate ps ++ '/' :: ['/'].intercalate qs := by
  induction ps with
  | nil => exact absurd rfl hps
  | cons p ps ih =>
    cases ps with
    | nil =>
      obtain ⟨q, qs, rfl⟩ := List.exists_cons_of_ne_nil hqs
      simp
    | cons p' ps =>
      have htail := ih (List.cons_ne_nil _ _)
      rw [List.cons_append] at htail
      rw [List.cons_append, List.cons_append, List.intercalate_cons_cons, htail]
      simp

theorem joinedPath_eq_self {cs : List Char} (h : ∀ c ∈ cs, 0x20 < c.toNat)
    (hbackslash : '\\' ∉ cs) : ['/'].intercalate ((pieces true cs).map joinedPiece) = cs := by
  have hpieces : (pieces true cs).map joinedPiece = pieces true cs := by
    rw [pieces_of_notMem hbackslash]
    refine (List.map_congr_left fun piece hpiece => joinedPiece_eq_self fun c hc => ?_).trans
      (List.map_id _)
    exact h c (mem_of_mem_splitOn hpiece c hc).2
  rw [hpieces, pieces_of_notMem hbackslash, List.intercalate_splitOn]

/-- Joining the text of a file does not look past a slash. -/
theorem exists_joinedFile_eq (front : List Char) : ∃ front', ∀ below, IsBelowText below →
    '\\' ∉ below → joinedFile (front ++ '/' :: below) = front' ++ '/' :: below := by
  rcases endsPath_cases front with hfront | ⟨front, mark, rest, rfl, hfront, hmark⟩
  · -- the path goes on below, and each of its pieces is joined for itself
    refine ⟨['/'].intercalate ((pieces true front).map joinedPiece), fun below h hbackslash => ?_⟩
    have hne (cs : List Char) : (pieces true cs).map joinedPiece ≠ [] := by
      rw [Ne, List.map_eq_nil_iff]
      exact List.splitOn_ne_nil _ _
    have hpath : ∀ c ∈ below.takeWhile (!endsPath ·), c ∈ below :=
      fun c hc => (List.takeWhile_sublist _).subset hc
    have htail : ∀ c ∈ below.dropWhile (!endsPath ·), c ∈ below :=
      fun c hc => (List.dropWhile_sublist _).subset hc
    unfold joinedFile
    dsimp only
    rw [List.takeWhile_append_of_pos hfront, List.takeWhile_cons_of_pos rfl,
      List.dropWhile_append_of_pos hfront, List.dropWhile_cons_of_pos rfl, pieces_append_slash,
      List.map_append, intercalate_append (hne _) (hne _),
      joinedPath_eq_self (fun c hc => (h c (hpath c hc)).1) fun hmem => hbackslash (hpath _ hmem),
      joined_of_visible fun c hc => (h c (htail c hc)).1, List.append_assoc, List.cons_append,
      List.takeWhile_append_dropWhile]
  · refine ⟨['/'].intercalate ((pieces true front).map joinedPiece) ++ joined (mark :: rest),
      fun below h hbackslash => ?_⟩
    have hstops : Stops (!endsPath ·) (mark :: (rest ++ '/' :: below)) :=
      (stops_cons _).mpr (by rw [hmark]; rfl)
    unfold joinedFile
    dsimp only
    rw [List.append_assoc, List.cons_append, takeWhile_append_of_stop hfront hstops,
      dropWhile_append_of_stop hfront hstops, ← List.cons_append, joined_append_slash _ h,
      List.append_assoc]

/-! ### Roots of any kind -/

/-- What is put below a root is read if the root is. -/
theorem exists_resolveWithScheme_below [NameMapping] {scheme : String} (hweb : kindOf scheme ≠ .web)
    {front below : List Char} (hroot : ∃ u, resolveWithScheme none scheme (front ++ ['/']) = .ok u)
    (h : StartsWithHost below) :
    ∃ u, resolveWithScheme none scheme (front ++ '/' :: below) = .ok u := by
  cases hkind : kindOf scheme with
  | web => exact absurd hkind hweb
  | other => exact exists_resolveWithScheme_of_other hkind hroot h
  | file =>
    obtain ⟨front', hjoined⟩ := exists_joinedFile_eq front
    have hread (cs : List Char) :
        resolveWithScheme none scheme cs = resolveFile none (joinedFile cs) := by
      unfold resolveWithScheme
      rw [hkind]
      rfl
    rw [hread, hjoined [] isBelowText_nil List.not_mem_nil] at hroot
    rw [hread, hjoined below h.isBelowText h.backslash]
    exact exists_resolveFile_below hroot h

/-- **A page below a root of any kind has an address.** -/
theorem exists_parse_of_startsWithHost [NameMapping] {root : String} {base : Address}
    (hbase : Address.parse root = .ok base) (hslash : root.toList.getLast? = some '/')
    {below : List Char} (h : StartsWithHost below) :
    ∃ page, Address.parse (root ++ String.ofList below) = .ok page := by
  by_cases hweb : base.kind = .web
  · obtain ⟨page, hpage, -⟩ := exists_parse_below hbase hweb hslash h.isBelowText
    exact ⟨page, hpage⟩
  · obtain ⟨front, hfront⟩ := List.getLast?_eq_some_iff.mp hslash
    obtain rfl : root = String.ofList (front ++ ['/']) := by
      rw [← hfront, String.ofList_toList]
    obtain ⟨rest, hsplit, hread⟩ := parse_eq_ok hbase
    rw [String.toList_ofList, trimmed_below front isBelowText_nil] at hsplit
    obtain ⟨inner, rfl, hscheme⟩ := splitScheme_below hsplit
    have htext : splitScheme (trimmed (String.ofList (front ++ '/' :: below)).toList) =
        some (base.scheme, inner ++ '/' :: below) := by
      rw [String.toList_ofList, trimmed_below front h.isBelowText, hscheme below]
    rw [← String.ofList_append, List.append_assoc, List.singleton_append,
      parse_of_splitScheme htext]
    exact exists_resolveWithScheme_below hweb ⟨base, hread⟩ h

end BadgeEntry.Url
