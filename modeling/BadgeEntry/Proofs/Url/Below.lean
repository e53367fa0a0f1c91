import BadgeEntry.Proofs.Text.Spans
import BadgeEntry.Proofs.Url.Requested
import BadgeEntry.Url.Reader
import Mathlib.Tactic.Common

/-!
# Addresses below a root

The pages of a site are addressed by putting a text below its root, which ends in a
slash.  No stage of reading looks past that slash for what it takes from the front:
trimming stops there, a scheme and an authority end before it.  So what is put below
a root goes on after the authority, and the scheme, the user information, the host
and the port of the page are those of the root.

## Main definitions

* `IsBelowText` — the texts that are put below a root: without blanks, without
  control characters and without a number sign.
* `Address.IsOnSite` — an address with the scheme and the authority of another one.

## Main results

* `parse_web_below` — how everything below a root of the web is read.
* `exists_parse_below` — **a page below a root of the web has an address on the site of
  the root.**
* `scheme_of_parse_below` — a page below a root of any kind has its scheme.
-/

namespace BadgeEntry.Url

open Text

/-! ### Texts below a root -/

/-- The texts that are put below a root. -/
def IsBelowText (cs : List Char) : Prop :=
  ∀ c ∈ cs, 0x20 < c.toNat ∧ c ≠ '#'

-- one character of the text after the other, and not all characters there are
instance (cs : List Char) : Decidable (IsBelowText cs) :=
  List.decidableBAll (fun c : Char => 0x20 < c.toNat ∧ c ≠ '#') cs

theorem isBelowText_nil : IsBelowText [] :=
  fun _ h => absurd h List.not_mem_nil

theorem IsBelowText.append {cs ds : List Char} (hcs : IsBelowText cs) (hds : IsBelowText ds) :
    IsBelowText (cs ++ ds) := fun c hc =>
  (List.mem_append.mp hc).elim (hcs c) (hds c)

/-- A number is a text that can be put below a root. -/
theorem isBelowText_digits (n : Nat) : IsBelowText (Decimal.digits n) := by
  intro c hc
  have hdigit := Decimal.isDigit_of_mem_digits hc
  rw [Char.isDigit, Bool.and_eq_true, decide_eq_true_eq, decide_eq_true_eq] at hdigit
  have hlow : 48 ≤ c.toNat := hdigit.1
  refine ⟨by omega, ?_⟩
  rintro rfl
  exact absurd hlow (by decide)

/-- A text without blanks and control characters holds no breaks. -/
theorem joined_of_visible {cs : List Char} (h : ∀ c ∈ cs, 0x20 < c.toNat) : joined cs = cs := by
  refine List.filter_eq_self.mpr fun c hc => ?_
  have hc := h c hc
  simp only [isBreak, Bool.not_eq_true', Bool.or_eq_false_iff, beq_eq_false_iff_ne, ne_eq]
  refine ⟨⟨?_, ?_⟩, ?_⟩ <;> rintro rfl <;> exact absurd hc (by decide)

theorem joined_eq_self {cs : List Char} (h : IsBelowText cs) : joined cs = cs :=
  joined_of_visible fun c hc => (h c hc).1

theorem joined_append_slash (front : List Char) {below : List Char} (h : IsBelowText below) :
    joined (front ++ '/' :: below) = joined front ++ '/' :: below := by
  rw [joined, List.filter_append, List.filter_cons_of_pos (by decide)]
  exact congrArg _ (congrArg _ (joined_eq_self h))

/-! ### The stages of reading -/

/-- Trimming a text with a slash keeps the slash and what is below it. -/
theorem trimmed_below (front : List Char) {below : List Char} (h : IsBelowText below) :
    trimmed (front ++ '/' :: below) = front.dropWhile (·.toNat ≤ 0x20) ++ '/' :: below := by
  unfold trimmed
  rw [dropWhile_append_cons_of_neg _ (by decide)]
  exact dropEnd_append_cons _ _ (by decide) fun c hc => by
    have := (h c hc).1
    simp only [decide_eq_false_iff_not]
    omega

/-- Whether `c` is passed over while a scheme is read. -/
def inScheme (c : Char) : Bool :=
  isSchemeChar c || isBreak c

/-- A scheme begins with a letter and ends with a colon. -/
theorem splitScheme_eq_some_iff {cs rest : List Char} {scheme : String} :
    splitScheme cs = some (scheme, rest) ↔
      cs.head?.any Char.isAlpha = true ∧ cs.dropWhile inScheme = ':' :: rest ∧
        String.ofList ((joined (cs.takeWhile inScheme)).map Char.toLower) = scheme := by
  unfold splitScheme
  dsimp only
  split
  · next first rest' hhead hdrop =>
    change cs.dropWhile inScheme = ':' :: rest' at hdrop
    rw [hhead, hdrop]
    by_cases halpha : first.isAlpha = true
    · rw [if_pos halpha, Option.some.injEq, Prod.mk.injEq]
      simp only [Option.any_some, halpha, true_and, List.cons.injEq]
      exact and_comm
    · simp [halpha]
  · next hno =>
    refine ⟨fun h => absurd h (by simp), fun ⟨hhead, hdrop, _⟩ => ?_⟩
    cases hfirst : cs.head? with
    | none => simp [hfirst] at hhead
    | some first => exact (hno first rest hfirst hdrop).elim

/-- A scheme ends before the first slash. -/
theorem splitScheme_below {front rest : List Char} {scheme : String}
    (h : splitScheme (front ++ ['/']) = some (scheme, rest)) :
    ∃ tail, rest = tail ++ ['/'] ∧
      ∀ below, splitScheme (front ++ '/' :: below) = some (scheme, tail ++ '/' :: below) := by
  have htake (below : List Char) :
      (front ++ '/' :: below).takeWhile inScheme = front.takeWhile inScheme :=
    takeWhile_append_cons_of_neg _ (by decide) front below
  have hdrop (below : List Char) :
      (front ++ '/' :: below).dropWhile inScheme = front.dropWhile inScheme ++ '/' :: below :=
    dropWhile_append_cons_of_neg _ (by decide) front below
  obtain ⟨hhead, hcolon, hscheme⟩ := splitScheme_eq_some_iff.mp h
  rw [hdrop] at hcolon
  rw [htake] at hscheme
  cases hafter : front.dropWhile inScheme with
  | nil => simp [hafter] at hcolon
  | cons colon tail =>
    -- the colon stands before the slash, so what is put after the slash is not looked at
    rw [hafter, List.cons_append, List.cons.injEq] at hcolon
    refine ⟨tail, hcolon.2.symm, fun below => splitScheme_eq_some_iff.mpr ⟨?_, ?_, ?_⟩⟩
    · cases front with
      | nil => simp at hafter
      | cons first front => simpa using hhead
    · rw [hdrop, hafter, hcolon.1, List.cons_append]
    · rw [htake, hscheme]

/-- Whether `c` stands inside an authority. -/
def inAuthority (scheme : String) (c : Char) : Bool :=
  !endsAuthority (kindOf scheme).isSpecial c

/-- An authority is read from the text before the mark that ends it. -/
theorem readAuthority_eq_ok_iff [NameMapping] {scheme : String} {cs after : List Char}
    {authority : Authority} :
    readAuthority scheme cs = .ok (authority, after) ↔
      ¬(cs.takeWhile (inAuthority scheme) = ['@'] ∧ cs.dropWhile (inAuthority scheme) ≠ []) ∧
        ∃ tail, readRegion scheme (cs.takeWhile (inAuthority scheme)) = .ok (authority, tail) ∧
          after = tail ++ cs.dropWhile (inAuthority scheme) := by
  unfold readAuthority
  change (if cs.takeWhile (inAuthority scheme) = ['@'] ∧
    (!(cs.dropWhile (inAuthority scheme)).isEmpty) = true then _ else
      (readRegion scheme (cs.takeWhile (inAuthority scheme))).bind _) = _ ↔ _
  by_cases hlone : cs.takeWhile (inAuthority scheme) = ['@'] ∧
      cs.dropWhile (inAuthority scheme) ≠ []
  · rw [if_pos (by simpa using hlone)]
    simp [hlone, throw, throwThe, MonadExceptOf.throw, bind, Except.bind]
  · rw [if_neg (by simpa using hlone)]
    cases readRegion scheme (cs.takeWhile (inAuthority scheme)) with
    | error fault => simp [Except.bind]
    | ok found =>
      obtain ⟨authority', tail⟩ := found
      simp only [Except.bind, pure, Except.pure, Except.ok.injEq, Prod.mk.injEq, hlone,
        not_false_eq_true, true_and]
      constructor
      · rintro ⟨rfl, rfl⟩
        exact ⟨tail, ⟨rfl, rfl⟩, rfl⟩
      · rintro ⟨_, ⟨rfl, rfl⟩, rfl⟩
        exact ⟨rfl, rfl⟩

/-- An authority ends before the first slash. -/
theorem readAuthority_below [NameMapping] {scheme : String} {front rest : List Char}
    {authority : Authority} (h : readAuthority scheme (front ++ ['/']) = .ok (authority, rest)) :
    ∃ tail, rest = tail ++ ['/'] ∧ ∀ below,
      readAuthority scheme (front ++ '/' :: below) = .ok (authority, tail ++ '/' :: below) := by
  have hslash : inAuthority scheme '/' = false := rfl
  have htake := takeWhile_append_cons_of_neg _ hslash front
  have hdrop := dropWhile_append_cons_of_neg _ hslash front
  obtain ⟨hlone, tail, hregion, rfl⟩ := readAuthority_eq_ok_iff.mp h
  -- the slash ends the authority, whatever is put after it
  rw [htake] at hregion hlone
  rw [hdrop] at hlone ⊢
  refine ⟨_, (List.append_assoc ..).symm, fun below =>
    readAuthority_eq_ok_iff.mpr ⟨?_, tail, ?_, ?_⟩⟩
  · rw [htake, hdrop]
    simpa using hlone
  · rw [htake, hregion]
  · rw [hdrop, List.append_assoc]

/-! ### What an address is made of -/

@[simp] theorem withPath_scheme (scheme : String) (authority : Option Authority)
    (done : List (List Char)) (cs : List Char) :
    (withPath scheme authority done cs).scheme = scheme := rfl

@[simp] theorem withPath_authority (scheme : String) (authority : Option Authority)
    (done : List (List Char)) (cs : List Char) :
    (withPath scheme authority done cs).authority = authority := rfl

@[simp] theorem afterAuthority_scheme (scheme : String) (authority : Authority)
    (cs : List Char) : (afterAuthority scheme authority cs).scheme = scheme := by
  cases cs <;> simp only [afterAuthority]
  · split <;> rfl
  · split
    · rfl
    · split <;> rfl

/-- On the web a path begins after a slash of either kind, which may be missing. -/
theorem afterAuthority_of_isSpecial {scheme : String} (h : (kindOf scheme).isSpecial = true)
    (authority : Authority) (cs : List Char) :
    afterAuthority scheme authority cs =
      withPath scheme (some authority) [] (fileAfterSlashes.dropSlash cs) := by
  cases cs with
  | nil => simp [afterAuthority, fileAfterSlashes.dropSlash, h]
  | cons c cs =>
    simp only [afterAuthority, fileAfterSlashes.dropSlash, isAnySlash, h, true_and, Bool.not_true,
      Bool.false_eq_true, false_and, if_false, Bool.or_eq_true, beq_iff_eq]
    split <;> rfl

/-- There is a fragment if there is a number sign. -/
theorem isSome_fragment_iff (cs : List Char) :
    (readTail.fragment (cs.dropWhile (· != '#'))).isSome = true ↔ '#' ∈ cs := by
  induction cs with
  | nil => simp [readTail.fragment]
  | cons c cs ih =>
    by_cases hc : c = '#'
    · simp [hc, readTail.fragment]
    · simp [hc, ih, Ne.symm hc]

theorem isSome_readTail_iff (special : Bool) (cs : List Char) :
    (readTail special (cs.dropWhile (!endsPath ·))).2.isSome = true ↔ '#' ∈ cs := by
  induction cs with
  | nil => simp [readTail, readTail.fragment]
  | cons c cs ih =>
    by_cases hquery : c = '?'
    · simp [hquery, endsPath, readTail, isSome_fragment_iff]
    · by_cases hmark : c = '#'
      · simp [hmark, endsPath, readTail, readTail.fragment]
      · have hinside : endsPath c = false := by simp [endsPath, hquery, hmark]
        simp [hinside, ih, Ne.symm hmark]

theorem isSome_withPath_fragment_iff (scheme : String) (authority : Option Authority)
    (done : List (List Char)) (cs : List Char) :
    (withPath scheme authority done cs).fragment.isSome = true ↔ '#' ∈ cs :=
  isSome_readTail_iff _ cs

/-- A slash at the front is no number sign. -/
theorem mem_dropSlash_iff (cs : List Char) : '#' ∈ fileAfterSlashes.dropSlash cs ↔ '#' ∈ cs := by
  cases cs with
  | nil => rfl
  | cons c cs =>
    simp only [fileAfterSlashes.dropSlash]
    by_cases hslash : isAnySlash c = true
    · have hne : '#' ≠ c := by rintro rfl; exact absurd hslash (by decide)
      simp [hslash, hne]
    · simp [hslash]

/-! ### Addresses of the web -/

theorem kindOf_eq_file {scheme : String} (h : kindOf scheme = .file) : scheme = "file" := by
  unfold kindOf at h
  split at h
  · cases h
  · split at h
    · assumption
    · cases h

section

variable [NameMapping]

theorem fileAfterSlashes_scheme {cs : List Char} {address : Address}
    (h : fileAfterSlashes cs = .ok address) : address.scheme = "file" := by
  unfold fileAfterSlashes at h
  dsimp only at h
  split at h
  · cases h; rfl
  · split at h
    · cases h; rfl
    · generalize readWebHost _ = found at h
      cases found with
      | error fault => cases h
      | ok host =>
        change (if host = _ then _ else _) = _ at h
        split at h <;> cases h <;> rfl

theorem resolveFile_none_scheme {cs : List Char} {address : Address}
    (h : resolveFile none cs = .ok address) : address.scheme = "file" := by
  unfold resolveFile at h
  split at h
  · cases h; rfl
  · cases h; rfl
  · cases h; rfl
  · split at h
    · split at h
      · exact fileAfterSlashes_scheme h
      · cases h; rfl
    · cases h; rfl

theorem afterSlashes_eq_ok_iff {scheme : String} {cs : List Char} {address : Address} :
    afterSlashes scheme cs = .ok address ↔
      ∃ authority rest, readAuthority scheme cs = .ok (authority, rest) ∧
        address = afterAuthority scheme authority rest := by
  unfold afterSlashes
  cases readAuthority scheme cs with
  | error fault => simp [bind, Except.bind]
  | ok found =>
    obtain ⟨authority, rest⟩ := found
    simp [bind, Except.bind, pure, Except.pure, eq_comm]

/-- An address has the scheme that was read. -/
theorem resolveWithScheme_none_scheme {scheme : String} {cs : List Char} {address : Address}
    (h : resolveWithScheme none scheme cs = .ok address) : address.scheme = scheme := by
  unfold resolveWithScheme at h
  dsimp only [Option.filter_none] at h
  split at h
  · next hfile => rw [kindOf_eq_file hfile]; exact resolveFile_none_scheme h
  · obtain ⟨authority, rest, -, rfl⟩ := afterSlashes_eq_ok_iff.mp h
    exact afterAuthority_scheme ..
  · split at h
    · obtain ⟨authority, rest, -, rfl⟩ := afterSlashes_eq_ok_iff.mp h
      exact afterAuthority_scheme ..
    · cases h; rfl
    · cases h; rfl

/-- An address begins with its scheme. -/
theorem parse_eq_ok {text : String} {address : Address} (h : Address.parse text = .ok address) :
    ∃ rest, splitScheme (trimmed text.toList) = some (address.scheme, rest) ∧
      resolveWithScheme none address.scheme rest = .ok address := by
  unfold Address.parse readAddress at h
  dsimp only at h
  split at h
  · next scheme rest hsplit =>
    obtain rfl := resolveWithScheme_none_scheme h
    exact ⟨rest, hsplit, h⟩
  · cases h

/-- Reading a text that begins with a scheme of the web. -/
theorem resolveWithScheme_of_web {scheme : String} (hweb : kindOf scheme = .web)
    (cs : List Char) :
    resolveWithScheme none scheme cs = afterSlashes scheme ((joined cs).dropWhile isAnySlash) := by
  simp [resolveWithScheme, hweb]

/-- On the web there is no authority without a host. -/
theorem readAuthority_nil_of_web {scheme : String} (hweb : kindOf scheme = .web)
    (found : Authority × List Char) : readAuthority scheme [] ≠ .ok found := by
  intro h
  obtain ⟨-, tail, hregion, -⟩ := readAuthority_eq_ok_iff.mp h
  have hfails : readRegion scheme [] = .error .emptyHost := by
    simp [readRegion, readHostAndPort, splitLastAt, takeHost, hweb, Kind.isSpecial, bind,
      Except.bind, throw, throwThe, MonadExceptOf.throw]
  rw [List.takeWhile_nil, hfails] at hregion
  cases hregion

theorem parse_of_splitScheme {text scheme : String} {rest : List Char}
    (h : splitScheme (trimmed text.toList) = some (scheme, rest)) :
    Address.parse text = resolveWithScheme none scheme rest := by
  simp only [Address.parse, readAddress, h]

/-- **How everything below a root of the web is read**: the root gives the scheme, the
authority and the beginning of the text from which the path is read. -/
theorem parse_web_below {front : List Char} {base : Address}
    (h : Address.parse (String.ofList (front ++ ['/'])) = .ok base) (hweb : base.kind = .web) :
    ∃ authority tail, ∀ below, IsBelowText below →
      Address.parse (String.ofList (front ++ '/' :: below)) =
        .ok (withPath base.scheme (some authority) []
          (fileAfterSlashes.dropSlash (tail ++ '/' :: below))) := by
  have hspecial : (kindOf base.scheme).isSpecial = true := by
    rw [show kindOf base.scheme = .web from hweb]; rfl
  obtain ⟨rest, hsplit, hread⟩ := parse_eq_ok h
  rw [String.toList_ofList, trimmed_below front isBelowText_nil] at hsplit
  obtain ⟨inner, rfl, hscheme⟩ := splitScheme_below hsplit
  rw [resolveWithScheme_of_web hweb, joined_append_slash inner isBelowText_nil] at hread
  -- nothing but slashes would leave no host
  have hhost : ((joined inner).dropWhile isAnySlash).isEmpty = false := by
    by_contra hempty
    rw [Bool.not_eq_false] at hempty
    rw [List.dropWhile_append, if_pos hempty] at hread
    obtain ⟨authority, rest, hauthority, -⟩ := afterSlashes_eq_ok_iff.mp hread
    exact readAuthority_nil_of_web hweb _ hauthority
  have hdrop (below : List Char) : (joined inner ++ '/' :: below).dropWhile isAnySlash =
      (joined inner).dropWhile isAnySlash ++ '/' :: below := by
    rw [List.dropWhile_append, if_neg (by simp [hhost])]
  rw [hdrop] at hread
  obtain ⟨authority, rest, hauthority, -⟩ := afterSlashes_eq_ok_iff.mp hread
  obtain ⟨tail, rfl, hbelow⟩ := readAuthority_below hauthority
  refine ⟨authority, tail, fun below h => ?_⟩
  have htext : splitScheme (trimmed (String.ofList (front ++ '/' :: below)).toList) =
      some (base.scheme, inner ++ '/' :: below) := by
    rw [String.toList_ofList, trimmed_below front h, hscheme below]
  rw [parse_of_splitScheme htext, resolveWithScheme_of_web hweb, joined_append_slash inner h, hdrop,
    afterSlashes_eq_ok_iff.mpr ⟨authority, _, hbelow below, rfl⟩,
    afterAuthority_of_isSpecial hspecial]

end

/-- Whether an address is on the site of another one: it has the same scheme and the same
authority, and a fragment if the other has one. -/
structure Address.IsOnSite (page base : Address) : Prop where
  scheme : page.scheme = base.scheme
  authority : page.authority = base.authority
  fragment : page.fragment.isSome = base.fragment.isSome

/-- A page is plain if its site is. -/
theorem Address.IsOnSite.isPlain_iff {page base : Address} (h : page.IsOnSite base) :
    page.IsPlain ↔ base.IsPlain := by
  have hfragment : page.fragment = none ↔ base.fragment = none := by
    rw [← Option.not_isSome_iff_eq_none, ← Option.not_isSome_iff_eq_none, h.fragment]
  rw [Address.IsPlain, Address.IsPlain, Address.userinfo, Address.userinfo, h.authority,
    hfragment]

/-- **A page below a root of the web has an address** on the site of the root. -/
theorem exists_parse_below [NameMapping] {root : String} {base : Address}
    (hbase : Address.parse root = .ok base)
    (hweb : base.kind = .web) (hslash : root.toList.getLast? = some '/') {below : List Char}
    (hbelow : IsBelowText below) :
    ∃ page, Address.parse (root ++ String.ofList below) = .ok page ∧ page.IsOnSite base := by
  obtain ⟨front, hfront⟩ := List.getLast?_eq_some_iff.mp hslash
  obtain rfl : root = String.ofList (front ++ ['/']) := by
    rw [← hfront, String.ofList_toList]
  obtain ⟨authority, tail, hread⟩ := parse_web_below hbase hweb
  have hroot := hread [] isBelowText_nil
  rw [hbase, Except.ok.injEq] at hroot
  have htext : String.ofList (front ++ ['/']) ++ String.ofList below =
      String.ofList (front ++ '/' :: below) := by
    rw [← String.ofList_append, List.append_assoc, List.singleton_append]
  have hmark : '#' ∉ below := fun h => (hbelow '#' h).2 rfl
  refine ⟨_, (congrArg Address.parse htext).trans (hread below hbelow), rfl, ?_, ?_⟩
  · rw [hroot, withPath_authority, withPath_authority]
  · -- no number sign is below the root, so that of the root decides
    rw [hroot, Bool.eq_iff_iff, isSome_withPath_fragment_iff, isSome_withPath_fragment_iff,
      mem_dropSlash_iff, mem_dropSlash_iff, List.mem_append, List.mem_append, List.mem_cons,
      List.mem_cons]
    simp [hmark]

/-- A page below a root of any kind has the scheme of the root, if it has an address. -/
theorem scheme_of_parse_below [NameMapping] {root : String} {base page : Address}
    {below : List Char}
    (hbase : Address.parse root = .ok base) (hslash : root.toList.getLast? = some '/')
    (hbelow : IsBelowText below)
    (hpage : Address.parse (root ++ String.ofList below) = .ok page) :
    page.scheme = base.scheme := by
  obtain ⟨front, hfront⟩ := List.getLast?_eq_some_iff.mp hslash
  obtain ⟨_, hsplit, -⟩ := parse_eq_ok hbase
  obtain ⟨_, hsplitPage, -⟩ := parse_eq_ok hpage
  rw [hfront, trimmed_below front isBelowText_nil] at hsplit
  obtain ⟨tail, -, hscheme⟩ := splitScheme_below hsplit
  -- the scheme of the root ends before its slash, whatever is put behind that
  rw [String.toList_append, String.toList_ofList, hfront, List.append_assoc, List.singleton_append,
    trimmed_below front hbelow, hscheme below] at hsplitPage
  exact (Prod.mk.inj (Option.some.inj hsplitPage)).1.symm

end BadgeEntry.Url
