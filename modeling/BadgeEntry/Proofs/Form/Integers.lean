import BadgeEntry.Proofs.Form.Decoding
import BadgeEntry.Proofs.Form.RoundTrip
import BadgeEntry.Proofs.Json.ValueTexts
import Mathlib.Data.List.Forall2

/-!
# Whole numbers in updates

A number of an object gives its text to a field, and that is the text of the number as it was
understood.  So a whole number is stored and submitted with the digits with which it was written
just if it is kept as a whole number: if it has at most sixty-four bits and is not negative zero.
Two such numbers are never submitted alike.  Longer ones are rounded, and then different numbers may
be submitted alike; those beyond the greatest binary number are refused.

## Main definitions

* `FitsField` — texts of values that may be given to a field.

## Main results

* `Updates.get?_of_isInteger` — what is stored for a whole number.
* `Updates.exists_decode_iff` — which objects are decoded.
* `Updates.integer_stored_iff` — **just the whole numbers that are kept are stored as written.**
-/

namespace BadgeEntry.Entries

variable {α β : Type} {as : List (String × α)} {bs : List (String × β)} {name : String}
  {R : String × α → String × β → Prop}

theorem isLast_unique {x y : α} (hx : IsLast as name x) (hy : IsLast as name y) : x = y := by
  rw [← get?_ofPairs_eq_some_iff] at hx hy
  exact Option.some.inj (hx.symm.trans hy)

section
variable (h : List.Forall₂ R as bs) (hnames : ∀ a b, R a b → a.1 = b.1)
include h hnames

/-- What counts on one side stands for what counts on the other. -/
theorem exists_isLast_of_forall₂ {x : α} (hlast : IsLast as name x) :
    ∃ y, IsLast bs name y ∧ R (name, x) (name, y) := by
  induction h with
  | nil => exact absurd hlast not_isLast_nil
  | @cons a b as bs hfirst hrest ih =>
    rcases isLast_cons.mp hlast with hlast | ⟨rfl, hafter⟩
    · obtain ⟨y, hy, hmeant⟩ := ih hlast
      exact ⟨y, isLast_cons.mpr (Or.inl hy), hmeant⟩
    · obtain ⟨other, y⟩ := b
      obtain rfl : name = other := hnames _ _ hfirst
      refine ⟨y, isLast_cons.mpr (Or.inr ⟨rfl, fun q hq hname => ?_⟩), hfirst⟩
      have hmem : name ∈ bs.map Prod.fst := hname ▸ List.mem_map_of_mem hq
      rw [← map_fst_eq_of_forall₂ hrest hnames] at hmem
      obtain ⟨p, hp, hpname⟩ := List.mem_map.mp hmem
      exact hafter p hp hpname

end

end BadgeEntry.Entries

namespace BadgeEntry.Form

open Json Entries

/-- Whether the text of a value stands for something that may be given to a field. -/
def FitsField (cs : List Char) : Prop :=
  ∃ v s, Spells (bracketLimit - 1) cs v ∧ Gives v s

namespace Updates

variable {text : String} {texts : List (String × List Char)} {field : String} {cs : List Char}
  {u : Updates}

/-- A field is submitted with its value. -/
theorem mem_pairs_iff {s : String} (token : Option String) :
    (scopedName projectScope field, s) ∈ u.pairs token ↔ u.get? field = some s := by
  have hget : u.get? field = some s ↔ (field, s) ∈ u.fields := get?_eq_some_iff_mem u.ordered
  rw [hget, pairs, List.mem_append]
  constructor
  · rintro (hfield | htoken)
    · obtain ⟨p, hp, heq⟩ := List.mem_map.mp hfield
      obtain ⟨hname, rfl⟩ := Prod.mk.inj heq
      rwa [← scopedName_inj hname]
    · obtain ⟨t, -, heq⟩ := List.mem_map.mp htoken
      exact absurd (Prod.mk.inj heq).1.symm (scopedName_ne_tokenField field)
  · exact fun hfield => Or.inl (List.mem_map_of_mem hfield)

/-- The members of an object that is decoded are what their texts stand for. -/
theorem exists_of_decode (hwritten : IsWrittenAs text texts) (h : decode text = .ok u) :
    ∃ pairs, List.Forall₂ StandsFor texts pairs ∧ ofMembers (Entries.ofPairs pairs) = .ok u := by
  cases hread : readObject text with
  | error fault =>
    rw [decode, hread] at h
    cases h
  | ok ms =>
    obtain ⟨pairs, rfl, hall⟩ := hwritten.exists_of_readObject hread
    rw [decode_of_readObject hread, mapError_eq_ok_iff] at h
    exact ⟨pairs, hall, h⟩

theorem fst_eq_of_standsFor (t : String × List Char) (m : String × Value) (h : StandsFor t m) :
    t.1 = m.1 :=
  h.1

/-- **What is stored for a whole number** is the text of the number that it stands for. -/
theorem get?_of_isInteger (hwritten : IsWrittenAs text texts) (h : decode text = .ok u)
    (hlast : IsLast texts field cs) (hinteger : IsInteger cs) :
    ∃ n, SpellsFlat cs (.number n) ∧ u.get? field = some (String.ofList n.text) := by
  obtain ⟨pairs, hall, hmembers⟩ := exists_of_decode hwritten h
  obtain ⟨v, hvalue, -, hspells⟩ := exists_isLast_of_forall₂ hall fst_eq_of_standsFor hlast
  obtain ⟨n, rfl, hflat⟩ := hinteger.exists_of_spells hspells
  refine ⟨n, hflat, ?_⟩
  exact (((ofMembers_eq_ok_iff pairs).mp hmembers).2 _ _).mpr ⟨_, hvalue, .number n⟩

/-- **An object is decoded** just if each text of a value stands for one, and those that count
fit. -/
theorem exists_decode_iff (hwritten : IsWrittenAs text texts) : (∃ u, decode text = .ok u) ↔
    (∀ t ∈ texts, ∃ v, Spells (bracketLimit - 1) t.2 v) ∧
      ∀ name cs, IsLast texts name cs → FitsField cs := by
  constructor
  · rintro ⟨u, h⟩
    obtain ⟨pairs, hall, hmembers⟩ := exists_of_decode hwritten h
    refine ⟨?_, fun name cs hlast => ?_⟩
    · have hvalues := hall.imp fun t m hmeant => And.intro (Exists.intro m.2 hmeant.2) hmeant
      exact ((List.forall₂_and_left texts pairs).mp hvalues).1
    · obtain ⟨v, hvalue, -, hspells⟩ := exists_isLast_of_forall₂ hall fst_eq_of_standsFor hlast
      obtain ⟨s, hs⟩ := ((ofMembers_eq_ok_iff pairs).mp hmembers).1 name v hvalue
      exact ⟨v, s, hspells, hs⟩
  · rintro ⟨hvalues, hfits⟩
    obtain ⟨pairs, hobject, hall⟩ := hwritten.exists_isObject hvalues
    refine exists_decode_of_forall_gives hobject fun name v hvalue => ?_
    obtain ⟨cs, hlast, -, hspells⟩ := exists_isLast_of_forall₂
      (List.Forall₂.flip (R := flip StandsFor) hall) (fun m t h => h.1.symm) hvalue
    obtain ⟨w, s, hw, hs⟩ := hfits name cs hlast
    rw [spells_unique hw hspells] at hs
    exact ⟨s, hs⟩

/-- A whole number that is kept may be given to a field. -/
theorem fitsField_of_isKeptInteger (h : IsKeptInteger cs) : FitsField cs := by
  obtain ⟨n, hspells⟩ := h.exists_spells (bracketLimit - 1)
  exact ⟨_, _, hspells, .number n⟩

/-- A whole number is stored with its digits just if it is kept. -/
theorem get?_eq_iff_isKeptInteger (hwritten : IsWrittenAs text texts) (h : decode text = .ok u)
    (hlast : IsLast texts field cs) (hinteger : IsInteger cs) :
    u.get? field = some (String.ofList cs) ↔ IsKeptInteger cs := by
  obtain ⟨n, hspells, hget⟩ := get?_of_isInteger hwritten h hlast hinteger
  rw [hget, Option.some_inj, String.ofList_inj, hinteger.text_eq_iff hspells]

/-- **Just the whole numbers that are kept are stored and submitted as they are written**, whatever
object they stand in, and two different ones never alike.  Such a number never keeps an object from
being decoded: that is up to the texts of the other members, and to what counts of the other
fields. -/
theorem integer_stored_iff (hwritten : IsWrittenAs text texts) (hinteger : IsInteger cs)
    (hlast : IsLast texts field cs) :
    (∀ u, decode text = .ok u →
      (u.get? field = some (String.ofList cs) ↔ IsKeptInteger cs) ∧
      ∀ token,
        ("project[" ++ field ++ "]", String.ofList cs) ∈ decodePairs (u.encode token).toList ↔
          IsKeptInteger cs) ∧
    (IsKeptInteger cs → ((∃ u, decode text = .ok u) ↔
      (∀ t ∈ texts, t.2 ≠ cs → ∃ v, Spells (bracketLimit - 1) t.2 v) ∧
        ∀ name ds, name ≠ field → IsLast texts name ds → FitsField ds)) ∧
    ∀ other others ds u v, IsWrittenAs other others → IsLast others field ds → IsKeptInteger cs →
      IsKeptInteger ds → decode text = .ok u → decode other = .ok v →
        u.get? field = v.get? field → cs = ds := by
  refine ⟨fun u h => ?_, fun hkept => ?_, ?_⟩
  · have hstored := get?_eq_iff_isKeptInteger hwritten h hlast hinteger
    refine ⟨hstored, fun token => ?_⟩
    rw [decodePairs_toList_encode, ← hstored]
    exact mem_pairs_iff token
  · rw [exists_decode_iff hwritten]
    obtain ⟨n, hspells⟩ := hkept.exists_spells (bracketLimit - 1)
    constructor
    · exact fun ⟨hvalues, hfits⟩ => ⟨fun t ht _ => hvalues t ht, fun name ds _ h => hfits name ds h⟩
    · rintro ⟨hvalues, hfits⟩
      refine ⟨fun t ht => ?_, fun name ds hds => ?_⟩
      · by_cases hself : t.2 = cs
        · exact ⟨_, hself ▸ hspells⟩
        · exact hvalues t ht hself
      · by_cases hself : name = field
        · subst hself
          rw [isLast_unique hds hlast]
          exact fitsField_of_isKeptInteger hkept
        · exact hfits name ds hself hds
  · intro other others ds u v hother hds hcs hkept hu hv hsame
    rw [(get?_eq_iff_isKeptInteger hwritten hu hlast hinteger).mpr hcs,
      (get?_eq_iff_isKeptInteger hother hv hds hkept.isInteger).mpr hkept, Option.some_inj,
      String.ofList_inj] at hsame
    exact hsame

/-- The least number of sixty-four bits, behind a value that does not count. -/
theorem integer_stored_least :
    let text := "\x7b\"n\":null, \"n\":-9223372036854775808\x7d"
    let cs := "-9223372036854775808".toList
    let texts := [("n", "null".toList), ("n", cs)]
    IsWrittenAs text texts ∧ IsInteger cs ∧ IsLast texts "n" cs ∧ IsKeptInteger cs ∧
      ∃ u, decode text = .ok u ∧ u.get? "n" = some "-9223372036854775808" := by
  intro text cs texts
  have hname : SpellsText ['n'] ['n'] := .plain (by decide) (by decide) (by decide) .nil
  have hdigits : IsDigits "9223372036854775808".toList :=
    ⟨by decide, List.all_eq_true.mp (by decide)⟩
  have hkept : IsKeptInteger cs := .minus ⟨hdigits, by decide⟩ (by decide) (by decide)
  have hnull : Spells (bracketLimit - 1) "null".toList .null := .flat .null
  have hspace : IsBlank [' '] := List.all_eq_true.mp (by decide)
  have hwritten : IsWrittenAs text texts :=
    .mk isBlank_nil isBlank_nil (.some isBlank_nil
      (.mk hname isBlank_nil isBlank_nil (Or.inl ⟨_, hnull⟩)) (.more isBlank_nil hspace
      (.mk hname isBlank_nil isBlank_nil (Or.inr hkept.isInteger)) (.none isBlank_nil))) (by decide)
  have hlast : IsLast texts "n" cs := ⟨[_], [], rfl, by simp⟩
  have hvalues : ∀ t ∈ texts, t.2 ≠ cs → ∃ v, Spells (bracketLimit - 1) t.2 v := by
    intro t ht hne
    rcases List.mem_pair.mp ht with rfl | rfl
    · exact ⟨_, hnull⟩
    · exact absurd rfl hne
  have hothers : ∀ name ds, name ≠ "n" → IsLast texts name ds → FitsField ds := by
    intro name ds hne h
    rcases isLast_cons.mp h with h | ⟨heq, -⟩
    · rcases isLast_cons.mp h with h | ⟨heq, -⟩
      · exact absurd h not_isLast_nil
      · exact absurd (Prod.mk.inj heq).1.symm hne
    · exact absurd (Prod.mk.inj heq).1.symm hne
  obtain ⟨hstored, hdecoded, -⟩ := integer_stored_iff hwritten hkept.isInteger hlast
  obtain ⟨u, hu⟩ := (hdecoded hkept).mpr ⟨hvalues, hothers⟩
  exact ⟨hwritten, hkept.isInteger, hlast, hkept, u, hu, (hstored u hu).1.mpr hkept⟩

/-- Two numbers of sixty-five bits are rounded to the same one. -/
theorem integer_not_stored_beyond :
    let text := "\x7b\"n\":18446744073709551616\x7d"
    let cs := "18446744073709551616".toList
    IsWrittenAs text [("n", cs)] ∧ IsInteger cs ∧ IsLast [("n", cs)] "n" cs ∧
      ∃ u, decode text = .ok u ∧ u.get? "n" = some "1.8446744073709552e+19" ∧
        decode "\x7b\"n\":18446744073709551617\x7d" = .ok u := by
  intro text cs
  have hname : SpellsText ['n'] ['n'] := .plain (by decide) (by decide) (by decide) .nil
  have hdigits : IsDigits cs := ⟨by decide, List.all_eq_true.mp (by decide)⟩
  have hinteger : IsInteger cs := .plain ⟨hdigits, by decide⟩
  refine ⟨?_, hinteger, ⟨[], [], rfl, by simp⟩, empty.insert "n" "1.8446744073709552e+19", ?_, ?_,
    ?_⟩
  · exact .mk isBlank_nil isBlank_nil (.some isBlank_nil
      (.mk hname isBlank_nil isBlank_nil (Or.inr hinteger)) (.none isBlank_nil)) (by decide)
  · decide +kernel
  · rfl
  · decide +kernel

end Updates

end BadgeEntry.Form
