import BadgeEntry.Form.Updates
import BadgeEntry.Proofs.Json.Exact
import BadgeEntry.Proofs.Text.Utf8Order
import Mathlib.Data.List.Induction
import Mathlib.Data.List.Sort

/-!
# What a JSON text gives to the fields

A text gives values to fields if it is an object, with blanks around it at most, in which the
last value of each name is a text, a number or a truth value.  Values that a later one of the
same name stands in for make no difference.  If the last value of a name is something else, the
text is refused for the least such name, in the order of the bytes; and a text that is no object
is refused as it stands.

## Main definitions

* `Entries.IsLast` — the value of a name that counts.
* `Gives`, `Refuses` — what a value gives to a field, or why it is refused.
* `IsLeastRefused` — the refusal of the least name.

## Main results

* `Entries.get?_ofPairs_eq_some_iff` — what is entered last counts.
* `Updates.decode_exact` — **just the objects with fitting values are decoded.**
-/

namespace BadgeEntry

/-- The last element of a list with one property that has none of another property behind it is the
last one of all, or what it is in the list without that one. -/
theorem exists_last_concat {α : Type} {P Q : α → Prop} {xs : List α} {x : α} :
    (∃ before y after, xs ++ [x] = before ++ y :: after ∧ P y ∧ ∀ z ∈ after, ¬Q z) ↔
      P x ∨ (¬Q x ∧ ∃ before y after, xs = before ++ y :: after ∧ P y ∧ ∀ z ∈ after, ¬Q z) := by
  constructor
  · rintro ⟨before, y, after, heq, hy, hafter⟩
    rcases List.eq_nil_or_concat' after with rfl | ⟨after, z, rfl⟩
    · obtain ⟨-, hlast⟩ := List.append_inj' heq rfl
      obtain rfl := (List.cons.inj hlast).1
      exact Or.inl hy
    · rw [← List.cons_append, ← List.append_assoc] at heq
      obtain ⟨rfl, hlast⟩ := List.append_inj' heq rfl
      obtain rfl := (List.cons.inj hlast).1
      refine Or.inr ⟨hafter x (List.mem_append_right _ List.mem_cons_self), ?_⟩
      exact ⟨before, y, after, rfl, hy, fun q hq => hafter q (List.mem_append_left _ hq)⟩
  · rintro (hx | ⟨hother, before, y, after, rfl, hy, hafter⟩)
    · exact ⟨xs, x, [], rfl, hx, fun z hz => absurd hz List.not_mem_nil⟩
    · refine ⟨before, y, after ++ [x], by simp, hy, fun z hz => ?_⟩
      rcases List.mem_append.mp hz with hz | hz
      · exact hafter z hz
      · obtain rfl := List.mem_singleton.mp hz
        exact hother

namespace Entries

variable {α : Type} {pairs entries : List (String × α)} {name : String} {value : α}

/-- The value that is given to a name last. -/
def IsLast (pairs : List (String × α)) (name : String) (value : α) : Prop :=
  ∃ before after, pairs = before ++ (name, value) :: after ∧ ∀ p ∈ after, p.1 ≠ name

theorem not_isLast_nil : ¬IsLast [] name value := by
  rintro ⟨before, after, heq, -⟩
  exact List.append_ne_nil_of_right_ne_nil before (List.cons_ne_nil _ after) heq.symm

theorem isLast_cons {p : String × α} : IsLast (p :: pairs) name value ↔
    IsLast pairs name value ∨ (p = (name, value) ∧ ∀ q ∈ pairs, q.1 ≠ name) := by
  constructor
  · rintro ⟨before, after, heq, hafter⟩
    rcases before with _ | ⟨q, before⟩
    · obtain ⟨rfl, rfl⟩ := List.cons.inj heq
      exact Or.inr ⟨rfl, hafter⟩
    · obtain ⟨-, rfl⟩ := List.cons.inj heq
      exact Or.inl ⟨before, after, rfl, hafter⟩
  · rintro (⟨before, after, rfl, hafter⟩ | ⟨rfl, hafter⟩)
    · exact ⟨p :: before, after, rfl, hafter⟩
    · exact ⟨[], pairs, rfl, hafter⟩

theorem isLast_concat {p : String × α} :
    IsLast (pairs ++ [p]) name value ↔
      if name = p.1 then p.2 = value else IsLast pairs name value := by
  have hlast (ps : List (String × α)) : IsLast ps name value ↔ ∃ before q after,
      ps = before ++ q :: after ∧ q = (name, value) ∧ ∀ r ∈ after, ¬r.1 = name := by
    constructor
    · rintro ⟨before, after, heq, hafter⟩
      exact ⟨before, _, after, heq, rfl, hafter⟩
    · rintro ⟨before, q, after, heq, rfl, hafter⟩
      exact ⟨before, after, heq, hafter⟩
  rw [hlast, exists_last_concat, ← hlast]
  obtain ⟨n, v⟩ := p
  rw [Prod.mk.injEq]
  split
  · next hname =>
    subst hname
    simp only [true_and, not_true_eq_false, false_and, or_false]
  · next hname =>
    simp only [Ne.symm hname, false_and, not_false_eq_true, true_and, false_or]

/-- **What is entered last counts.** -/
theorem get?_ofPairs_eq_some_iff : get? name (ofPairs pairs) = some value ↔
    IsLast pairs name value := by
  induction pairs using List.reverseRecOn with
  | nil => exact iff_of_false nofun not_isLast_nil
  | append_singleton pairs p ih =>
    have hstep : ofPairs (pairs ++ [p]) = insert p.1 p.2 (ofPairs pairs) := List.foldl_concat ..
    rw [hstep, get?_insert, isLast_concat]
    split
    · exact Option.some_inj
    · exact ih

/-- Entries in order say what they hold. -/
theorem get?_eq_some_iff_mem (h : Ordered entries) :
    get? name entries = some value ↔ (name, value) ∈ entries := by
  induction entries with
  | nil => exact iff_of_false nofun List.not_mem_nil
  | cons e rest ih =>
    obtain ⟨n, v⟩ := e
    obtain ⟨hlt, hrest⟩ := ordered_cons.mp h
    rw [get?_cons, List.mem_cons, Prod.mk.injEq]
    split
    · next hname =>
      subst hname
      rw [Option.some_inj]
      refine ⟨fun heq => Or.inl ⟨rfl, heq.symm⟩, ?_⟩
      rintro (⟨-, rfl⟩ | hmem)
      · rfl
      · exact absurd (hlt _ hmem) (String.lt_irrefl name)
    · next hname =>
      rw [ih hrest]
      exact ⟨Or.inr, fun hmem => hmem.resolve_left fun heq => hname heq.1⟩

theorem isLast_iff_mem_ofPairs : IsLast pairs name value ↔ (name, value) ∈ ofPairs pairs := by
  rw [← get?_ofPairs_eq_some_iff, get?_eq_some_iff_mem (ordered_ofPairs pairs)]

/-- Entries in order are the same if they say the same. -/
theorem Ordered.ext {others : List (String × α)} (h : Ordered entries) (hothers : Ordered others)
    (hsame : ∀ name, get? name entries = get? name others) : entries = others := by
  have hirrefl : Std.Irrefl fun a b : String × α => a.1 < b.1 := ⟨fun a => String.lt_irrefl a.1⟩
  have hantisymm : Std.Antisymm fun a b : String × α => a.1 < b.1 :=
    ⟨fun a b hab hba => absurd hba (String.lt_asymm hab)⟩
  refine List.Pairwise.eq_of_mem_iff h hothers fun p => ?_
  rw [← get?_eq_some_iff_mem h, ← get?_eq_some_iff_mem hothers, hsame]

/-- No name occurs twice. -/
theorem Ordered.nodup_fst (h : Ordered entries) : (entries.map Prod.fst).Nodup := by
  refine List.pairwise_map.mpr (h.imp fun {a b} hlt heq => ?_)
  rw [heq] at hlt
  exact String.lt_irrefl b.1 hlt

/-- What is related name by name has the same names. -/
theorem map_fst_eq_of_forall₂ {β : Type} {R : String × α → String × β → Prop}
    {others : List (String × β)} (h : List.Forall₂ R entries others)
    (hnames : ∀ a b, R a b → a.1 = b.1) : entries.map Prod.fst = others.map Prod.fst := by
  induction h with
  | nil => rfl
  | cons hfirst _ ih => rw [List.map_cons, List.map_cons, hnames _ _ hfirst, ih]

end Entries

end BadgeEntry

namespace BadgeEntry.Form

open Json Entries

/-! ### What a value gives -/

/-- The text that a value gives to a field: a text as it is, a number as it is written. -/
inductive Gives : Value → String → Prop
  | text (s : String) : Gives (.text s) s
  | number (n : Number) : Gives (.number n) (String.ofList n.text)
  | yes : Gives (.bool true) "true"
  | no : Gives (.bool false) "false"

/-- Why a value is refused for the field `name`. -/
inductive Refuses (name : String) : Value → Refusal → Prop
  | null : Refuses name .null (.null name)
  | array (items : List Value) : Refuses name (.array items) (.compound name)
  | object (members : Members) : Refuses name (.object members) (.compound name)

/-- Whether a refusal is the one for the least name, in the order of the bytes, of those for
which the value that counts is refused. -/
def IsLeastRefused (pairs : Members) (r : Refusal) : Prop :=
  ∃ name v, IsLast pairs name v ∧ Refuses name v r ∧
    ∀ other w r', IsLast pairs other w → Refuses other w r' →
      Utf8.encode name.toList ≤ Utf8.encode other.toList

variable {name s : String} {v : Value} {r : Refusal} {ms : Members}

theorem fieldText_eq_ok_iff : fieldText name v = .ok s ↔ Gives v s := by
  constructor
  · intro h
    unfold fieldText at h
    split at h <;> cases h
    · exact .text s
    · exact .number _
    · exact .yes
    · exact .no
  · rintro (_ | _ | _ | _) <;> rfl

theorem fieldText_eq_error_iff : fieldText name v = .error r ↔ Refuses name v r := by
  constructor
  · intro h
    unfold fieldText at h
    split at h <;> cases h
    · exact .null
    · exact .array _
    · exact .object _
  · rintro (_ | _ | _) <;> rfl

/-! ### What the members give -/

/-- The texts of members that all give one: the names stay, and each value gives its text. -/
theorem forall₂_of_fieldTexts {texts : List (String × String)} (h : fieldTexts ms = .ok texts) :
    List.Forall₂ (fun m t => m.1 = t.1 ∧ Gives m.2 t.2) ms texts := by
  induction ms generalizing texts with
  | nil =>
    cases h
    exact .nil
  | cons m ms ih =>
    obtain ⟨text, htext, h⟩ := exists_of_bind_eq_ok h
    obtain ⟨others, hothers, h⟩ := exists_of_bind_eq_ok h
    cases h
    exact .cons ⟨rfl, fieldText_eq_ok_iff.mp htext⟩ (ih hothers)

/-- The first member that gives no text is refused. -/
theorem exists_of_fieldTexts_eq_error (h : fieldTexts ms = .error r) :
    ∃ before name v after, ms = before ++ (name, v) :: after ∧
      (∀ m ∈ before, ∃ s, Gives m.2 s) ∧ Refuses name v r := by
  induction ms with
  | nil => cases h
  | cons m ms ih =>
    obtain ⟨name, v⟩ := m
    cases htext : fieldText name v with
    | error refusal =>
      rw [fieldTexts, htext] at h
      cases h
      exact ⟨[], name, v, ms, rfl, fun m hm => absurd hm List.not_mem_nil,
        fieldText_eq_error_iff.mp htext⟩
    | ok text =>
      cases hrest : fieldTexts ms with
      | ok others =>
        rw [fieldTexts, htext, hrest] at h
        cases h
      | error refusal =>
        rw [fieldTexts, htext, hrest] at h
        cases h
        obtain ⟨before, other, w, after, rfl, hbefore, hrefuses⟩ := ih hrest
        refine ⟨(name, v) :: before, other, w, after, rfl, ?_, hrefuses⟩
        exact List.forall_mem_cons.mpr ⟨⟨text, fieldText_eq_ok_iff.mp htext⟩, hbefore⟩

theorem not_gives_of_refuses (h : Refuses name v r) : ¬Gives v s := by
  rintro (_ | _ | _ | _) <;> cases h

theorem Gives.unique {t : String} (hs : Gives v s) (ht : Gives v t) : s = t := by
  have hsame : fieldText "" v = .ok s := fieldText_eq_ok_iff.mpr hs
  rw [fieldText_eq_ok_iff.mpr ht] at hsame
  exact (Except.ok.inj hsame).symm

section
variable {texts : List (String × String)}
  (h : List.Forall₂ (fun m t => m.1 = t.1 ∧ Gives m.2 t.2) ms texts)
include h

theorem get?_of_forall₂ : get? name texts = some s ↔ ∃ v, get? name ms = some v ∧ Gives v s := by
  induction h with
  | nil => exact iff_of_false nofun nofun
  | @cons m t ms texts hfirst _ ih =>
    obtain ⟨n, v⟩ := m
    obtain ⟨_, text⟩ := t
    obtain ⟨rfl, hgives⟩ := hfirst
    rw [get?_cons, get?_cons]
    split
    · constructor
      · intro heq
        cases heq
        exact ⟨v, rfl, hgives⟩
      · rintro ⟨w, hw, hs⟩
        cases hw
        exact congrArg some (hgives.unique hs)
    · exact ih

theorem exists_gives_of_forall₂ : ∀ m ∈ ms, ∃ s, Gives m.2 s := by
  induction h with
  | nil => exact fun m hm => absurd hm List.not_mem_nil
  | cons hfirst _ ih => exact List.forall_mem_cons.mpr ⟨⟨_, hfirst.2⟩, ih⟩

end

/-! ### Decoding -/

namespace Updates

/-- Updates that answer the same are the same. -/
theorem ext_get? {u other : Updates} (h : ∀ name, u.get? name = other.get? name) : u = other := by
  have hfields : u.fields = other.fields := u.ordered.ext other.ordered h
  cases u
  cases other
  cases hfields
  rfl

/-- The members that arise from pairs are taken as they are, if all give a text. -/
theorem ofMembers_eq_ok_iff (pairs : Members) {u : Updates} :
    ofMembers (Entries.ofPairs pairs) = .ok u ↔
      (∀ name v, IsLast pairs name v → ∃ s, Gives v s) ∧
        ∀ name s, u.get? name = some s ↔ ∃ v, IsLast pairs name v ∧ Gives v s := by
  have htexts {texts : List (String × String)}
      (h : fieldTexts (Entries.ofPairs pairs) = .ok texts) (name s : String) :
      (ofPairs texts).get? name = some s ↔ ∃ v, IsLast pairs name v ∧ Gives v s := by
    have hforall := forall₂_of_fieldTexts h
    have hordered : Ordered texts := by
      have hnames : ((Entries.ofPairs pairs).map Prod.fst).Pairwise (· < ·) :=
        List.pairwise_map.mpr (ordered_ofPairs pairs)
      rw [map_fst_eq_of_forall₂ hforall fun _ _ hgives => hgives.1] at hnames
      exact List.pairwise_map.mp hnames
    change Entries.get? name (Entries.ofPairs texts) = _ ↔ _
    rw [ofPairs_eq_self hordered, get?_of_forall₂ hforall]
    simp only [get?_ofPairs_eq_some_iff]
  constructor
  · intro h
    obtain ⟨texts, hread, h⟩ := exists_of_bind_eq_ok h
    cases h
    refine ⟨fun name v hlast => ?_, htexts hread⟩
    exact exists_gives_of_forall₂ (forall₂_of_fieldTexts hread) _ (isLast_iff_mem_ofPairs.mp hlast)
  · rintro ⟨hall, hget⟩
    cases hread : fieldTexts (Entries.ofPairs pairs) with
    | error r =>
      obtain ⟨before, name, v, after, hsplit, -, hrefuses⟩ := exists_of_fieldTexts_eq_error hread
      have hlast : IsLast pairs name v := by
        rw [isLast_iff_mem_ofPairs, hsplit]
        exact List.mem_append_right before List.mem_cons_self
      obtain ⟨s, hs⟩ := hall name v hlast
      exact absurd hs (not_gives_of_refuses hrefuses)
    | ok texts =>
      have hsame : ofPairs texts = u := by
        refine ext_get? fun name => Option.ext fun s => ?_
        rw [htexts hread, hget]
      rw [ofMembers, hread, ← hsame]
      rfl

/-- If the members that arise from pairs are refused, then for the first one that gives no text,
and that is the least one. -/
theorem isLeastRefused_of_ofMembers {pairs : Members}
    (h : ofMembers (Entries.ofPairs pairs) = .error r) : IsLeastRefused pairs r := by
  have hread : fieldTexts (Entries.ofPairs pairs) = .error r := by
    cases hread : fieldTexts (Entries.ofPairs pairs) with
    | ok texts =>
      rw [ofMembers, hread] at h
      cases h
    | error refusal =>
      rw [ofMembers, hread] at h
      cases h
      rfl
  obtain ⟨before, name, v, after, hsplit, hbefore, hrefuses⟩ := exists_of_fieldTexts_eq_error hread
  have hordered := ordered_ofPairs pairs
  rw [hsplit] at hordered
  refine ⟨name, v, ?_, hrefuses, fun other w r' hlast hother => ?_⟩
  · rw [isLast_iff_mem_ofPairs, hsplit]
    exact List.mem_append_right before List.mem_cons_self
  rw [isLast_iff_mem_ofPairs, hsplit] at hlast
  rcases List.mem_append.mp hlast with hearlier | hmem
  · -- whatever comes before it gives a text
    obtain ⟨s, hs⟩ := hbefore _ hearlier
    exact absurd hs (not_gives_of_refuses hother)
  · rcases List.mem_cons.mp hmem with heq | hlater
    · rw [(Prod.mk.inj heq).1]
      exact List.le_refl _
    · have hlt := (List.pairwise_cons.mp (List.pairwise_append.mp hordered).2.1).1 _ hlater
      exact List.le_of_lt (Utf8.encode_lt_encode_iff.mpr (String.lt_iff.mp hlt))

/-- There is one least refusal: two of them have the same name, and one value counts. -/
theorem isLeastRefused_unique {pairs : Members} {r' : Refusal} (hr : IsLeastRefused pairs r)
    (hr' : IsLeastRefused pairs r') : r = r' := by
  obtain ⟨name, v, hlast, hrefuses, hle⟩ := hr
  obtain ⟨other, w, hother, hrefusesOther, hleOther⟩ := hr'
  have hbytes := List.le_antisymm (hle _ _ _ hother hrefusesOther) (hleOther _ _ _ hlast hrefuses)
  have hname : name = other := by
    rw [← String.toList_inj, ← Utf8.decode_encode name.toList, hbytes, Utf8.decode_encode]
  subst hname
  rw [← get?_ofPairs_eq_some_iff] at hlast hother
  obtain rfl := Option.some.inj (hlast.symm.trans hother)
  have hsame := fieldText_eq_error_iff.mpr hrefuses
  rw [fieldText_eq_error_iff.mpr hrefusesOther] at hsame
  exact (Except.error.inj hsame).symm

theorem ofMembers_eq_error_iff (pairs : Members) :
    ofMembers (Entries.ofPairs pairs) = .error r ↔ IsLeastRefused pairs r := by
  refine ⟨isLeastRefused_of_ofMembers, fun h => ?_⟩
  cases hread : ofMembers (Entries.ofPairs pairs) with
  | ok u =>
    obtain ⟨name, v, hlast, hrefuses, -⟩ := h
    obtain ⟨s, hs⟩ := ((ofMembers_eq_ok_iff pairs).mp hread).1 name v hlast
    exact absurd hs (not_gives_of_refuses hrefuses)
  | error refusal => rw [isLeastRefused_unique (isLeastRefused_of_ofMembers hread) h]

theorem decode_of_readObject {text : String} {ms : Members} (h : readObject text = .ok ms) :
    decode text = (ofMembers ms).mapError .refused := by
  rw [decode, h]
  rfl

/-- What an object is decoded to is what its members give. -/
theorem decode_of_isObject {text : String} {pairs : Members} (h : IsObject text pairs) :
    decode text = (ofMembers (Entries.ofPairs pairs)).mapError .refused :=
  decode_of_readObject (readObject_eq_ok_iff.mpr ⟨pairs, h, rfl⟩)

theorem exists_of_forall_not_isObject {text : String} (h : ∀ pairs, ¬IsObject text pairs) :
    ∃ fault, decode text = .error (.json fault) := by
  cases hread : readObject text with
  | error fault =>
    refine ⟨fault, ?_⟩
    rw [decode, hread]
    rfl
  | ok ms =>
    obtain ⟨pairs, hobject, -⟩ := readObject_eq_ok_iff.mp hread
    exact absurd hobject (h pairs)

theorem mapError_eq_ok_iff {members : Members} {u : Updates} :
    (ofMembers members).mapError DecodeFault.refused = .ok u ↔ ofMembers members = .ok u := by
  cases ofMembers members <;> simp [Except.mapError]

/-- An object is decoded just if all its members that count give a text, and to these texts. -/
theorem decode_eq_ok_iff {text : String} {pairs : Members} (h : IsObject text pairs) {u : Updates} :
    decode text = .ok u ↔ (∀ name v, IsLast pairs name v → ∃ s, Gives v s) ∧
      ∀ name s, u.get? name = some s ↔ ∃ v, IsLast pairs name v ∧ Gives v s := by
  rw [decode_of_isObject h, mapError_eq_ok_iff, ofMembers_eq_ok_iff]

/-- If all its members that count give a text, an object is not refused. -/
theorem exists_decode_of_forall_gives {text : String} {pairs : Members} (h : IsObject text pairs)
    (hgives : ∀ name v, IsLast pairs name v → ∃ s, Gives v s) : ∃ u, decode text = .ok u := by
  rw [decode_of_isObject h]
  cases hmembers : ofMembers (Entries.ofPairs pairs) with
  | ok u => exact ⟨u, rfl⟩
  | error r =>
    obtain ⟨name, v, hlast, hrefuses, -⟩ := isLeastRefused_of_ofMembers hmembers
    obtain ⟨s, hs⟩ := hgives name v hlast
    exact absurd hs (not_gives_of_refuses hrefuses)

/-- **Just the objects with fitting values are decoded.**  A text gives updates just if it is an
object in which the value that counts of each name gives a text; they have its names, and these
texts.  It is refused just if it is an object with other values that count, and then for the
least name of one.  Every other text is refused as JSON. -/
theorem decode_exact (text : String) :
    (∀ u, decode text = .ok u ↔ ∃ pairs, IsObject text pairs ∧
      (∀ name v, IsLast pairs name v → ∃ s, Gives v s) ∧
        ∀ name s, u.get? name = some s ↔ ∃ v, IsLast pairs name v ∧ Gives v s) ∧
    (∀ r, decode text = .error (.refused r) ↔
      ∃ pairs, IsObject text pairs ∧ IsLeastRefused pairs r) ∧
    ((∃ fault, decode text = .error (.json fault)) ↔ ¬∃ pairs, IsObject text pairs) := by
  have hrefused {pairs : Members} (hobject : IsObject text pairs) (r : Refusal) :
      decode text = .error (.refused r) ↔ ofMembers (Entries.ofPairs pairs) = .error r := by
    rw [decode_of_isObject hobject]
    cases ofMembers (Entries.ofPairs pairs) <;> simp [Except.mapError]
  by_cases hobject : ∃ pairs, IsObject text pairs
  · obtain ⟨pairs, hobject⟩ := hobject
    refine ⟨fun u => ⟨fun h => ?_, ?_⟩, fun r => ⟨fun h => ?_, ?_⟩, iff_of_false ?_ ?_⟩
    · exact ⟨pairs, hobject, (decode_eq_ok_iff hobject).mp h⟩
    · rintro ⟨pairs, hobject, hfits⟩
      exact (decode_eq_ok_iff hobject).mpr hfits
    · exact ⟨pairs, hobject, (ofMembers_eq_error_iff pairs).mp ((hrefused hobject r).mp h)⟩
    · rintro ⟨pairs, hobject, hleast⟩
      exact (hrefused hobject r).mpr ((ofMembers_eq_error_iff pairs).mpr hleast)
    · rintro ⟨fault, h⟩
      rw [decode_of_isObject hobject] at h
      cases hmembers : ofMembers (Entries.ofPairs pairs) <;> simp [hmembers, Except.mapError] at h
    · exact not_not_intro ⟨pairs, hobject⟩
  · obtain ⟨fault, hdecode⟩ := exists_of_forall_not_isObject (not_exists.mp hobject)
    rw [hdecode]
    refine ⟨fun u => iff_of_false nofun ?_, fun r => iff_of_false nofun ?_,
      iff_of_true ⟨fault, rfl⟩ hobject⟩
    · exact fun ⟨pairs, h, _⟩ => hobject ⟨pairs, h⟩
    · exact fun ⟨pairs, h, _⟩ => hobject ⟨pairs, h⟩

end Updates

end BadgeEntry.Form
