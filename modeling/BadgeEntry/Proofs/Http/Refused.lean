import BadgeEntry.Proofs.Site.Sendable
import BadgeEntry.Proofs.Text.Utf8Order
import Mathlib.Data.List.Nodup

/-!
# The field that is reported

A value can be sent unless one of its bytes is a control byte other than the tab.  Control
bytes stand for themselves in a text: the bytes of a character beyond ASCII all lie higher.
So it does not matter whether a value is looked at character by character or byte by byte.

The fields of a request are listed in the order of the bytes of their names, and they are
looked at in this order.  So the field that is reported is the least one among all that
cannot be sent.

## Main definitions

* `IsRefused` — a value with a control byte.
* `Field.bytes`, `InOrder` — the bytes of a name, and fields in the order of these.
* `IsFirstRefused` — the least field with a value that is refused.

## Main results

* `Utf8.mem_encode_iff_of_lt` — a low byte of a text is a character of it.
* `isSendable_eq_false_iff` — the values that cannot be sent.
* `firstInvalid?_eq_some_iff` — **the field that is reported is the least one that is
  refused.**
-/

namespace BadgeEntry

/-! ### Low bytes -/

namespace Utf8

variable {b : UInt8}

theorem le_of_mem_laterBytes {k v : Nat} (h : b ∈ laterBytes k v) : 0x80 ≤ b.toNat := by
  induction k with
  | zero => cases h
  | succ k ih =>
    rcases List.mem_cons.mp h with rfl | hrest
    · rw [UInt8.toNat_ofNat_of_lt' (by omega : v / 64 ^ k % 64 + 0x80 < 256)]
      omega
    · exact ih hrest

/-- A low byte of a character is the character itself. -/
theorem mem_utf8EncodeChar_iff_of_lt {c : Char} (hb : b.toNat < 0x80) :
    b ∈ String.utf8EncodeChar c ↔ c.toNat = b.toNat := by
  have hfirst := UInt8.toNat_ofNat_of_lt' (firstByte_lt (toNat_lt c))
  rw [utf8EncodeChar_eq, List.mem_cons]
  rcases laterCount_cases c.toNat with ⟨-, hcount, hvalue⟩ | ⟨hhigh, -, -, hvalue⟩ |
    ⟨hhigh, -, -, hvalue⟩ | ⟨hhigh, -, hvalue⟩
  · -- an ASCII character has no other byte
    rw [hcount, hvalue, laterBytes, ← UInt8.toNat_inj, ← hvalue, hfirst, hvalue]
    simp [eq_comm]
  all_goals
    refine iff_of_false ?_ (by omega)
    rintro (rfl | hlater)
    · rw [hfirst, hvalue] at hb
      omega
    · have hle := le_of_mem_laterBytes hlater
      omega

/-- **A low byte of a text is a character of it.** -/
theorem mem_encode_iff_of_lt {cs : List Char} (hb : b.toNat < 0x80) :
    b ∈ encode cs ↔ ∃ c ∈ cs, c.toNat = b.toNat := by
  rw [encode, List.mem_flatMap]
  exact exists_congr fun c => and_congr_right fun _ => mem_utf8EncodeChar_iff_of_lt hb

end Utf8

namespace Http

/-! ### Values that are refused -/

/-- Whether a byte is a control byte other than the tab. -/
def IsControl (b : UInt8) : Prop :=
  b.toNat < 0x20 ∧ b.toNat ≠ 0x09 ∨ b.toNat = 0x7F

instance : DecidablePred IsControl := fun b =>
  inferInstanceAs (Decidable (b.toNat < 0x20 ∧ b.toNat ≠ 0x09 ∨ b.toNat = 0x7F))

/-- Whether a value has a control byte other than the tab. -/
def IsRefused (value : String) : Prop :=
  ∃ b ∈ Utf8.encode value.toList, IsControl b

theorem isSendableChar_eq_false_iff {c : Char} : isSendableChar c = false ↔
    c.toNat < 0x20 ∧ c.toNat ≠ 0x09 ∨ c.toNat = 0x7F := by
  have htab : c = '\t' ↔ c.toNat = 0x09 := Char.toNat_inj.symm
  rw [isSendableChar, Bool.or_eq_false_iff, beq_eq_false_iff_ne, ne_eq, htab, Bool.and_eq_false_iff,
    decide_eq_false_iff_not, bne_eq_false_iff_eq]
  omega

/-- **The values that cannot be sent** are those with a control byte. -/
theorem isSendable_eq_false_iff {value : String} : isSendable value = false ↔ IsRefused value := by
  have hchars : isSendable value = false ↔ ∃ c ∈ value.toList, isSendableChar c = false := by
    rw [isSendable, List.all_eq_false]
    exact exists_congr fun c => and_congr_right fun _ => Bool.not_eq_true (isSendableChar c) ▸ .rfl
  rw [hchars]
  constructor
  · rintro ⟨c, hc, hcontrol⟩
    rw [isSendableChar_eq_false_iff] at hcontrol
    have hbyte : (UInt8.ofNat c.toNat).toNat = c.toNat :=
      UInt8.toNat_ofNat_of_lt' (by omega : c.toNat < 256)
    refine ⟨UInt8.ofNat c.toNat, ?_, ?_⟩
    · exact (Utf8.mem_encode_iff_of_lt (by omega)).mpr ⟨c, hc, hbyte.symm⟩
    · rwa [IsControl, hbyte]
  · rintro ⟨b, hb, hcontrol⟩
    have hlow : b.toNat < 0x80 := by
      unfold IsControl at hcontrol
      omega
    obtain ⟨c, hc, hbyte⟩ := (Utf8.mem_encode_iff_of_lt hlow).mp hb
    refine ⟨c, hc, isSendableChar_eq_false_iff.mpr ?_⟩
    rwa [hbyte]

/-! ### The least field -/

/-- The bytes of the name of a field. -/
def Field.bytes (f : Field) : List UInt8 :=
  Utf8.encode f.name.toList

/-- Whether fields are listed in the order of the bytes of their names. -/
def InOrder (fields : Fields) : Prop :=
  (fields.map fun f => f.1.bytes).Pairwise (· < ·)

/-- The least field of a request with a value that is refused. -/
structure IsFirstRefused (fields : Fields) (f : Field) : Prop where
  refused : ∃ value, (f, value) ∈ fields ∧ IsRefused value
  least : ∀ g value, (g, value) ∈ fields → IsRefused value → f.bytes ≤ g.bytes

variable {fields : Fields} {f : Field}

theorem isFirstRefused_of_firstInvalid? (horder : InOrder fields)
    (h : firstInvalid? fields = some f) : IsFirstRefused fields f := by
  obtain ⟨⟨f, value⟩, hfind, rfl⟩ := Option.map_eq_some_iff.mp h
  obtain ⟨hinvalid, before, later, rfl, hbefore⟩ := List.find?_eq_some_iff_append.mp hfind
  rw [Bool.not_eq_true', isSendable_eq_false_iff] at hinvalid
  have hmem : (f, value) ∈ before ++ (f, value) :: later :=
    List.mem_append_right _ List.mem_cons_self
  refine ⟨⟨value, hmem, hinvalid⟩, fun g other hg hother => ?_⟩
  rcases List.mem_append.mp hg with hearlier | hg
  · -- whatever is listed before it can be sent
    have hsendable := hbefore _ hearlier
    rw [isSendable_eq_false_iff.mpr hother] at hsendable
    cases hsendable
  · rw [InOrder, List.map_append, List.map_cons, List.pairwise_append, List.pairwise_cons] at horder
    rcases List.mem_cons.mp hg with heq | hlater
    · rw [(Prod.mk.inj heq).1]
      exact List.le_refl _
    · exact List.le_of_lt (horder.2.1.1 _ (List.mem_map_of_mem hlater))

/-- There is one least field: two of them have the same name, and no name is listed twice. -/
theorem IsFirstRefused.unique {g : Field} (horder : InOrder fields) (hf : IsFirstRefused fields f)
    (hg : IsFirstRefused fields g) : f = g := by
  obtain ⟨value, hmem, hrefused⟩ := hf.refused
  obtain ⟨other, hother, hrefusedOther⟩ := hg.refused
  have hbytes : f.bytes = g.bytes :=
    List.le_antisymm (hf.least g other hother hrefusedOther) (hg.least f value hmem hrefused)
  have hnodup : (fields.map fun f => f.1.bytes).Nodup := by
    refine List.Pairwise.imp ?_ horder
    rintro a _ hlt rfl
    exact List.lt_irrefl a hlt
  have hsame := List.inj_on_of_nodup_map hnodup hmem hother hbytes
  exact (Prod.mk.inj hsame).1

/-- **The field that is reported is the least one that is refused.** -/
theorem firstInvalid?_eq_some_iff (horder : InOrder fields) :
    firstInvalid? fields = some f ↔ IsFirstRefused fields f := by
  refine ⟨isFirstRefused_of_firstInvalid? horder, fun h => ?_⟩
  cases hfirst : firstInvalid? fields with
  | none =>
    obtain ⟨value, hmem, hrefused⟩ := h.refused
    have hsendable := firstInvalid?_eq_none_iff.mp hfirst _ hmem
    rw [isSendable_eq_false_iff.mpr hrefused] at hsendable
    cases hsendable
  | some g => rw [(isFirstRefused_of_firstInvalid? horder hfirst).unique horder h]

end Http

/-! ### The fields of the two requests -/

namespace Site

open Http

/-- The fields with which a page is read are in order. -/
theorem inOrder_readFields (s : Settings) (login : String) : InOrder (s.readFields login) := by
  change ([Field.accept, .cookie, .userAgent].map Field.bytes).Pairwise (· < ·)
  decide

/-- The fields with which a form is submitted are in order. -/
theorem inOrder_writeFields (s : Settings) (login : String) (csrf : Option String) :
    InOrder (s.writeFields login csrf) := by
  cases csrf with
  | none =>
    change ([Field.accept, .contentType, .cookie, .userAgent].map Field.bytes).Pairwise (· < ·)
    decide
  | some token =>
    change ([Field.accept, .contentType, .cookie, .userAgent, .csrfToken].map
      Field.bytes).Pairwise (· < ·)
    decide

end Site

end BadgeEntry
