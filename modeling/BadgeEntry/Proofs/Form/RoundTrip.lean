import BadgeEntry.Form.Updates
import BadgeEntry.Proofs.Text.Utf8Order
import Mathlib.Data.List.Basic

/-!
# A submitted form is read back

Inside a name or a value everything that could be taken for a sign of the form is coded:
the ampersand, the equals sign, the plus sign and the percent sign.  So a form can be
parted at its signs, and each part is read back character by character, whatever it holds.

The token of a form stands outside the scope of the fields, and a field cannot leave its
scope.  So no field can be taken for the token.

## Main definitions

* `IsFormChar` — the characters that a name or a value is written with.

## Main results

* `decodeText_encodeText` — a name or a value is read back.
* `decodePairs_encodePairs` — a form is read back.
* `Updates.decodePairs_encode` — **what a submitted form says.**
-/

namespace BadgeEntry.Form

open Text

/-! ### Characters -/

/-- The characters that names and values are written with: the plain ones, the plus sign
for a space, and the percent sign of a code. -/
def IsFormChar (c : Char) : Prop :=
  isPlain c = true ∨ c = '+' ∨ c = '%'

theorem isPlain_upperHexDigit {n : Nat} (h : n < 16) : isPlain (upperHexDigit n) = true := by
  have hall : ∀ n : Fin 16, isPlain (upperHexDigit n) = true := by decide
  exact hall ⟨n, h⟩

theorem isFormChar_of_mem_percentByte {b : UInt8} {c : Char} (h : c ∈ percentByte b) :
    IsFormChar c := by
  have hb : b.toNat < 256 := b.toNat_lt
  simp only [percentByte, List.mem_cons, List.not_mem_nil, or_false] at h
  rcases h with rfl | rfl | rfl
  · exact Or.inr (Or.inr rfl)
  · exact Or.inl (isPlain_upperHexDigit (by omega))
  · exact Or.inl (isPlain_upperHexDigit (by omega))

theorem isFormChar_of_mem_encodeText {cs : List Char} {c : Char} (h : c ∈ encodeText cs) :
    IsFormChar c := by
  obtain ⟨d, -, hd⟩ := List.mem_flatMap.mp h
  unfold encodeChar percentChar at hd
  split at hd
  · exact Or.inr (Or.inl (List.mem_singleton.mp hd))
  · split at hd
    · next hplain =>
      rw [List.mem_singleton.mp hd]
      rw [Bool.and_eq_true, Bool.not_not] at hplain
      exact Or.inl hplain.2
    · obtain ⟨b, -, hb⟩ := List.mem_flatMap.mp hd
      exact isFormChar_of_mem_percentByte hb

/-- No sign of the form stands in a name or a value. -/
theorem notMem_encodeText {sign : Char} (h : ¬IsFormChar sign) (cs : List Char) :
    sign ∉ encodeText cs :=
  fun hmem => h (isFormChar_of_mem_encodeText hmem)

theorem not_isFormChar_ampersand : ¬IsFormChar '&' := by
  unfold IsFormChar
  decide

theorem not_isFormChar_equals : ¬IsFormChar '=' := by
  unfold IsFormChar
  decide

/-! ### Names and values -/

/-- A plus sign is read as a space. -/
def spaced (c : Char) : Char :=
  if c = '+' then ' ' else c

/-- No plus sign stands in a code. -/
theorem map_spaced_percentByte (b : UInt8) : (percentByte b).map spaced = percentByte b := by
  have hall : ∀ n : Fin 16, spaced (upperHexDigit n) = upperHexDigit n := by decide
  have hb : b.toNat < 256 := b.toNat_lt
  have hhigh := hall ⟨b.toNat / 16, by omega⟩
  have hlow := hall ⟨b.toNat % 16, by omega⟩
  simp only [percentByte, List.map_cons, List.map_nil, hhigh, hlow]
  rfl

/-- Coded bytes are read back, whatever follows. -/
theorem percentDecode_flatMap_percentByte (bytes rest : List UInt8) :
    percentDecode (Utf8.encode ((bytes.flatMap percentByte).map spaced) ++ rest) =
      bytes ++ percentDecode rest := by
  induction bytes with
  | nil => rfl
  | cons b bytes ih =>
    rw [List.flatMap_cons, List.map_append, map_spaced_percentByte, Utf8.encode_append,
      List.append_assoc, percentDecode_percentByte, ih]
    rfl

/-- An ASCII character is one byte long. -/
theorem utf8EncodeChar_of_lt {c : Char} (h : c.toNat < 0x80) :
    String.utf8EncodeChar c = [UInt8.ofNat c.toNat] :=
  if_pos (Nat.le_of_lt_succ h)

/-- A plain character is neither a plus sign nor a percent sign. -/
theorem ne_of_isPlain {c : Char} (h : isPlain c = true) : c ≠ '+' ∧ c ≠ '%' := by
  constructor
  · rintro rfl
    exact absurd h (by decide)
  · rintro rfl
    exact absurd h (by decide)

/-- One written character is read back, whatever follows. -/
theorem percentDecode_encodeChar (c : Char) (rest : List UInt8) :
    percentDecode (Utf8.encode ((encodeChar c).map spaced) ++ rest) =
      String.utf8EncodeChar c ++ percentDecode rest := by
  unfold encodeChar percentChar
  split
  · next hspace =>
    -- a space is written as a plus sign and read as a space again
    rw [hspace]
    exact percentDecode_cons_of_ne (by decide) rest
  · split
    · next hplain =>
      rw [Bool.and_eq_true, Bool.not_not, decide_eq_true_eq] at hplain
      obtain ⟨hascii, hplain⟩ := hplain
      obtain ⟨hplus, hpercent⟩ := ne_of_isPlain hplain
      have hbyte : UInt8.ofNat c.toNat ≠ 0x25 := by
        intro hbyte
        have hnat := congrArg UInt8.toNat hbyte
        rw [UInt8.toNat_ofNat_of_lt' (Nat.lt_trans hascii (by decide))] at hnat
        exact hpercent (Char.toNat_inj.mp hnat)
      simp only [List.map_cons, List.map_nil, spaced, if_neg hplus, Utf8.encode_cons,
        Utf8.encode_nil, List.append_nil, utf8EncodeChar_of_lt hascii, List.cons_append,
        List.nil_append]
      exact percentDecode_cons_of_ne hbyte rest
    · exact percentDecode_flatMap_percentByte _ rest

/-- A written name or value is read back, whatever follows. -/
theorem percentDecode_encodeText (cs : List Char) (rest : List UInt8) :
    percentDecode (Utf8.encode ((encodeText cs).map spaced) ++ rest) =
      Utf8.encode cs ++ percentDecode rest := by
  induction cs with
  | nil => rfl
  | cons c cs ih =>
    unfold encodeText at ih ⊢
    rw [List.flatMap_cons, List.map_append, Utf8.encode_append, List.append_assoc,
      percentDecode_encodeChar, ih, Utf8.encode_cons, List.append_assoc]

/-- **A name or a value is read back.** -/
theorem decodeText_encodeText (cs : List Char) : decodeText (encodeText cs) = String.ofList cs := by
  have hbytes := percentDecode_encodeText cs []
  rw [List.append_nil, percentDecode, List.append_nil] at hbytes
  have hdecode : decodeText (encodeText cs) =
      String.ofList (Utf8.decode (percentDecode (Utf8.encode ((encodeText cs).map spaced)))) := rfl
  rw [hdecode, hbytes, Utf8.decode_encode]

/-! ### Pairs -/

theorem decodePair_encodePair (pair : String × String) : decodePair (encodePair pair) = pair := by
  have hname : ∀ c ∈ encodeText pair.1.toList, (c != '=') = true := by
    intro c hc
    rw [bne_iff_ne]
    rintro rfl
    exact notMem_encodeText not_isFormChar_equals _ hc
  unfold decodePair encodePair
  rw [List.takeWhile_append_of_pos hname, List.dropWhile_append_of_pos hname,
    List.takeWhile_cons_of_neg (by decide), List.dropWhile_cons_of_neg (by decide),
    List.append_nil, List.drop_succ_cons, List.drop_zero, decodeText_encodeText,
    decodeText_encodeText, String.ofList_toList, String.ofList_toList]

theorem encodePair_ne_nil (pair : String × String) : encodePair pair ≠ [] :=
  List.append_ne_nil_of_right_ne_nil _ (List.cons_ne_nil _ _)

theorem notMem_encodePair (pair : String × String) : '&' ∉ encodePair pair := by
  unfold encodePair
  rw [List.mem_append, List.mem_cons]
  rintro (hname | hsign | hvalue)
  · exact notMem_encodeText not_isFormChar_ampersand _ hname
  · exact absurd hsign (by decide)
  · exact notMem_encodeText not_isFormChar_ampersand _ hvalue

/-- The pairs of a form have ampersands between them. -/
theorem encodePairs_eq_intercalate (pairs : List (String × String)) :
    encodePairs pairs = ['&'].intercalate (pairs.map encodePair) := by
  induction pairs with
  | nil => rfl
  | cons pair rest ih =>
    cases rest with
    | nil => simp [encodePairs, List.intercalate]
    | cons next rest =>
      rw [encodePairs, ih]
      simp [List.intercalate]

/-- **A form is read back.** -/
theorem decodePairs_encodePairs (pairs : List (String × String)) :
    decodePairs (encodePairs pairs) = pairs := by
  cases pairs with
  | nil => rfl
  | cons pair rest =>
    have hne : (pair :: rest).map encodePair ≠ [] := List.cons_ne_nil _ _
    have hsign : ∀ piece ∈ (pair :: rest).map encodePair, '&' ∉ piece := by
      intro piece hpiece
      obtain ⟨p, -, rfl⟩ := List.mem_map.mp hpiece
      exact notMem_encodePair p
    have hfull : ∀ piece ∈ (pair :: rest).map encodePair, (!piece.isEmpty) = true := by
      intro piece hpiece
      obtain ⟨p, -, rfl⟩ := List.mem_map.mp hpiece
      rw [Bool.not_eq_true', List.isEmpty_eq_false_iff]
      exact encodePair_ne_nil p
    have hback : decodePair ∘ encodePair = id := funext decodePair_encodePair
    rw [decodePairs, encodePairs_eq_intercalate, List.splitOn_intercalate '&' hsign hne,
      List.filter_eq_self.mpr hfull, List.map_map, hback, List.map_id]

/-! ### Updates -/

namespace Updates

/-- A field cannot leave its scope. -/
theorem scopedName_ne_tokenField (field : String) : scopedName projectScope field ≠ tokenField := by
  intro h
  have hlist := congrArg String.toList h
  unfold scopedName at hlist
  rw [String.toList_append, String.toList_append, String.toList_append] at hlist
  -- the names differ in their first letter
  cases hlist

theorem scopedName_inj {scope field other : String}
    (h : scopedName scope field = scopedName scope other) : field = other := by
  have hlist := congrArg String.toList h
  unfold scopedName at hlist
  simp only [String.toList_append, List.append_assoc, List.append_cancel_left_eq,
    List.append_cancel_right_eq] at hlist
  exact String.toList_inj.mp hlist

/-- The token is all that stands outside the scope of the fields. -/
theorem filter_pairs (u : Updates) (token : Option String) :
    (u.pairs token).filter (·.1 = tokenField) = token.toList.map fun t => (tokenField, t) := by
  have hfields : (u.fields.map fun field => (scopedName projectScope field.1, field.2)).filter
      (·.1 = tokenField) = [] := by
    rw [List.filter_eq_nil_iff]
    intro pair hpair
    obtain ⟨field, -, rfl⟩ := List.mem_map.mp hpair
    rw [decide_eq_true_eq]
    exact scopedName_ne_tokenField field.1
  rw [pairs, List.filter_append, hfields, List.nil_append, List.filter_eq_self]
  intro pair hpair
  obtain ⟨t, -, rfl⟩ := List.mem_map.mp hpair
  exact decide_eq_true rfl

/-- The pairs that are submitted show the fields and the token. -/
theorem pairs_inj {u v : Updates} {token other : Option String}
    (h : u.pairs token = v.pairs other) : u = v ∧ token = other := by
  have htoken : token = other := by
    have hfilter := congrArg (List.filter (·.1 = tokenField)) h
    rw [filter_pairs, filter_pairs] at hfilter
    cases token with
    | none =>
      cases other with
      | none => rfl
      | some t => cases hfilter
    | some s =>
      cases other with
      | none => cases hfilter
      | some t => rw [(Prod.mk.inj (List.cons.inj hfilter).1).2]
  refine ⟨?_, htoken⟩
  unfold pairs at h
  rw [htoken, List.append_cancel_right_eq] at h
  have hinj : Function.Injective fun field : String × String =>
      (scopedName projectScope field.1, field.2) := by
    intro field other hpair
    obtain ⟨hname, hvalue⟩ := Prod.mk.inj hpair
    exact Prod.ext (scopedName_inj hname) hvalue
  have hfields : u.fields = v.fields := List.map_injective_iff.mpr hinj h
  cases u
  cases v
  cases hfields
  rfl

/-- The names of the fields are in the order of their bytes, and none occurs twice. -/
theorem pairwise_encode_lt (u : Updates) :
    (u.fields.map fun field => Utf8.encode field.1.toList).Pairwise (· < ·) := by
  rw [List.pairwise_map]
  refine u.ordered.imp fun {a b} hlt => ?_
  exact Utf8.encode_lt_encode_iff.mpr (String.lt_iff.mp hlt)

theorem decodePairs_toList_encode (u : Updates) (token : Option String) :
    decodePairs (u.encode token).toList = u.pairs token := by
  rw [encode, String.toList_ofList, decodePairs_encodePairs]

/-- The characters of a form. -/
theorem mem_encodePairs {pairs : List (String × String)} {c : Char} (h : c ∈ encodePairs pairs) :
    IsFormChar c ∨ c = '=' ∨ c = '&' := by
  have hpair {pair : String × String} (hc : c ∈ encodePair pair) : IsFormChar c ∨ c = '=' := by
    unfold encodePair at hc
    rw [List.mem_append, List.mem_cons] at hc
    rcases hc with hname | hsign | hvalue
    · exact Or.inl (isFormChar_of_mem_encodeText hname)
    · exact Or.inr hsign
    · exact Or.inl (isFormChar_of_mem_encodeText hvalue)
  induction pairs with
  | nil => cases h
  | cons pair rest ih =>
    cases rest with
    | nil => exact (hpair h).imp_right Or.inl
    | cons next rest =>
      rw [encodePairs, List.mem_append, List.mem_cons] at h
      rcases h with hfirst | hsign | hrest
      · exact (hpair hfirst).imp_right Or.inl
      · exact Or.inr (Or.inr hsign)
      · exact ih hrest

/-- **What a submitted form says.**  It is read back as the fields in their scope, each one
once and in the order of the bytes of their names, and after them the token outside it, if
there is one; nothing else says to be the token.  So a form shows what was submitted with
it.  It is written in ASCII letters, digits and eight signs. -/
theorem decodePairs_encode (u : Updates) (token : Option String) :
    let body := u.encode token
    decodePairs body.toList =
        u.fields.map (fun field => ("project[" ++ field.1 ++ "]", field.2)) ++
          token.toList.map (fun t => ("authentication_token", t)) ∧
      (u.fields.map fun field => Utf8.encode field.1.toList).Pairwise (· < ·) ∧
      (decodePairs body.toList).filter (·.1 = "authentication_token") =
        token.toList.map (fun t => ("authentication_token", t)) ∧
      (∀ v other, body = encode v other → u = v ∧ token = other) ∧
      ∀ c ∈ body.toList, c.isAlphanum = true ∨ c ∈ "*-._+%=&".toList := by
  intro body
  have hpairs : decodePairs body.toList = u.pairs token := decodePairs_toList_encode u token
  refine ⟨hpairs, u.pairwise_encode_lt, ?_, fun v other hsame => ?_, fun c hc => ?_⟩
  · rw [hpairs]
    exact u.filter_pairs token
  · rw [hsame, decodePairs_toList_encode] at hpairs
    exact pairs_inj hpairs.symm
  · rw [show body.toList = encodePairs (u.pairs token) from String.toList_ofList] at hc
    have hsigns : "*-._+%=&".toList = ['*', '-', '.', '_', '+', '%', '=', '&'] := rfl
    rw [hsigns]
    rcases mem_encodePairs hc with (hplain | rfl | rfl) | rfl | rfl
    · simp only [isPlain, Bool.or_eq_true, beq_iff_eq] at hplain
      rcases hplain with (((hletter | rfl) | rfl) | rfl) | rfl
      · exact Or.inl hletter
      all_goals exact Or.inr (by decide)
    all_goals exact Or.inr (by decide)

end Updates

end BadgeEntry.Form
