import BadgeEntry.Proofs.Text.Percent
import BadgeEntry.Proofs.Url.Numbers
import BadgeEntry.Url.Reader

/-!
# Hosts are read back

A host of the web that was read is written in a way in which it is read again: a name is
in small letters and has no percent signs, so nothing of it is changed or decoded, and the
numbers are read back digit by digit.  Nothing in a written host is taken for the end of it
or for the end of the authority.

## Main definitions

* `isHostChar` — the characters of hosts.
* `Host.IsWritten` — a host that is read back.

## Main results

* `readWebHost_text` — a name is taken as it is written.
* `isWritten_of_readWebHost` — **a host that was read is read back.**
-/

namespace BadgeEntry.Url

open Text Decimal

/-! ### Names -/

section
variable {c : Char} (h : isNameChar c = true)
include h

theorem lt_of_isNameChar : c.toNat < 0x80 := by
  unfold isNameChar at h
  simp only [Bool.and_eq_true, decide_eq_true_eq] at h
  omega

theorem toLower_of_isNameChar : c.toLower = c := by
  unfold isNameChar at h
  simp only [Bool.and_eq_true, beq_iff_eq] at h
  exact h.2

end

theorem AsciiName.ofText?_text (name : AsciiName) : AsciiName.ofText? name.text = some name := by
  unfold AsciiName.ofText?
  rw [dif_pos ⟨name.chars, name.isName⟩]

theorem AsciiName.isNameChar_of_mem (name : AsciiName) :
    ∀ c ∈ name.text, isNameChar c = true :=
  List.all_eq_true.mp name.chars

/-- A name is read from its own bytes. -/
theorem readName?_text [NameMapping] (name : AsciiName) :
    readName? (name.text.map fun c => UInt8.ofNat c.toNat) = some name := by
  have hbyte : ∀ c ∈ name.text, (UInt8.ofNat c.toNat).toNat = c.toNat := by
    intro c hc
    have hsmall := lt_of_isNameChar (name.isNameChar_of_mem c hc)
    exact UInt8.toNat_ofNat_of_lt' (Nat.lt_trans hsmall (by decide))
  have hascii : (name.text.map fun c => UInt8.ofNat c.toNat).all (·.toNat < 0x80) = true := by
    rw [List.all_eq_true, List.forall_mem_map]
    intro c hc
    rw [hbyte c hc, decide_eq_true_eq]
    exact lt_of_isNameChar (name.isNameChar_of_mem c hc)
  -- the letters of a name are small already
  have hback : (name.text.map fun c => UInt8.ofNat c.toNat).map
      (fun b => (Char.ofNat b.toNat).toLower) = name.text := by
    rw [List.map_map]
    refine (List.map_congr_left fun c hc => ?_).trans (List.map_id name.text)
    change (Char.ofNat (UInt8.ofNat c.toNat).toNat).toLower = c
    rw [hbyte c hc, Char.ofNat_toNat, toLower_of_isNameChar (name.isNameChar_of_mem c hc)]
  unfold readName?
  rw [if_pos hascii, hback, name.ofText?_text]

/-- **A name is taken as it is written.** -/
theorem readWebHost_text [NameMapping] (name : AsciiName) :
    readWebHost name.text = hostOfName name.text := by
  have hbytes : percentDecode (Utf8.encode name.text) =
      name.text.map fun c => UInt8.ofNat c.toNat := by
    rw [encode_of_ascii fun c hc => lt_of_isNameChar (name.isNameChar_of_mem c hc)]
    -- without a percent sign nothing is decoded
    refine percentDecode_eq_self ?_
    rw [List.forall_mem_map]
    intro c hc hpercent
    have hsmall := lt_of_isNameChar (name.isNameChar_of_mem c hc)
    obtain rfl : c = '%' := by
      rw [← Char.ofNat_toNat c, ← UInt8.toNat_ofNat_of_lt' (Nat.lt_trans hsmall (by decide)),
        hpercent]
      rfl
    exact absurd (name.isNameChar_of_mem '%' hc) (by decide)
  have hopen : readBracketed? name.text = none := by
    unfold readBracketed?
    split
    · next rest htext =>
      have hbracket := name.isNameChar_of_mem '['
      rw [htext] at hbracket
      exact absurd (hbracket List.mem_cons_self) (by decide)
    · rfl
  unfold readWebHost
  rw [hopen]
  dsimp only
  rw [hbytes, readName?_text]

/-! ### Numbers -/

theorem exists_digitChar {n : Nat} {c : Char} (h : c ∈ digits n) :
    ∃ d : Fin 10, c = (d : Nat).digitChar := by
  obtain ⟨d, hd, rfl⟩ := exists_of_mem_toDigits (by decide) h
  exact ⟨⟨d, hd⟩, rfl⟩

theorem isNameChar_of_mem_digits {n : Nat} {c : Char} (h : c ∈ digits n) :
    isNameChar c = true := by
  have hall : ∀ d : Fin 10, isNameChar (d : Nat).digitChar = true := by decide
  obtain ⟨d, rfl⟩ := exists_digitChar h
  exact hall d

theorem isNameChar_of_mem_renderIpv4 {n : Nat} {c : Char} (h : c ∈ renderIpv4 n) :
    isNameChar c = true := by
  have hpoint : isNameChar '.' = true := by decide
  unfold renderIpv4 at h
  simp only [List.append_assoc, List.cons_append, List.mem_append, List.mem_cons] at h
  rcases h with h | rfl | h | rfl | h | rfl | h
  · exact isNameChar_of_mem_digits h
  · exact hpoint
  · exact isNameChar_of_mem_digits h
  · exact hpoint
  · exact isNameChar_of_mem_digits h
  · exact hpoint
  · exact isNameChar_of_mem_digits h

/-- A label of digits stands for itself. -/
theorem readLabel?_digits (n : Nat) : Domain.readLabel? (digits n) = some (digits n) := by
  unfold Domain.readLabel?
  rw [if_neg]
  intro hmark
  obtain ⟨rest, hrest⟩ := List.isPrefixOf_iff_prefix.mp hmark
  have hfirst : 'x' ∈ digits n := by
    rw [← hrest]
    exact List.mem_cons_self
  exact absurd (isDigit_of_mem_digits hfirst) (by decide)

/-- Digits do not turn the direction of a name. -/
theorem not_turns_of_mem_digits {n : Nat} {k : Domain.Kind}
    (h : k ∈ (digits n).filterMap Domain.kind?) : Domain.turns k = false := by
  have hall : ∀ d : Fin 10, (Domain.kind? (d : Nat).digitChar).any Domain.turns = false := by
    decide +kernel
  obtain ⟨c, hc, hk⟩ := List.mem_filterMap.mp h
  obtain ⟨d, rfl⟩ := exists_digitChar hc
  have hd := hall d
  rwa [hk, Option.any_some] at hd

/-- Numbers with points between them are a name. -/
theorem isName_renderIpv4 (n : Nat) : Domain.isName (renderIpv4 n) = true := by
  have hlabels : ((ipv4Bytes n).map digits).mapM Domain.readLabel? =
      some ((ipv4Bytes n).map digits) := by
    have hall : ∀ label ∈ (ipv4Bytes n).map digits,
        Domain.readLabel? (id label) = some label := by
      rw [List.forall_mem_map]
      exact fun b _ => readLabel?_digits b
    have hread := mapM_map_eq_some hall
    rwa [List.map_id] at hread
  unfold Domain.isName Domain.areLabels
  rw [splitOn_renderIpv4, hlabels]
  dsimp only
  rw [Bool.or_eq_true, Bool.not_eq_true', List.any_eq_false]
  left
  intro kinds hkinds
  rw [List.map_map] at hkinds
  obtain ⟨b, -, rfl⟩ := List.mem_map.mp hkinds
  rw [Bool.not_eq_true, List.any_eq_false]
  intro k hk
  rw [Bool.not_eq_true]
  exact not_turns_of_mem_digits hk

theorem endsInNumber_renderIpv4 (n : Nat) : endsInNumber (renderIpv4 n) = true := by
  unfold endsInNumber
  rw [labels_renderIpv4]
  have hdigits : (digits (n % 0x100)).all Char.isDigit = true :=
    List.all_eq_true.mpr fun c hc => isDigit_of_mem_digits hc
  have hne : (digits (n % 0x100)).isEmpty = false := List.isEmpty_eq_false_iff.mpr (digits_ne_nil _)
  simp [ipv4Bytes, hdigits, hne]

/-- **An IPv4 host is read back.** -/
theorem readWebHost_renderIpv4 [NameMapping] {n : Nat} (h : n < 0x100000000) :
    readWebHost (renderIpv4 n) = .ok (.ipv4 n) := by
  have hne : (renderIpv4 n).isEmpty = false := by
    rw [List.isEmpty_eq_false_iff]
    intro hnil
    have hsplit := splitOn_renderIpv4 n
    rw [hnil, List.splitOn_nil] at hsplit
    exact digits_ne_nil _ (List.cons.inj hsplit).1.symm
  have hread := readWebHost_text ⟨renderIpv4 n,
    List.all_eq_true.mpr fun c hc => isNameChar_of_mem_renderIpv4 hc, isName_renderIpv4 n⟩
  rw [hread, hostOfName, hne, endsInNumber_renderIpv4, readIpv4?_renderIpv4 h]
  rfl

/-- **An IPv6 host is read back.** -/
theorem readWebHost_renderIpv6 [NameMapping] {ps : List Nat} (h : IsIpv6 ps) :
    readWebHost ('[' :: renderIpv6 ps ++ [']']) = .ok (.ipv6 ps) := by
  have hopen : readBracketed? ('[' :: renderIpv6 ps ++ [']']) = some (.ok (.ipv6 ps)) := by
    rw [List.cons_append, readBracketed?]
    rw [List.getLast?_concat, if_pos rfl, List.dropLast_concat, readIpv6?_renderIpv6 h]
  unfold readWebHost
  rw [hopen]

/-! ### Written hosts -/

/-- The characters of hosts: visible ones, but for those that end an authority or part it. -/
def isHostChar (c : Char) : Bool :=
  0x20 < c.toNat && c.toNat < 0x80 && !(['/', '?', '#', '@', '\\'].contains c)

theorem isHostChar_of_isNameChar {c : Char} (h : isNameChar c = true) : isHostChar c = true :=
  of_ascii (P := fun c => isNameChar c = true → isHostChar c = true) (by decide +kernel)
    (lt_of_isNameChar h) h

/-- A host that is read back: it ends before a colon and is itself the host that was
written. -/
structure Host.IsWritten [NameMapping] (h : Host) : Prop where
  read : readWebHost h.render = .ok h
  nonempty : h.render ≠ []
  chars : ∀ c ∈ h.render, isHostChar c = true
  taken : ∀ tail, tail.head?.all (· == ':') = true →
    takeHost false (h.render ++ tail) = (h.render, tail)

theorem takeHost_of_colon {tail : List Char} (h : tail.head?.all (· == ':') = true) :
    takeHost false tail = ([], tail) := by
  cases tail with
  | nil => rfl
  | cons c tail =>
    obtain rfl : c = ':' := eq_of_beq h
    rfl

theorem takeHost_cons {inside : Bool} {c : Char} {rest : List Char} (h : ¬(c = ':' ∧ !inside)) :
    takeHost inside (c :: rest) =
      let after := takeHost (if c = '[' then true else if c = ']' then false else inside) rest
      (c :: after.1, after.2) := by
  rw [takeHost, if_neg h]

/-- A name ends before a colon. -/
theorem takeHost_of_isNameChar {cs tail : List Char} (hcs : ∀ c ∈ cs, isNameChar c = true)
    (htail : tail.head?.all (· == ':') = true) : takeHost false (cs ++ tail) = (cs, tail) := by
  induction cs with
  | nil => exact takeHost_of_colon htail
  | cons c cs ih =>
    rw [List.forall_mem_cons] at hcs
    obtain ⟨hc, hcs⟩ := hcs
    have hcolon : c ≠ ':' := by
      rintro rfl
      exact absurd hc (by decide)
    have hopen : c ≠ '[' := by
      rintro rfl
      exact absurd hc (by decide)
    rw [List.cons_append, takeHost_cons fun h => hcolon h.1, if_neg hopen, ite_self, ih hcs]

/-- A colon in brackets does not end a host. -/
theorem takeHost_inside {cs tail : List Char} (hcs : ']' ∉ cs)
    (htail : tail.head?.all (· == ':') = true) :
    takeHost true (cs ++ ']' :: tail) = (cs ++ [']'], tail) := by
  induction cs with
  | nil =>
    rw [List.nil_append, takeHost_cons fun h => absurd h.1 (by decide)]
    simp [takeHost_of_colon htail]
  | cons c cs ih =>
    rw [List.mem_cons, not_or] at hcs
    rw [List.cons_append, takeHost_cons fun h => absurd h.2 (by decide),
      if_neg (Ne.symm hcs.1), ite_self, ih hcs.2]
    rfl

theorem isWritten_name [NameMapping] {name : AsciiName}
    (hhost : hostOfName name.text = .ok (.name name.text)) : (Host.name name.text).IsWritten where
  read := (readWebHost_text name).trans hhost
  nonempty := by
    intro hnil
    rw [Host.render] at hnil
    rw [hnil] at hhost
    cases hhost
  chars := fun c hc => isHostChar_of_isNameChar (name.isNameChar_of_mem c hc)
  taken := fun _ htail => takeHost_of_isNameChar name.isNameChar_of_mem htail

theorem isWritten_ipv4 [NameMapping] {n : Nat} (h : n < 0x100000000) : (Host.ipv4 n).IsWritten where
  read := readWebHost_renderIpv4 h
  nonempty := by
    intro hnil
    have hread := readWebHost_renderIpv4 h
    rw [show renderIpv4 n = [] from hnil] at hread
    cases hread
  chars := fun c hc => isHostChar_of_isNameChar (isNameChar_of_mem_renderIpv4 hc)
  taken := fun _ htail => takeHost_of_isNameChar (fun _ hc => isNameChar_of_mem_renderIpv4 hc) htail

theorem mem_renderPieces {ps : List Nat} {c : Char} (h : c ∈ renderPieces ps) :
    isHexChar c = true ∨ c = ':' := by
  cases ps with
  | nil => exact absurd h List.not_mem_nil
  | cons p ps =>
    have hcolons := List.mem_append_left [':'] h
    rw [renderPieces_append_colon (List.cons_ne_nil p ps)] at hcolons
    obtain ⟨q, -, hc⟩ := List.mem_flatMap.mp hcolons
    rw [List.mem_append, List.mem_singleton] at hc
    exact hc.imp_left isHexChar_of_mem_toDigits

theorem mem_renderIpv6 {ps : List Nat} {c : Char} (h : c ∈ renderIpv6 ps) :
    isHexChar c = true ∨ c = ':' := by
  unfold renderIpv6 at h
  dsimp only at h
  split at h
  · exact mem_renderPieces h
  · rw [List.mem_append, List.mem_cons, List.mem_cons] at h
    rcases h with h | h | h | h
    · exact mem_renderPieces h
    · exact Or.inr h
    · exact Or.inr h
    · exact mem_renderPieces h

theorem isHostChar_of_isHexChar {c : Char} (h : isHexChar c = true) : isHostChar c = true := by
  have hsmall : c.toNat < 0x80 := by
    simp only [isHexChar, Bool.or_eq_true, Bool.and_eq_true, decide_eq_true_eq] at h
    omega
  exact of_ascii (P := fun c => isHexChar c = true → isHostChar c = true) (by decide) hsmall h

theorem isWritten_ipv6 [NameMapping] {ps : List Nat} (h : IsIpv6 ps) :
    (Host.ipv6 ps).IsWritten where
  read := readWebHost_renderIpv6 h
  nonempty := List.cons_ne_nil _ _
  chars := fun c hc => by
    rw [Host.render, List.cons_append, List.mem_cons, List.mem_append, List.mem_singleton] at hc
    rcases hc with rfl | hc | rfl
    · decide
    · rcases mem_renderIpv6 hc with hhex | rfl
      · exact isHostChar_of_isHexChar hhex
      · decide
    · decide
  taken := fun tail htail => by
    have hclose : ']' ∉ renderIpv6 ps := fun hmem =>
      (mem_renderIpv6 hmem).elim (fun h => absurd h (by decide)) (fun h => absurd h (by decide))
    rw [Host.render, List.cons_append, List.cons_append, List.append_assoc,
      takeHost_cons fun h => absurd h.1 (by decide), if_pos rfl, List.singleton_append,
      takeHost_inside hclose htail]

/-- A host that stands in brackets is an IPv6 address. -/
theorem isWritten_of_readBracketed? [NameMapping] {cs : List Char} {host : Host}
    (h : readBracketed? cs = some (.ok host)) : host.IsWritten := by
  unfold readBracketed? at h
  split at h
  · rw [Option.some.injEq] at h
    split at h
    · split at h
      · next pieces hpieces =>
        obtain rfl := Except.ok.inj h
        exact isWritten_ipv6 (isIpv6_of_readIpv6? hpieces)
      · cases h
    · cases h
  · cases h

/-- The host that a name is is read back. -/
theorem isWritten_of_hostOfName [NameMapping] {name : AsciiName} {host : Host}
    (h : hostOfName name.text = .ok host) : host.IsWritten := by
  have hread := h
  unfold hostOfName at h
  split at h
  · cases h
  · split at h
    · split at h
      · next address haddress =>
        obtain rfl := Except.ok.inj h
        exact isWritten_ipv4 (readIpv4?_lt haddress)
      · cases h
    · obtain rfl := Except.ok.inj h
      exact isWritten_name hread

/-- **A host that was read is read back**, also one that the mapping gave. -/
theorem isWritten_of_readWebHost [NameMapping] {cs : List Char} {host : Host}
    (h : readWebHost cs = .ok host) : host.IsWritten := by
  unfold readWebHost at h
  split at h
  · next result hopen =>
    rw [h] at hopen
    exact isWritten_of_readBracketed? hopen
  · split at h
    · cases h
    · exact isWritten_of_hostOfName h

end BadgeEntry.Url
