import BadgeEntry.Url.Host
import Mathlib.Algebra.Group.Nat.Defs
import Mathlib.Data.List.Basic
import Mathlib.Data.List.Forall2
import Mathlib.Data.List.Induction
import Mathlib.Tactic.Common

/-!
# Hosts that are numbers

An IPv4 address is written as four bytes in decimal digits, an IPv6 address as eight pieces
in hexadecimal ones, of which the longest run of zeros may be left out.  Both are read back,
whatever they were first read from: an address that was read is small enough to be written
in this way.

## Main results

* `readIpv4?_lt`, `readIpv4?_renderIpv4` — **IPv4 addresses are read back.**
* `isIpv6_of_readIpv6?`, `readIpv6?_renderIpv6` — **IPv6 addresses are read back.**
-/

namespace BadgeEntry.Url

open Decimal

/-! ### Lists of results -/

theorem mapM_eq_some_iff {α β : Type} {f : α → Option β} {as : List α} {bs : List β} :
    as.mapM f = some bs ↔ List.Forall₂ (fun a b => f a = some b) as bs := by
  induction as generalizing bs with
  | nil =>
    rw [List.mapM_nil, List.forall₂_nil_left_iff]
    exact Option.some_inj.trans eq_comm
  | cons a as ih =>
    rw [List.mapM_cons, List.forall₂_cons_left_iff]
    simp only [Option.bind_eq_bind, Option.bind_eq_some_iff, ih, Option.pure_def, Option.some_inj]
    constructor
    · rintro ⟨b, hb, bs', hbs, rfl⟩
      exact ⟨b, bs', hb, hbs, rfl⟩
    · rintro ⟨b, bs', hb, hbs, rfl⟩
      exact ⟨b, hb, bs', hbs, rfl⟩

/-- What each result satisfies that is found at all. -/
theorem forall_mem_of_mapM {α β : Type} {f : α → Option β} {p : β → Prop}
    (h : ∀ a b, f a = some b → p b) {as : List α} {bs : List β} (hbs : as.mapM f = some bs) :
    ∀ b ∈ bs, p b := by
  have hall := mapM_eq_some_iff.mp hbs
  induction hall with
  | nil => exact List.forall_mem_nil p
  | cons hab _ ih => exact List.forall_mem_cons.mpr ⟨h _ _ hab, ih (mapM_eq_some_iff.mpr ‹_›)⟩

theorem length_of_mapM {α β : Type} {f : α → Option β} {as : List α} {bs : List β}
    (hbs : as.mapM f = some bs) : bs.length = as.length :=
  (mapM_eq_some_iff.mp hbs).length_eq.symm

/-- Written values are read back one by one. -/
theorem mapM_map_eq_some {α β : Type} {f : α → Option β} {g : β → α} {bs : List β}
    (h : ∀ b ∈ bs, f (g b) = some b) : (bs.map g).mapM f = some bs := by
  rw [mapM_eq_some_iff, List.forall₂_map_left_iff, List.forall₂_same]
  exact h

/-! ### Digits in a base -/

theorem readInBase?_concat (base : Nat) (cs : List Char) (c : Char) :
    readInBase? base (cs ++ [c]) = (readInBase? base cs).bind fun n =>
      (digitValue? c).bind fun d => if d < base then some (n * base + d) else none := by
  unfold readInBase?
  rw [List.foldl_append]
  rfl

theorem digitValue?_digitChar {d : Nat} (h : d < 16) : digitValue? d.digitChar = some d := by
  have hall : ∀ d : Fin 16, digitValue? (d : Nat).digitChar = some d.val := by decide
  exact hall ⟨d, h⟩

variable {base : Nat}

/-- A written number is read back in its base. -/
theorem readInBase?_toDigits (hbase : 1 < base) (hlimit : base ≤ 16) (n : Nat) :
    readInBase? base (Nat.toDigits base n) = some n := by
  induction n using Nat.strongRecOn with
  | ind n ih =>
    rcases Nat.lt_or_ge n base with hlt | hge
    · have hread := readInBase?_concat base [] n.digitChar
      rw [List.nil_append, digitValue?_digitChar (Nat.lt_of_lt_of_le hlt hlimit)] at hread
      rw [Nat.toDigits_of_lt_base hlt, hread]
      simp [readInBase?, hlt]
    · have hlast : n % base < base := Nat.mod_lt n (Nat.zero_lt_of_lt hbase)
      rw [Nat.toDigits_of_base_le hbase hge, readInBase?_concat,
        ih (n / base) (Nat.div_lt_self (by omega) hbase),
        digitValue?_digitChar (Nat.lt_of_lt_of_le hlast hlimit)]
      simp only [Option.bind_some, if_pos hlast]
      rw [Nat.mul_comm, Nat.div_add_mod]

/-- A number is smaller than the power of its base for which it has digits. -/
theorem readInBase?_lt {cs : List Char} {n : Nat} (h : readInBase? base cs = some n) :
    n < base ^ cs.length := by
  induction cs using List.reverseRecOn generalizing n with
  | nil =>
    obtain rfl : 0 = n := Option.some.inj h
    exact Nat.one_pos
  | append_singleton cs c ih =>
    rw [readInBase?_concat] at h
    obtain ⟨m, hm, h⟩ := Option.bind_eq_some_iff.mp h
    obtain ⟨d, -, h⟩ := Option.bind_eq_some_iff.mp h
    split at h
    · next hd =>
      obtain rfl := Option.some.inj h
      have hfront : m + 1 ≤ base ^ cs.length := ih hm
      rw [List.length_append, List.length_singleton, Nat.pow_succ]
      calc m * base + d < m * base + base := Nat.add_lt_add_left hd _
        _ = (m + 1) * base := (Nat.succ_mul m base).symm
        _ ≤ base ^ cs.length * base := Nat.mul_le_mul_right base hfront
    · cases h

/-- A number is written with the digits of its base. -/
theorem exists_of_mem_toDigits (hbase : 1 < base) {n : Nat} {c : Char}
    (h : c ∈ Nat.toDigits base n) : ∃ d < base, c = d.digitChar := by
  induction n using Nat.strongRecOn with
  | ind n ih =>
    rcases Nat.lt_or_ge n base with hlt | hge
    · rw [Nat.toDigits_of_lt_base hlt, List.mem_singleton] at h
      exact ⟨n, hlt, h⟩
    · rw [Nat.toDigits_of_base_le hbase hge, List.mem_append, List.mem_singleton] at h
      rcases h with h | h
      · exact ih (n / base) (Nat.div_lt_self (by omega) hbase) h
      · exact ⟨n % base, Nat.mod_lt n (Nat.zero_lt_of_lt hbase), h⟩

/-! ### IPv4 -/

/-- The bytes of an address, the highest first. -/
def ipv4Bytes (n : Nat) : List Nat :=
  [n / 0x1000000 % 0x100, n / 0x10000 % 0x100, n / 0x100 % 0x100, n % 0x100]

theorem notMem_digits (n : Nat) : '.' ∉ digits n := by
  intro h
  exact absurd (Nat.isDigit_of_mem_toDigits (by decide) (by decide) h) (by decide)

theorem splitOn_renderIpv4 (n : Nat) :
    (renderIpv4 n).splitOn '.' = (ipv4Bytes n).map digits := by
  unfold renderIpv4
  rw [List.append_assoc, List.cons_append, List.append_assoc, List.cons_append,
    List.splitOn_append_cons_self_of_not_mem (notMem_digits _),
    List.splitOn_append_cons_self_of_not_mem (notMem_digits _),
    List.splitOn_append_cons_self_of_not_mem (notMem_digits _),
    List.splitOn_eq_singleton (notMem_digits _)]
  rfl

theorem labels_renderIpv4 (n : Nat) : labels (renderIpv4 n) = (ipv4Bytes n).map digits := by
  unfold labels
  rw [splitOn_renderIpv4, if_neg]
  rintro ⟨-, hlast⟩
  exact digits_ne_nil _ (Option.some.inj hlast)

/-- A byte is read back as a part of an address. -/
theorem readIpv4Part?_digits {b : Nat} (h : b < 0x100) : readIpv4Part? (digits b) = some b := by
  have hall : ∀ b : Fin 256, readIpv4Part? (digits b) = some b.val := by decide +kernel
  exact hall ⟨b, h⟩

theorem lt_of_mem_ipv4Bytes {n b : Nat} (h : b ∈ ipv4Bytes n) : b < 0x100 := by
  simp only [ipv4Bytes, List.mem_cons, List.not_mem_nil, or_false] at h
  omega

/-- **An IPv4 address is read back.** -/
theorem readIpv4?_renderIpv4 {n : Nat} (h : n < 0x100000000) :
    readIpv4? (renderIpv4 n) = some n := by
  have hparts : ((ipv4Bytes n).map digits).mapM readIpv4Part? = some (ipv4Bytes n) :=
    mapM_map_eq_some fun b hb => readIpv4Part?_digits (lt_of_mem_ipv4Bytes hb)
  unfold readIpv4?
  simp only [labels_renderIpv4, hparts]
  simp only [ipv4Bytes, List.map_cons, List.map_nil, List.length_cons, List.length_nil,
    List.getLast?_cons_cons, List.getLast?_singleton, List.dropLast_cons_cons,
    List.dropLast_singleton, List.any_cons, List.any_nil, List.foldl_cons, List.foldl_nil,
    Option.bind_eq_bind, Option.bind_some]
  rw [if_neg (by omega), if_neg]
  · refine congrArg some ?_
    change (((0 * 0x100 + n / 0x1000000 % 0x100) * 0x100 + n / 0x10000 % 0x100) * 0x100 +
      n / 0x100 % 0x100) * 0x100 + n % 0x100 = n
    omega
  · change ¬(0x100 ≤ n % 0x100 ∨ _)
    simp only [Bool.or_false, Bool.or_eq_true, decide_eq_true_eq]
    omega

/-- Bytes make up a number below the power for which there are bytes. -/
theorem foldl_bytes_lt {front : List Nat} (h : ∀ b ∈ front, b ≤ 255) (sum : Nat) :
    front.foldl (fun sum part => sum * 0x100 + part) sum < (sum + 1) * 0x100 ^ front.length := by
  induction front generalizing sum with
  | nil => simp
  | cons b front ih =>
    rw [List.forall_mem_cons] at h
    rw [List.foldl_cons, List.length_cons, Nat.pow_succ', ← Nat.mul_assoc]
    exact Nat.lt_of_lt_of_le (ih h.2 _) (Nat.mul_le_mul_right _ (by omega))

/-- An address that was read has thirty-two bits. -/
theorem readIpv4?_lt {cs : List Char} {n : Nat} (h : readIpv4? cs = some n) :
    n < 0x100000000 := by
  unfold readIpv4? at h
  dsimp only at h
  split at h
  · cases h
  · next hfour =>
    obtain ⟨numbers, hnumbers, h⟩ := Option.bind_eq_some_iff.mp h
    obtain ⟨last, hlast, h⟩ := Option.bind_eq_some_iff.mp h
    split at h
    · cases h
    · next hroom =>
      rw [not_or, Nat.not_le, Bool.not_eq_true, List.any_eq_false] at hroom
      obtain ⟨hlast, hfront⟩ := hroom
      rw [Option.some.injEq] at h
      have hlength := length_of_mapM hnumbers
      have hbytes : ∀ b ∈ numbers.dropLast, b ≤ 255 := by
        intro b hb
        simpa using hfront b hb
      have hfold := foldl_bytes_lt hbytes 0
      have hshort : numbers.dropLast.length ≤ 3 := by
        rw [List.length_dropLast]
        omega
      -- the front and the room for the last part fill thirty-two bits together
      have hpower : 0x100 ^ numbers.dropLast.length * 0x100 ^ (4 - numbers.dropLast.length) =
          0x100000000 := by
        rw [← Nat.pow_add, Nat.add_sub_cancel' (by omega)]
      change last < 0x100 ^ (4 - numbers.dropLast.length) at hlast
      change numbers.dropLast.foldl _ 0 * 0x100 ^ (4 - numbers.dropLast.length) + last = n at h
      rw [Nat.zero_add, Nat.one_mul] at hfold
      rw [← h, ← hpower]
      calc _ < _ := Nat.add_lt_add_left hlast _
        _ = _ := (Nat.succ_mul _ _).symm
        _ ≤ _ := Nat.mul_le_mul_right _ hfold

/-! ### IPv6 -/

/-- Eight pieces of sixteen bits. -/
structure IsIpv6 (pieces : List Nat) : Prop where
  length_eq : pieces.length = 8
  small : ∀ p ∈ pieces, p < 0x10000

/-- The characters of pieces. -/
def isHexChar (c : Char) : Bool :=
  (0x30 ≤ c.toNat && c.toNat ≤ 0x39) || (0x61 ≤ c.toNat && c.toNat ≤ 0x66)

theorem isHexChar_of_mem_toDigits {n : Nat} {c : Char} (h : c ∈ Nat.toDigits 16 n) :
    isHexChar c = true := by
  have hall : ∀ d : Fin 16, isHexChar (d : Nat).digitChar = true := by decide
  obtain ⟨d, hd, rfl⟩ := exists_of_mem_toDigits (by decide) h
  exact hall ⟨d, hd⟩

theorem notMem_toDigits {mark : Char} (hmark : isHexChar mark = false) (n : Nat) :
    mark ∉ Nat.toDigits 16 n := by
  intro h
  rw [isHexChar_of_mem_toDigits h] at hmark
  cases hmark

theorem readPiece?_toDigits {p : Nat} (h : p < 0x10000) :
    readPiece? (Nat.toDigits 16 p) = some p := by
  have hlength : (Nat.toDigits 16 p).length ≤ 4 :=
    (Nat.length_toDigits_le_iff (by decide) (by decide)).mpr h
  unfold readPiece?
  rw [if_neg, readInBase?_toDigits (by decide) (by decide)]
  rw [List.isEmpty_iff]
  exact not_or.mpr ⟨Nat.toDigits_ne_nil, Nat.not_lt.mpr hlength⟩

theorem readPiece?_lt {cs : List Char} {p : Nat} (h : readPiece? cs = some p) : p < 0x10000 := by
  unfold readPiece? at h
  split at h
  · cases h
  · next hshort =>
    rw [not_or, Nat.not_lt] at hshort
    calc p < 16 ^ cs.length := readInBase?_lt h
      _ ≤ 16 ^ 4 := Nat.pow_le_pow_right (by decide) hshort.2

theorem readByte?_le {cs : List Char} {b : Nat} (h : readByte? cs = some b) : b ≤ 255 := by
  unfold readByte? at h
  split at h
  · cases h
  · exact of_decide_eq_true (Option.filter_eq_some_iff.mp h).2

theorem readDotted?_lt {cs : List Char} {ps : List Nat} (h : readDotted? cs = some ps) :
    ∀ p ∈ ps, p < 0x10000 := by
  unfold readDotted? at h
  obtain ⟨bytes, hbytes, h⟩ := Option.bind_eq_some_iff.mp h
  have hle := forall_mem_of_mapM (fun cs b => readByte?_le) hbytes
  split at h
  · next a b c d =>
    obtain rfl := Option.some.inj h
    simp only [List.forall_mem_cons, List.not_mem_nil, false_implies, implies_true, and_true]
      at hle ⊢
    omega
  · cases h

theorem readPieces?_lt {cs : List Char} {bytesAllowed : Bool} {ps : List Nat}
    (h : readPieces? cs bytesAllowed = some ps) : ∀ p ∈ ps, p < 0x10000 := by
  unfold readPieces? at h
  split at h
  · obtain rfl := Option.some.inj h
    exact List.forall_mem_nil _
  · dsimp only at h
    split at h
    · obtain ⟨front, hfront, h⟩ := Option.bind_eq_some_iff.mp h
      obtain ⟨back, hback, h⟩ := Option.bind_eq_some_iff.mp h
      obtain rfl := Option.some.inj h
      exact List.forall_mem_append.mpr
        ⟨forall_mem_of_mapM (fun cs p => readPiece?_lt) hfront, readDotted?_lt hback⟩
    · exact forall_mem_of_mapM (fun cs p => readPiece?_lt) h

/-- What was read as an IPv6 address is one. -/
theorem isIpv6_of_readIpv6? {cs : List Char} {ps : List Nat} (h : readIpv6? cs = some ps) :
    IsIpv6 ps := by
  unfold readIpv6? at h
  split at h
  · obtain ⟨h, hlength⟩ := Option.filter_eq_some_iff.mp h
    exact ⟨of_decide_eq_true hlength, readPieces?_lt h⟩
  · obtain ⟨front, hfront, h⟩ := Option.bind_eq_some_iff.mp h
    obtain ⟨back, hback, h⟩ := Option.bind_eq_some_iff.mp h
    split at h
    · cases h
    · next hroom =>
      obtain rfl := Option.some.inj h
      constructor
      · simp only [List.length_append, List.length_replicate]
        omega
      · intro p hp
        rw [List.mem_append, List.mem_append] at hp
        rcases hp with (hp | hp) | hp
        · exact readPieces?_lt hfront p hp
        · rw [List.eq_of_mem_replicate hp]
          decide
        · exact readPieces?_lt hback p hp

/-- Pieces are read back, where bytes may stand in their place and where not. -/
theorem readPieces?_renderPieces {ps : List Nat} (h : ∀ p ∈ ps, p < 0x10000)
    (bytesAllowed : Bool) : readPieces? (renderPieces ps) bytesAllowed = some ps := by
  have hpieces : (ps.map (Nat.toDigits 16)).mapM readPiece? = some ps :=
    mapM_map_eq_some fun p hp => readPiece?_toDigits (h p hp)
  cases ps with
  | nil => rfl
  | cons p ps =>
    have hsplit : (renderPieces (p :: ps)).splitOn ':' = (p :: ps).map (Nat.toDigits 16) := by
      refine List.splitOn_intercalate ':' ?_ (List.cons_ne_nil _ _)
      rw [List.forall_mem_map]
      exact fun q _ => notMem_toDigits (by decide) q
    have hne : renderPieces (p :: ps) ≠ [] := by
      intro hnil
      rw [hnil, List.splitOn_nil] at hsplit
      exact Nat.toDigits_ne_nil (List.cons.inj hsplit).1.symm
    -- no piece holds a point, so none is taken for bytes
    have hpoint : '.' ∉ (((p :: ps).map (Nat.toDigits 16)).getLast?).getD [] := by
      rw [List.getLast?_map]
      cases (p :: ps).getLast? with
      | none => exact List.not_mem_nil
      | some q => exact notMem_toDigits (by decide) q
    unfold readPieces?
    rw [if_neg (by rwa [List.isEmpty_iff])]
    dsimp only
    rw [hsplit, if_neg fun hbytes => hpoint hbytes.2, hpieces]

/-! #### Runs of zeros -/

theorem eq_replicate_append_zeroRun (ps : List Nat) :
    ps = List.replicate (zeroRun ps) 0 ++ ps.drop (zeroRun ps) := by
  induction ps with
  | nil => rfl
  | cons p ps ih =>
    by_cases hp : p = 0
    · have hrun : zeroRun (p :: ps) = zeroRun ps + 1 := by simp [zeroRun, hp]
      rw [hrun, List.replicate_succ, List.drop_succ_cons, List.cons_append, ← ih, hp]
    · have hrun : zeroRun (p :: ps) = 0 := by simp [zeroRun, hp]
      rw [hrun]
      rfl

/-- The longest run of zeros has a place among the pieces. -/
theorem exists_longestRun {ps : List Nat} {start : Nat} (h : 0 < (longestRun start ps).2) :
    ∃ front back, ps = front ++ List.replicate (longestRun start ps).2 0 ++ back ∧
      (longestRun start ps).1 = start + front.length := by
  induction ps generalizing start with
  | nil => exact absurd h (Nat.lt_irrefl 0)
  | cons p ps ih =>
    rw [longestRun] at h ⊢
    split
    · exact ⟨[], _, eq_replicate_append_zeroRun (p :: ps), rfl⟩
    · next hlater =>
      have hpositive : 0 < (longestRun (start + 1) ps).2 := by omega
      obtain ⟨front, back, hps, hstart⟩ := ih hpositive
      refine ⟨p :: front, back, ?_, ?_⟩
      · rw [List.cons_append, List.cons_append, ← hps]
      · rw [hstart, List.length_cons]
        omega

/-! #### The pair of colons -/

/-- A character is passed over unless it begins a pair of colons. -/
theorem splitDoubleColon_cons {c : Char} {rest : List Char}
    (h : ¬(c = ':' ∧ rest.head? = some ':')) :
    splitDoubleColon (c :: rest) = (splitDoubleColon rest).map fun p => (c :: p.1, p.2) := by
  rw [splitDoubleColon.eq_def]
  split
  · next heq =>
    obtain ⟨rfl, rfl⟩ := List.cons.inj heq
    exact absurd ⟨rfl, rfl⟩ h
  · next heq => cases heq
  · next heq =>
    obtain ⟨rfl, rfl⟩ := List.cons.inj heq
    rfl

/-- A text without a pair of colons, even if a colon follows it, ends at the first pair. -/
theorem splitDoubleColon_append {front : List Char} (h : splitDoubleColon (front ++ [':']) = none)
    (back : List Char) : splitDoubleColon (front ++ ':' :: ':' :: back) = some (front, back) := by
  induction front with
  | nil => rfl
  | cons c front ih =>
    by_cases hpair : c = ':' ∧ (front ++ [':']).head? = some ':'
    · obtain ⟨rfl, hcolon⟩ := hpair
      obtain ⟨rest, hrest⟩ := List.head?_eq_some_iff.mp hcolon
      rw [List.cons_append, hrest] at h
      cases h
    · have hpair' : ¬(c = ':' ∧ (front ++ ':' :: ':' :: back).head? = some ':') := by
        cases front with
        | nil => exact hpair
        | cons d front => exact hpair
      rw [List.cons_append, splitDoubleColon_cons hpair] at h
      rw [List.cons_append, splitDoubleColon_cons hpair', ih (Option.map_eq_none_iff.mp h)]
      rfl

/-- A text without a colon is passed over, and so is a colon that stands alone behind it. -/
theorem splitDoubleColon_piece {piece rest : List Char} (hne : piece ≠ []) (hpiece : ':' ∉ piece)
    (hrest : rest.head? ≠ some ':') (h : splitDoubleColon rest = none) :
    splitDoubleColon (piece ++ ':' :: rest) = none := by
  induction piece with
  | nil => exact absurd rfl hne
  | cons c piece ih =>
    rw [List.mem_cons, not_or] at hpiece
    rw [List.cons_append, splitDoubleColon_cons fun hpair => hpiece.1 hpair.1.symm,
      Option.map_eq_none_iff]
    cases piece with
    | nil =>
      rw [List.nil_append, splitDoubleColon_cons fun hpair => hrest hpair.2, h]
      rfl
    | cons d piece => exact ih (List.cons_ne_nil _ _) hpiece.2

/-- Pieces with a colon behind each. -/
theorem renderPieces_append_colon {ps : List Nat} (h : ps ≠ []) :
    renderPieces ps ++ [':'] = ps.flatMap fun p => Nat.toDigits 16 p ++ [':'] := by
  unfold renderPieces
  induction ps with
  | nil => exact absurd rfl h
  | cons p ps ih =>
    cases ps with
    | nil => simp [List.intercalate]
    | cons q ps =>
      rw [List.flatMap_cons, ← ih (List.cons_ne_nil _ _)]
      simp [List.intercalate]

theorem head?_toDigits_append (p : Nat) (rest : List Char) :
    (Nat.toDigits 16 p ++ rest).head? ≠ some ':' := by
  intro h
  obtain ⟨c, cs, hp⟩ := List.exists_cons_of_ne_nil (Nat.toDigits_ne_nil (n := p) (b := 16))
  have hcolon : ':' ∉ Nat.toDigits 16 p := notMem_toDigits (by decide) p
  rw [hp, List.cons_append, List.head?_cons, Option.some.injEq] at h
  rw [hp, h] at hcolon
  exact hcolon List.mem_cons_self

/-- No two colons meet among pieces. -/
theorem splitDoubleColon_renderPieces (ps : List Nat) :
    splitDoubleColon (renderPieces ps ++ [':']) = none := by
  have hall (ps : List Nat) :
      splitDoubleColon (ps.flatMap fun p => Nat.toDigits 16 p ++ [':']) = none := by
    induction ps with
    | nil => rfl
    | cons p ps ih =>
      rw [List.flatMap_cons, List.append_assoc]
      refine splitDoubleColon_piece Nat.toDigits_ne_nil (notMem_toDigits (by decide) p) ?_ ih
      cases ps with
      | nil => exact nofun
      | cons q ps =>
        rw [List.flatMap_cons, List.append_assoc]
        exact head?_toDigits_append q _
  cases ps with
  | nil => rfl
  | cons p ps =>
    rw [renderPieces_append_colon (List.cons_ne_nil _ _)]
    exact hall (p :: ps)

/-- Without a colon behind it there is no pair of colons either. -/
theorem splitDoubleColon_of_append {cs : List Char} (h : splitDoubleColon (cs ++ [':']) = none) :
    splitDoubleColon cs = none := by
  induction cs with
  | nil => rfl
  | cons c cs ih =>
    by_cases hpair : c = ':' ∧ cs.head? = some ':'
    · obtain ⟨rfl, hcolon⟩ := hpair
      obtain ⟨rest, rfl⟩ := List.head?_eq_some_iff.mp hcolon
      cases h
    · have hpair' : ¬(c = ':' ∧ (cs ++ [':']).head? = some ':') := by
        cases cs with
        | nil =>
          rintro ⟨rfl, -⟩
          cases h
        | cons d cs => exact hpair
      rw [List.cons_append, splitDoubleColon_cons hpair', Option.map_eq_none_iff] at h
      rw [splitDoubleColon_cons hpair, ih h]
      rfl

/-- **An IPv6 address is read back.** -/
theorem readIpv6?_renderIpv6 {ps : List Nat} (h : IsIpv6 ps) :
    readIpv6? (renderIpv6 ps) = some ps := by
  unfold renderIpv6
  dsimp only
  split
  · -- no run is left out
    unfold readIpv6?
    rw [splitDoubleColon_of_append (splitDoubleColon_renderPieces ps)]
    simp only [readPieces?_renderPieces h.small true, Option.filter_some, h.length_eq, decide_true,
      if_true]
  · next hrun =>
    have hpositive : 0 < (longestRun 0 ps).2 := by omega
    obtain ⟨front, back, hps, hstart⟩ := exists_longestRun hpositive
    generalize longestRun 0 ps = run at hrun hps hstart
    obtain ⟨start, count⟩ := run
    dsimp only at hrun hps hstart ⊢
    obtain rfl : start = front.length := by omega
    have htake : ps.take front.length = front := by
      rw [hps, List.append_assoc, List.take_left]
    have hdrop : ps.drop (front.length + count) = back := by
      rw [hps, List.drop_left' (by rw [List.length_append, List.length_replicate])]
    have hlength := h.length_eq
    rw [hps, List.length_append, List.length_append, List.length_replicate] at hlength
    have hsmall := h.small
    rw [hps, List.forall_mem_append, List.forall_mem_append] at hsmall
    unfold readIpv6?
    rw [htake, hdrop, splitDoubleColon_append (splitDoubleColon_renderPieces front)]
    simp only [readPieces?_renderPieces hsmall.1.1, readPieces?_renderPieces hsmall.2,
      Option.bind_eq_bind, Option.bind_some]
    rw [if_neg (by omega), show 8 - front.length - back.length = count by omega, ← hps]

end BadgeEntry.Url
