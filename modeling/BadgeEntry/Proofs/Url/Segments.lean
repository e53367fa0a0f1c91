import BadgeEntry.Proofs.Text.Percent
import BadgeEntry.Proofs.Text.Utf8Order
import BadgeEntry.Url.Path
import Mathlib.Data.List.Basic

/-!
# Segments are read back

The pieces of a path are placed one after the other, and what is placed already decides how
the next piece is placed.  A segment as it is written is a piece that is placed as it
stands: nothing in it is coded again, no slash parts it, and it is not taken for dots.  So
a path that was read is read back, and a path goes on behind another one.

## Main definitions

* `passPiece` — what a piece makes of the segments before it.
* `IsSegment` — a piece that is placed as it stands.

## Main results

* `placePieces_append` — how a path goes on.
* `placeText_segmentsText` — **a path is read back.**
* `isSegment_of_mem_placePieces` — **all segments of a path are placed as they stand.**
-/

namespace BadgeEntry.Url

open Text

/-! ### Pieces one after the other -/

/-- What a piece makes of the segments before it, if another one follows. -/
def passPiece (kind : Kind) (done : List (List Char)) (piece : List Char) : List (List Char) :=
  if isDoubleDot piece then goBack done
  else if isSingleDot piece then done
  else done ++ segmentsOf kind done piece

/-- The last pieces of a path are placed behind what the first ones leave. -/
theorem placePieces_append (kind : Kind) (done : List (List Char)) (ps : List (List Char))
    (q : List Char) (qs : List (List Char)) :
    placePieces kind done (ps ++ q :: qs) =
      placePieces kind (ps.foldl (passPiece kind) done) (q :: qs) := by
  induction ps generalizing done with
  | nil => rfl
  | cons p ps ih =>
    have hstep (next : List Char) (rest : List (List Char)) :
        placePieces kind done (p :: next :: rest) =
          placePieces kind (passPiece kind done p) (next :: rest) := rfl
    rw [List.foldl_cons, ← ih]
    cases ps with
    | nil => exact hstep q qs
    | cons p' ps => exact hstep p' _

/-- A path that ends in a slash has an empty last segment. -/
theorem placePieces_concat_nil (kind : Kind) (hkind : kind ≠ .file) (done ps : List (List Char)) :
    placePieces kind done (ps ++ [[]]) = ps.foldl (passPiece kind) done ++ [[]] := by
  rw [placePieces_append]
  cases kind with
  | web => rfl
  | file => exact absurd rfl hkind
  | other => rfl

/-! ### Dots -/

/-- Two characters in front of a percent sign are in front of it. -/
theorem exists_of_append_percent {front rest tail : List Char} {a b : Char} (ha : a ≠ '%')
    (hb : b ≠ '%') (h : front ++ '%' :: rest = a :: b :: tail) :
    ∃ more, front = a :: b :: more := by
  cases front with
  | nil => exact absurd (List.cons.inj h).1.symm ha
  | cons c front =>
    obtain ⟨hfirst, h⟩ := List.cons.inj h
    cases front with
    | nil => exact absurd (List.cons.inj h).1.symm hb
    | cons d front => exact ⟨front, by rw [hfirst, (List.cons.inj h).1]⟩

/-- No code of a point begins before a percent sign and ends behind it. -/
theorem dotted_append_percent (front rest : List Char) :
    dotted (front ++ '%' :: rest) = dotted front ++ dotted ('%' :: rest) := by
  induction front using dotted.induct with
  | case1 front ih => rw [List.cons_append, List.cons_append, List.cons_append, dotted, ih]; rfl
  | case2 front ih => rw [List.cons_append, List.cons_append, List.cons_append, dotted, ih]; rfl
  | case3 c front hlow hhigh ih =>
    -- a code that begins in front of the percent sign would have to end there as well
    rw [dotted.eq_3 c front hlow hhigh, List.cons_append, dotted.eq_3, ih, List.cons_append]
    · intro tail hc htail
      obtain ⟨more, hfront⟩ := exists_of_append_percent (by decide) (by decide) htail
      exact hlow more hc hfront
    · intro tail hc htail
      obtain ⟨more, hfront⟩ := exists_of_append_percent (by decide) (by decide) htail
      exact hhigh more hc hfront
  | case4 => rfl

/-- The code of a byte is not taken for a point, unless it is the code of one. -/
theorem dotted_percentByte {b : UInt8} (hb : b ≠ 0x2E) (rest : List Char) :
    '%' ∈ dotted (percentByte b ++ rest) := by
  have hsize : b.toNat < 256 := b.toNat_lt
  have hdigits : ¬(upperHexDigit (b.toNat / 16) = '2' ∧
      (upperHexDigit (b.toNat % 16) = 'e' ∨ upperHexDigit (b.toNat % 16) = 'E')) := by
    have hall : ∀ n : Fin 256, n.val ≠ 0x2E → ¬(upperHexDigit (n.val / 16) = '2' ∧
        (upperHexDigit (n.val % 16) = 'e' ∨ upperHexDigit (n.val % 16) = 'E')) := by
      decide +kernel
    exact hall ⟨b.toNat, hsize⟩ fun h => hb (UInt8.toNat_inj.mp h)
  unfold percentByte
  rw [List.cons_append, dotted.eq_3]
  · exact List.mem_cons_self
  · intro tail _ h
    obtain ⟨hhigh, h⟩ := List.cons.inj h
    exact hdigits ⟨hhigh, Or.inl (List.cons.inj h).1⟩
  · intro tail _ h
    obtain ⟨hhigh, h⟩ := List.cons.inj h
    exact hdigits ⟨hhigh, Or.inr (List.cons.inj h).1⟩

/-- Only the point begins with the byte of a point. -/
theorem eq_point_of_firstByte {c : Char}
    (h : UInt8.ofNat (Utf8.firstByte c.toNat) = 0x2E) : c = '.' := by
  have hnat := congrArg UInt8.toNat h
  rw [UInt8.toNat_ofNat_of_lt' (Utf8.firstByte_lt (Utf8.toNat_lt c))] at hnat
  change Utf8.firstByte c.toNat = 0x2E at hnat
  refine Char.toNat_inj.mp ?_
  change c.toNat = 0x2E
  rcases Utf8.laterCount_cases c.toNat with ⟨_, -, hfirst⟩ | ⟨_, _, -, hfirst⟩ |
    ⟨_, _, -, hfirst⟩ | ⟨_, -, hfirst⟩ <;> omega

/-- A character that is coded leaves a percent sign that is not taken for a part of a
point, whatever stands before it. -/
theorem percent_mem_dotted {c : Char} (h : ¬IsUncoded isPathCoded c) (front rest : List Char) :
    '%' ∈ dotted (front ++ (percentChar isPathCoded c ++ rest)) := by
  rw [percentChar_of_not_isUncoded h, Utf8.utf8EncodeChar_eq, List.flatMap_cons, List.append_assoc]
  have hpoint : UInt8.ofNat (Utf8.firstByte c.toNat) ≠ 0x2E := by
    intro hpoint
    rw [eq_point_of_firstByte hpoint] at h
    exact h ⟨by decide, by decide⟩
  generalize List.flatMap percentByte _ ++ rest = behind
  have hcode := dotted_percentByte hpoint behind
  unfold percentByte at hcode ⊢
  rw [List.cons_append, dotted_append_percent, List.mem_append]
  exact Or.inr hcode

/-- A text that is taken for points after it was coded was not changed by that. -/
theorem percentEncode_eq_of_dotted {cs : List Char}
    (h : '%' ∉ dotted (percentEncode isPathCoded cs)) : percentEncode isPathCoded cs = cs := by
  refine percentEncode_eq_self fun c hc => ?_
  by_contra hcoded
  -- the first percent sign of a coded character would still be there
  obtain ⟨front, rest, rfl⟩ := List.append_of_mem hc
  rw [percentEncode_append, percentEncode_cons] at h
  exact h (percent_mem_dotted hcoded _ _)

/-- Coding makes no points: what is taken for some of them afterwards was taken for them
before. -/
theorem dotted_percentEncode_beq {points : List Char} (hpoints : '%' ∉ points) {cs : List Char}
    (h : (dotted cs == points) = false) :
    (dotted (percentEncode isPathCoded cs) == points) = false := by
  by_contra hdotted
  rw [Bool.not_eq_false] at hdotted
  rw [← eq_of_beq hdotted] at hpoints
  rw [percentEncode_eq_of_dotted hpoints, h] at hdotted
  cases hdotted

/-! ### Segments -/

/-- A piece that is placed as it stands. -/
structure IsSegment (s : List Char) : Prop where
  uncoded : ∀ c ∈ s, IsUncoded isPathCoded c
  slash : '/' ∉ s
  backslash : '\\' ∉ s
  single : isSingleDot s = false
  double : isDoubleDot s = false

theorem isSegment_nil : IsSegment [] :=
  ⟨List.forall_mem_nil _, List.not_mem_nil, List.not_mem_nil, rfl, rfl⟩

theorem keepsCodes_isPathCoded : KeepsCodes isPathCoded where
  percent := by decide
  digit := by decide

/-- What no code holds is there after coding only if it was there before. -/
theorem notMem_percentEncode {mark : Char} (hmark : ∀ b, mark ∉ percentByte b) {cs : List Char}
    (h : mark ∉ cs) : mark ∉ percentEncode isPathCoded cs := fun hmem =>
  (mem_or_of_mem_percentEncode hmem).elim h fun ⟨b, hb⟩ => hmark b hb

theorem notMem_percentByte {mark : Char}
    (hall : mark ≠ '%' ∧ ∀ n : Fin 16, mark ≠ upperHexDigit n) (b : UInt8) :
    mark ∉ percentByte b := by
  have hsize : b.toNat < 256 := b.toNat_lt
  have hhigh := hall.2 ⟨b.toNat / 16, by omega⟩
  have hlow := hall.2 ⟨b.toNat % 16, by omega⟩
  simp [percentByte, hall.1, hhigh, hlow]

/-- A piece between two slashes becomes a segment, unless it is dots. -/
theorem isSegment_percentEncode {piece : List Char} (hslash : '/' ∉ piece)
    (hbackslash : '\\' ∉ piece) (hsingle : isSingleDot piece = false)
    (hdouble : isDoubleDot piece = false) : IsSegment (percentEncode isPathCoded piece) where
  uncoded := isUncoded_of_mem_percentEncode keepsCodes_isPathCoded
  slash := notMem_percentEncode (notMem_percentByte (by decide)) hslash
  backslash := notMem_percentEncode (notMem_percentByte (by decide)) hbackslash
  single := dotted_percentEncode_beq (by decide) hsingle
  double := dotted_percentEncode_beq (by decide) hdouble

/-! ### Paths on the web -/

/-- A piece on the web becomes one segment. -/
theorem segmentsOf_web_eq (done : List (List Char)) (piece : List Char) :
    segmentsOf .web done piece = [percentEncode isPathCoded (piece.filter (· != '\t'))] := by
  cases done <;> rfl

theorem segmentsOf_web (done : List (List Char)) {piece : List Char} (htab : '\t' ∉ piece) :
    segmentsOf .web done piece = [percentEncode isPathCoded piece] := by
  have hfilter : piece.filter (· != '\t') = piece := by
    rw [List.filter_eq_self]
    intro c hc
    rw [bne_iff_ne]
    rintro rfl
    exact htab hc
  rw [segmentsOf_web_eq, hfilter]

theorem IsSegment.notMem_tab {s : List Char} (h : IsSegment s) : '\t' ∉ s := fun htab =>
  absurd (h.uncoded _ htab).2 (by decide)

theorem passPiece_of_isSegment {s : List Char} (h : IsSegment s) (done : List (List Char)) :
    passPiece .web done s = done ++ [s] := by
  unfold passPiece
  rw [h.double, h.single, segmentsOf_web done h.notMem_tab, percentEncode_eq_self h.uncoded]
  rfl

/-- **Segments are placed as they stand.** -/
theorem placePieces_of_isSegment {ps : List (List Char)} (hne : ps ≠ [])
    (h : ∀ p ∈ ps, IsSegment p) (done : List (List Char)) :
    placePieces .web done ps = done ++ ps := by
  induction ps generalizing done with
  | nil => exact absurd rfl hne
  | cons p ps ih =>
    rw [List.forall_mem_cons] at h
    obtain ⟨hp, hps⟩ := h
    cases ps with
    | nil =>
      rw [placePieces, hp.double, hp.single, segmentsOf_web done hp.notMem_tab,
        percentEncode_eq_self hp.uncoded]
      rfl
    | cons q ps =>
      have hstep : placePieces .web done (p :: q :: ps) =
          placePieces .web (passPiece .web done p) (q :: ps) := rfl
      rw [hstep, passPiece_of_isSegment hp, ih (List.cons_ne_nil _ _) hps, List.append_assoc,
        List.singleton_append]

/-- A piece that may become a segment, or dots. -/
structure IsPiece (piece : List Char) : Prop where
  slash : '/' ∉ piece
  backslash : '\\' ∉ piece
  tab : '\t' ∉ piece

theorem mem_goBack {done : List (List Char)} {s : List Char} (h : s ∈ goBack done) : s ∈ done := by
  unfold goBack at h
  split at h
  · split at h
    · exact h
    · exact List.dropLast_subset _ h
  · exact absurd h List.not_mem_nil

/-- A piece leaves segments. -/
theorem isSegment_of_mem_passPiece {done : List (List Char)} {piece : List Char}
    (hdone : ∀ s ∈ done, IsSegment s) (hpiece : IsPiece piece) :
    ∀ s ∈ passPiece .web done piece, IsSegment s := by
  intro s hs
  unfold passPiece at hs
  split at hs
  · exact hdone s (mem_goBack hs)
  · next hdouble =>
    split at hs
    · exact hdone s hs
    · next hsingle =>
      rw [segmentsOf_web done hpiece.tab, List.mem_append, List.mem_singleton] at hs
      rcases hs with hs | rfl
      · exact hdone s hs
      · exact isSegment_percentEncode hpiece.slash hpiece.backslash
          (Bool.eq_false_iff.mpr hsingle) (Bool.eq_false_iff.mpr hdouble)

/-- The last piece of a path leaves at least one segment. -/
theorem placePieces_singleton (done : List (List Char)) (piece : List Char) :
    placePieces .web done [piece] =
      if isDoubleDot piece || isSingleDot piece then passPiece .web done piece ++ [[]]
      else passPiece .web done piece := by
  unfold placePieces passPiece
  by_cases hdouble : isDoubleDot piece = true
  · simp [hdouble]
  · by_cases hsingle : isSingleDot piece = true <;> simp [hdouble, hsingle]

/-- **All segments of a path are placed as they stand.** -/
theorem isSegment_of_mem_placePieces {ps : List (List Char)} {done : List (List Char)}
    (hdone : ∀ s ∈ done, IsSegment s) (hps : ∀ p ∈ ps, IsPiece p) :
    ∀ s ∈ placePieces .web done ps, IsSegment s := by
  induction ps generalizing done with
  | nil => exact hdone
  | cons p ps ih =>
    rw [List.forall_mem_cons] at hps
    have hpass := isSegment_of_mem_passPiece hdone hps.1
    cases ps with
    | nil =>
      rw [placePieces_singleton]
      split
      · rw [List.forall_mem_append]
        exact ⟨hpass, List.forall_mem_singleton.mpr isSegment_nil⟩
      · exact hpass
    | cons q ps => exact ih hpass hps.2

/-- A path on the web has a segment. -/
theorem placePieces_ne_nil {ps : List (List Char)} (hne : ps ≠ []) (done : List (List Char)) :
    placePieces .web done ps ≠ [] := by
  induction ps generalizing done with
  | nil => exact absurd rfl hne
  | cons p ps ih =>
    cases ps with
    | nil =>
      rw [placePieces]
      split
      · exact List.append_ne_nil_of_right_ne_nil _ (List.cons_ne_nil _ _)
      · split
        · exact List.append_ne_nil_of_right_ne_nil _ (List.cons_ne_nil _ _)
        · rw [segmentsOf_web_eq]
          exact List.append_ne_nil_of_right_ne_nil _ (List.cons_ne_nil _ _)
    | cons q ps => exact ih (List.cons_ne_nil _ _) _

/-! ### The text of a path -/

/-- A path without its first slash. -/
def segmentsText (segments : List (List Char)) : List Char :=
  ['/'].intercalate segments

theorem render_rooted {segments : List (List Char)} (hne : segments ≠ []) :
    (Path.rooted segments).render = '/' :: segmentsText segments := by
  change segments.flatMap ('/' :: ·) = '/' :: ['/'].intercalate segments
  induction segments with
  | nil => exact absurd rfl hne
  | cons s segments ih =>
    cases segments with
    | nil => simp
    | cons t segments =>
      rw [List.flatMap_cons, ih (List.cons_ne_nil _ _)]
      simp [List.intercalate]

theorem mem_segmentsText {segments : List (List Char)} {c : Char}
    (h : c ∈ segmentsText segments) : c = '/' ∨ ∃ s ∈ segments, c ∈ s := by
  by_cases hne : segments = []
  · rw [hne] at h
    exact absurd h List.not_mem_nil
  · have hpath := List.mem_cons_of_mem '/' h
    rw [← render_rooted hne] at hpath
    obtain ⟨s, hs, hc⟩ := List.mem_flatMap.mp hpath
    exact (List.mem_cons.mp hc).imp_right fun hc => ⟨s, hs, hc⟩

/-- The pieces of a text without backslashes. -/
theorem pieces_of_notMem {special : Bool} {cs : List Char} (h : '\\' ∉ cs) :
    pieces special cs = cs.splitOn '/' := by
  have hmap : cs.map (fun c => if c = '\\' then '/' else c) = cs := by
    refine (List.map_congr_left fun c hc => ?_).trans (List.map_id cs)
    rw [if_neg]
    · rfl
    · rintro rfl
      exact h hc
  unfold pieces
  rw [hmap, ite_self]

theorem notMem_backslash {segments : List (List Char)} (h : ∀ s ∈ segments, IsSegment s) :
    '\\' ∉ segmentsText segments := by
  intro hmem
  rcases mem_segmentsText hmem with hslash | ⟨s, hs, hc⟩
  · exact absurd hslash (by decide)
  · exact (h s hs).backslash hc

/-- **A path is read back.** -/
theorem placeText_segmentsText {segments : List (List Char)} (hne : segments ≠ [])
    (h : ∀ s ∈ segments, IsSegment s) : placeText .web [] (segmentsText segments) = segments := by
  unfold placeText
  rw [pieces_of_notMem (notMem_backslash h), segmentsText,
    List.splitOn_intercalate '/' (fun s hs => (h s hs).slash) hne,
    placePieces_of_isSegment hne h, List.nil_append]

theorem mem_of_mem_splitOn {a : Char} {cs piece : List Char} (h : piece ∈ cs.splitOn a) :
    ∀ c ∈ piece, c ≠ a ∧ c ∈ cs := by
  induction cs generalizing piece with
  | nil =>
    rw [List.splitOn_nil, List.mem_singleton] at h
    rw [h]
    exact List.forall_mem_nil _
  | cons x cs ih =>
    have hrest {p : List Char} (hp : p ∈ cs.splitOn a) : ∀ c ∈ p, c ≠ a ∧ c ∈ x :: cs :=
      fun c hc => (ih hp c hc).imp_right (List.mem_cons_of_mem x)
    rw [List.splitOn_cons_eq_if_modifyHead] at h
    split at h
    · rcases List.mem_cons.mp h with rfl | h
      · exact List.forall_mem_nil _
      · exact hrest h
    · next hx =>
      obtain ⟨p, ps, hsplit⟩ := List.exists_cons_of_ne_nil (List.splitOn_ne_nil a cs)
      rw [hsplit, List.modifyHead_cons] at h
      rcases List.mem_cons.mp h with rfl | h
      · refine List.forall_mem_cons.mpr ⟨⟨fun hxa => hx (beq_iff_eq.mpr hxa), ?_⟩, hrest ?_⟩
        · exact List.mem_cons_self
        · rw [hsplit]
          exact List.mem_cons_self
      · refine hrest ?_
        rw [hsplit]
        exact List.mem_cons_of_mem p h

/-- What lies between two slashes of a text without tabs. -/
theorem isPiece_of_mem_pieces {cs piece : List Char} (htab : '\t' ∉ cs)
    (h : piece ∈ pieces true cs) : IsPiece piece := by
  have hchars := mem_of_mem_splitOn h
  have hmap (c : Char) (hc : c ∈ piece) : c ≠ '\\' ∧ (c = '/' ∨ c ∈ cs) := by
    obtain ⟨d, hd, rfl⟩ := List.mem_map.mp (hchars c hc).2
    split
    · exact ⟨by decide, Or.inl rfl⟩
    · next hne => exact ⟨hne, Or.inr hd⟩
  refine ⟨fun hslash => (hchars _ hslash).1 rfl, fun hback => (hmap _ hback).1 rfl, fun hc => ?_⟩
  exact (hmap _ hc).2.elim (by decide) htab

/-- A slash parts the pieces before it from those behind it. -/
theorem pieces_append_slash (special : Bool) (front rest : List Char) :
    pieces special (front ++ '/' :: rest) = pieces special front ++ pieces special rest := by
  cases special with
  | false => exact List.splitOn_append_cons_self front rest
  | true =>
    unfold pieces
    rw [if_pos rfl, if_pos rfl, if_pos rfl, List.map_append, List.map_cons, if_neg (by decide)]
    exact List.splitOn_append_cons_self _ _

end BadgeEntry.Url
