import BadgeEntry.Text.Blank
import Mathlib.Data.List.Basic
import Mathlib.Data.List.TakeWhile

/-!
# The front of a text and the rest

Readers take characters from the front of a text up to the first one that does not
belong to them.  What they take and what they leave is the same whatever is put behind
that character.

## Main results

* `takeWhile_append_of_stop`, `dropWhile_append_of_stop` — a text ends where the next
  character does not belong to it.
* `dropEnd_prefix_self`, `stopsAtEnd_dropEnd`, `dropEnd_of_stopsAtEnd`, `dropEnd_append_of_all` —
  what is dropped from the end of a text.
* `dropEnd_append_cons` — an end of which nothing is dropped keeps what stands before it.
-/

namespace BadgeEntry.Text

variable (p : Char → Bool) {mark : Char}

/-! ### Before a mark -/

theorem takeWhile_append_cons_of_neg (hmark : p mark = false) (front rest : List Char) :
    (front ++ mark :: rest).takeWhile p = front.takeWhile p := by
  induction front with
  | nil => simp [hmark]
  | cons c cs ih => by_cases hc : p c <;> simp [hc, ih]

theorem dropWhile_append_cons_of_neg (hmark : p mark = false) (front rest : List Char) :
    (front ++ mark :: rest).dropWhile p = front.dropWhile p ++ mark :: rest := by
  induction front with
  | nil => simp [hmark]
  | cons c cs ih => by_cases hc : p c <;> simp [hc, ih]

/-! ### Before whatever does not belong to a text -/

/-- Whether a text ends, or begins with a character that `p` does not hold of. -/
def Stops (p : Char → Bool) (cs : List Char) : Prop :=
  ∀ c ∈ cs.head?, p c = false

theorem stops_nil : Stops p [] := by
  intro c hc
  cases hc

theorem stops_cons {c : Char} {cs : List Char} : Stops p (c :: cs) ↔ p c = false := by
  constructor
  · exact fun h => h c rfl
  · rintro h d hd
    cases hd
    exact h

variable {p}

theorem Stops.append {cs ds : List Char} (hcs : Stops p cs) (hds : Stops p ds) :
    Stops p (cs ++ ds) := by
  cases cs with
  | nil => exact hds
  | cons c cs => exact (stops_cons p).mpr ((stops_cons p).mp hcs)

section
variable {front rest : List Char} (hfront : ∀ c ∈ front, p c = true) (hrest : Stops p rest)
include hfront hrest

theorem takeWhile_append_of_stop : (front ++ rest).takeWhile p = front := by
  rw [List.takeWhile_append_of_pos hfront]
  cases rest with
  | nil => exact List.append_nil front
  | cons c rest =>
    rw [List.takeWhile_cons_of_neg (by simpa using (stops_cons p).mp hrest), List.append_nil]

theorem dropWhile_append_of_stop : (front ++ rest).dropWhile p = rest := by
  rw [List.dropWhile_append_of_pos hfront]
  cases rest with
  | nil => rfl
  | cons c rest => rw [List.dropWhile_cons_of_neg (by simpa using (stops_cons p).mp hrest)]

end

theorem stops_dropWhile (p : Char → Bool) (cs : List Char) : Stops p (cs.dropWhile p) := by
  induction cs with
  | nil => exact stops_nil p
  | cons c cs ih =>
    by_cases hc : p c = true
    · rwa [List.dropWhile_cons_of_pos hc]
    · rw [List.dropWhile_cons_of_neg hc, stops_cons, ← Bool.not_eq_true]
      exact hc

/-! ### Ends -/

/-- Whether a text is empty, or ends with a character that `p` does not hold of. -/
def StopsAtEnd (p : Char → Bool) (cs : List Char) : Prop :=
  ∀ c ∈ cs.getLast?, p c = false

section
variable {cs tail : List Char}

theorem stopsAtEnd_nil : StopsAtEnd p [] := by
  intro c hc
  cases hc

theorem stopsAtEnd_concat {c : Char} : StopsAtEnd p (cs ++ [c]) ↔ p c = false := by
  simp [StopsAtEnd]

theorem stopsAtEnd_cons_cons {c d : Char} :
    StopsAtEnd p (c :: d :: cs) ↔ StopsAtEnd p (d :: cs) := by
  simp [StopsAtEnd, List.getLast?_cons_cons]

/-- What is left is the front of the text. -/
theorem dropEnd_prefix_self (p : Char → Bool) (cs : List Char) : dropEnd p cs <+: cs := by
  obtain ⟨tail, hcs, -⟩ := dropEnd_append_all p cs
  exact ⟨tail, hcs.symm⟩

/-- What is left does not end with a character that `p` holds of. -/
theorem stopsAtEnd_dropEnd (p : Char → Bool) (cs : List Char) : StopsAtEnd p (dropEnd p cs) := by
  induction cs with
  | nil => exact stopsAtEnd_nil
  | cons c cs ih =>
    rw [dropEnd]
    cases hrest : dropEnd p cs with
    | nil =>
      by_cases hc : p c = true
      · simp only [hc, if_true]
        exact stopsAtEnd_nil
      · simp only [hc]
        simpa [StopsAtEnd] using hc
    | cons d ds =>
      rw [hrest] at ih
      exact stopsAtEnd_cons_cons.mpr ih

/-- Nothing is dropped from such a text. -/
theorem dropEnd_of_stopsAtEnd (h : StopsAtEnd p cs) : dropEnd p cs = cs := by
  induction cs with
  | nil => rfl
  | cons c cs ih =>
    cases cs with
    | nil =>
      have hc : p c = false := h c rfl
      simp [dropEnd, hc]
    | cons d ds => rw [dropEnd, ih (stopsAtEnd_cons_cons.mp h)]

/-- An end that `p` holds of is dropped, and perhaps more of what stands before it. -/
theorem dropEnd_append_of_all (htail : ∀ c ∈ tail, p c = true) :
    dropEnd p (cs ++ tail) = dropEnd p cs := by
  induction cs with
  | nil =>
    induction tail with
    | nil => rfl
    | cons c tail ih =>
      rw [List.forall_mem_cons] at htail
      have hrest : dropEnd p tail = [] := ih htail.2
      simp [dropEnd, hrest, htail.1]
  | cons c cs ih => rw [List.cons_append, dropEnd, ih, dropEnd]

end

variable (p)

/-- A text of which no character is dropped stays whole. -/
theorem dropEnd_eq_self {cs : List Char} (h : ∀ c ∈ cs, p c = false) : dropEnd p cs = cs :=
  dropEnd_of_stopsAtEnd fun c hc => h c (List.mem_of_getLast? hc)

/-- An end of which no character is dropped keeps what stands before it. -/
theorem dropEnd_append_cons (front : List Char) {rest : List Char} (hmark : p mark = false)
    (hrest : ∀ c ∈ rest, p c = false) :
    dropEnd p (front ++ mark :: rest) = front ++ mark :: rest := by
  have hall : ∀ c ∈ mark :: rest, p c = false := List.forall_mem_cons.mpr ⟨hmark, hrest⟩
  apply dropEnd_of_stopsAtEnd
  intro c hc
  rw [List.getLast?_append_cons] at hc
  exact hall c (List.mem_of_getLast? hc)

end BadgeEntry.Text
