import BadgeEntry.Client.Steps
import BadgeEntry.Proofs.World.Visit

/-!
# Runs, moment by moment

A run takes one step after the other.  Each step is taken at a moment: in a sitting that
the steps before it have left behind.  What is said about runs is said about their
moments, and what holds at a moment is shown by looking at the one step that is taken.

## Main definitions

* `Moment` — a step and the sitting in which it is taken.
* `Sitting.moments` — the moments of a run.
* `Sitting.after` — the sitting that some steps leave behind.

## Main results

* `Sitting.run_eq` — a run is recorded moment by moment.
* `Sitting.moments_eq_append_iff` — the moments before and after a step.
* `Sitting.client_of_mem_moments` — the client stays the same.
-/

namespace BadgeEntry

open Http

variable [Url.NameMapping]

/-- A step, with the sitting in which it is taken. -/
structure Moment where
  sitting : Sitting
  step : Step

namespace Moment

/-- What the step answers, sends and reports. -/
def record (m : Moment) : Sitting.Record :=
  (m.sitting.recordStep m.step).1

/-- The sitting that the step leaves behind. -/
def next (m : Moment) : Sitting :=
  (m.sitting.recordStep m.step).2

end Moment

namespace Sitting

/-- The moments of a run. -/
def moments (s : Sitting) : List Step → List Moment
  | [] => []
  | step :: rest => ⟨s, step⟩ :: moments (s.recordStep step).2 rest

/-- The sitting that some steps leave behind. -/
def after (s : Sitting) : List Step → Sitting
  | [] => s
  | step :: rest => after (s.recordStep step).2 rest

@[simp] theorem moments_cons (s : Sitting) (step : Step) (rest : List Step) :
    s.moments (step :: rest) = ⟨s, step⟩ :: (s.recordStep step).2.moments rest := rfl

@[simp] theorem after_cons (s : Sitting) (step : Step) (rest : List Step) :
    s.after (step :: rest) = (s.recordStep step).2.after rest := rfl

/-- A run is recorded moment by moment. -/
theorem run_eq (s : Sitting) (steps : List Step) :
    s.run steps = (s.moments steps).map Moment.record := by
  induction steps generalizing s with
  | nil => rfl
  | cons step rest ih =>
    have hrun : s.run (step :: rest) =
        (s.recordStep step).1 :: (s.recordStep step).2.run rest := rfl
    rw [hrun, ih]
    rfl

theorem moments_append (s : Sitting) (steps rest : List Step) :
    s.moments (steps ++ rest) = s.moments steps ++ (s.after steps).moments rest := by
  induction steps generalizing s with
  | nil => rfl
  | cons step steps ih => rw [List.cons_append, moments_cons, ih, moments_cons, after_cons,
      List.cons_append]

/-- What comes before and after a moment of a run are runs themselves. -/
theorem moments_eq_append_iff {s : Sitting} {steps : List Step} {before later : List Moment}
    {m : Moment} :
    s.moments steps = before ++ m :: later ↔
      ∃ earlier rest, steps = earlier ++ m.step :: rest ∧ before = s.moments earlier ∧
        m.sitting = s.after earlier ∧ later = m.next.moments rest := by
  constructor
  · intro h
    -- the moments before it say how many steps have been taken
    induction before generalizing s steps with
    | nil =>
      cases steps with
      | nil => cases h
      | cons step rest =>
        obtain ⟨rfl, hlater⟩ := List.cons.inj h
        exact ⟨[], rest, rfl, rfl, rfl, hlater.symm⟩
    | cons first before ih =>
      cases steps with
      | nil => cases h
      | cons step rest =>
        obtain ⟨rfl, htail⟩ := List.cons.inj h
        obtain ⟨earlier, rest', rfl, rfl, hsitting, hlater⟩ := ih htail
        exact ⟨step :: earlier, rest', rfl, rfl, hsitting, hlater⟩
  · rintro ⟨earlier, rest, rfl, rfl, hsitting, rfl⟩
    rw [moments_append, moments_cons, ← hsitting]
    rfl

/-! ### The client -/

/-- A step leaves the client as it is. -/
theorem step_client (s : Sitting) (step : Step) : (s.step step).2.client = s.client := by
  cases step with
  | submit project source =>
    rw [Sitting.step]
    split
    · rfl
    · split <;> rfl
  | removeFile path =>
    rw [Sitting.step]
    split <;> rfl
  | _ => rfl

theorem recordStep_client (s : Sitting) (step : Step) :
    (s.recordStep step).2.client = s.client :=
  step_client _ step

theorem client_of_mem_moments {s : Sitting} {steps : List Step} {m : Moment}
    (h : m ∈ s.moments steps) : m.sitting.client = s.client := by
  induction steps generalizing s with
  | nil => cases h
  | cons step rest ih =>
    rw [moments_cons, List.mem_cons] at h
    rcases h with rfl | hrest
    · rfl
    · rw [ih hrest, recordStep_client]

end Sitting

end BadgeEntry
