import BadgeEntry.Client.Steps
import BadgeEntry.Proofs.Client.Made
import BadgeEntry.Proofs.Site.Roots

/-!
# One root, typed in different ways

A client keeps the normal form of the root it is made for, and nothing of the way in which that
root was typed.  So clients whose roots differ in blanks around them and in slashes at their ends
do the same, and if one of them cannot be made, then neither can the other, for the same reason.

## Main definitions

* `Client.Alike` — clients that record the same in every run.

## Main results

* `create?_of_normalize_eq` — a client depends on the normal form of its root.
* `normalize_canonical` — **roots have a normal form, and clients depend on nothing else of
  them.**
-/

namespace BadgeEntry.Client

open Site Text

section

variable [Url.NameMapping]

/-- Clients that answer, send and report the same: in every run, whatever tokens are held at its
beginning and whatever the world is like. -/
def Alike (c c' : Client) : Prop :=
  ∀ held world steps, Sitting.run ⟨c, held, world⟩ steps = Sitting.run ⟨c', held, world⟩ steps

/-- A client depends on the normal form of its root. -/
theorem create?_of_normalize_eq (settings : Settings) {input input' : String}
    (h : normalize input = normalize input') :
    create? { settings with root := input } = create? { settings with root := input' } := by
  unfold create?
  simp only [h]

/-- What is written through a client that is made for it alone depends on the normal form as
well. -/
theorem writeToProject_of_normalize_eq {input input' : String}
    (h : normalize input = normalize input') : writeToProject input = writeToProject input' := by
  funext project updates login
  unfold writeToProject
  rw [create?_of_normalize_eq {} h]

/-- **Roots have a normal form, and clients depend on nothing else of them.**  Only slashes with
blanks around them stand for no root.  Any other text stands for one that has a single slash at
its end and is its own normal form; and blanks around a text and slashes at its end make no
difference to that.  So neither do they make a difference to a client. -/
theorem normalize_canonical :
    (∀ input, normalize input = none ↔
      ∃ front slashes back, input.toList = front ++ (slashes ++ back) ∧
        (∀ c ∈ front, isBlank c = true) ∧ (∀ c ∈ slashes, c = '/') ∧
          ∀ c ∈ back, isBlank c = true) ∧
    (∀ input root, normalize input = some root →
      (∃ text : String, root = text ++ "/" ∧ text ≠ "" ∧ text.toList.getLast? ≠ some '/') ∧
        normalize root = some root) ∧
    (∀ root input, IsBare root.toList → Decorates root input → normalize input = normalize root) ∧
    ∀ (settings : Settings) (root input input' : String), IsBare root.toList →
      Decorates root input → Decorates root input' →
      ((∃ failure, create? { settings with root := input } = .error failure ∧
          create? { settings with root := input' } = .error failure) ∨
        ∃ c c', create? { settings with root := input } = .ok c ∧
          create? { settings with root := input' } = .ok c' ∧ Alike c c' ∧
            ∀ extractor, Alike (c.withExtractor extractor) (c'.withExtractor extractor)) ∧
      writeToProject input = writeToProject input' := by
  refine ⟨fun input => normalize_eq_none_iff_exists, fun input root hroot => ?_,
    fun root input hbare hinput => normalize_of_decorates hbare hinput, ?_⟩
  · exact ⟨exists_of_normalize hroot, normalize_of_normalize hroot⟩
  · intro settings root input input' hbare hinput hinput'
    have hsame : normalize input = normalize input' :=
      (normalize_of_decorates hbare hinput).trans (normalize_of_decorates hbare hinput').symm
    refine ⟨?_, writeToProject_of_normalize_eq hsame⟩
    rw [create?_of_normalize_eq settings hsame]
    cases create? { settings with root := input' } with
    | error failure => exact Or.inl ⟨failure, rfl, rfl⟩
    | ok c => exact Or.inr ⟨c, c, rfl, rfl, fun _ _ _ => rfl, fun _ _ _ _ => rfl⟩

end

/-- The site on this machine, with blanks of two kinds around it and two slashes more. -/
def typedLocalRoot : String := "\u2003http://localhost:3000///\n"

theorem writeToProject_typedLocalRoot :
    Decorates "http://localhost:3000" typedLocalRoot ∧
      writeToProject typedLocalRoot = writeToProject "http://localhost:3000" := by
  have hends : "http://localhost:3000".toList = "http://localhost:300".toList ++ ['0'] := by
    decide
  have hbare : IsBare "http://localhost:3000".toList := by
    refine ⟨by decide, (stops_cons _).mpr (by decide), ?_⟩
    rw [hends]
    exact stopsAtEnd_concat.mpr (by decide)
  have htyped : Decorates "http://localhost:3000" typedLocalRoot := by
    refine ⟨['\u2003'], ['/', '/', '/'], ['\n'], by decide, ?_, ?_, ?_⟩ <;> simp [isBlank]
  have hplain : Decorates "http://localhost:3000" "http://localhost:3000" :=
    ⟨[], [], [], by decide, by simp⟩
  exact ⟨htyped, (normalize_canonical.2.2.2 {} _ _ _ hbare htyped hplain).2⟩

end BadgeEntry.Client
