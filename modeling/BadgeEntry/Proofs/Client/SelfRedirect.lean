import BadgeEntry.Proofs.Client.Endpoints
import BadgeEntry.Proofs.Client.Outcome

/-!
# Redirections to the site's own pages

A form is accepted if the answer redirects to where it was submitted.  The addresses of a
client's pages are read back from the way they are written, and they are written
differently for different pages.  So a redirection to the page of a project counts as
acceptance for that project and for no other one, and a redirection to a form does not
count at all.

## Main results

* `Client.IsMade.classify_own_page` — **which of the site's own pages a redirection is
  taken for.**
-/

namespace BadgeEntry

open Http Site Submission Url

namespace Client

variable [NameMapping] {request target : Address} {status : Status} {location : String}

/-- A redirection to an address counts if that is where the form was submitted. -/
theorem classify_eq_redirectedToSelf_iff (hstatus : status.isRedirection = true)
    (htarget : request.resolve location = .ok target) :
    classify request status (some location) = .redirectedToSelf ↔ target.text = request.text := by
  have hleads : leadsBack request (some location) = true ↔ target.text = request.text := by
    rw [leadsBack_iff]
    constructor
    · rintro ⟨text, found, htext, hfound, hsame⟩
      obtain rfl := Option.some.inj htext
      obtain rfl := Except.ok.inj (htarget.symm.trans hfound)
      exact hsame
    · exact fun hsame => ⟨location, target, rfl, htarget, hsame⟩
  unfold classify
  rw [← hleads]
  by_cases hback : leadsBack request (some location) = true
  · rw [if_pos ⟨hstatus, hback⟩]
    exact iff_of_true rfl hback
  · rw [if_neg fun h => hback h.2]
    refine iff_of_false ?_ hback
    split <;> exact nofun

/-- A redirection that does not count is a refusal. -/
theorem classify_eq_rejected (hstatus : status.isRedirection = true)
    (h : classify request status (some location) ≠ .redirectedToSelf) :
    classify request status (some location) = .rejected status (some location) := by
  unfold classify at h ⊢
  split
  · next hback => exact absurd (if_pos hback) h
  · rw [if_neg]
    intro hsuccess
    rw [not_isRedirection_of_isSuccess hsuccess] at hstatus
    cases hstatus

end Client

/-! ### Different pages are written differently -/

namespace Site

theorem projectPlace_injective {p q : ProjectId} (h : projectPlace p = projectPlace q) : p = q := by
  unfold projectPlace at h
  rw [List.append_cancel_left_eq] at h
  have hvalue := congrArg Decimal.value h
  rw [Decimal.value_digits, Decimal.value_digits] at hvalue
  exact UInt64.toNat_inj.mp hvalue

/-- Behind the number of a project there is a slash at the form and none at the page. -/
theorem projectPlace_append_edit_ne (p q : ProjectId) :
    projectPlace q ++ "/edit".toList ≠ projectPlace p := by
  intro h
  unfold projectPlace at h
  rw [List.append_assoc, List.append_cancel_left_eq] at h
  have hslash : '/' ∈ Decimal.digits p.toNat := by
    rw [← h, List.mem_append]
    exact Or.inr (by decide)
  exact absurd (Decimal.isDigit_of_mem_digits hslash) (by decide)

end Site

namespace Client

variable {c : Client} {base : Address}

/-- **Which of the site's own pages a redirection is taken for**: the page of a project for
itself alone, a form for none, and a relative reference to the page itself for it, unless its
path would be taken for an authority. -/
theorem IsMade.classify_own_page [NameMapping] (h : c.IsMade)
    (hbase : Address.parse c.root = .ok base) (hweb : base.kind = .web) (p q : ProjectId)
    {status : Status} (hstatus : status.isRedirection = true) :
    ∃ form other edit, Address.parse (projectPage c.root p) = .ok form ∧
      Address.parse (projectPage c.root q) = .ok other ∧
      Address.parse (editPage c.root q) = .ok edit ∧
      (classify form status (some other.text) = .redirectedToSelf ↔ p = q) ∧
      classify form status (some edit.text) = .rejected status (some edit.text) ∧
      (¬['/', '/'] <+: form.path.render →
        classify form status (some (String.ofList form.reference)) = .redirectedToSelf) := by
  have hslash := h.getLast?_root
  have hopen := isOpen_of_parse hbase hweb hslash
  have hform (project : ProjectId) := parse_projectPage project hbase hweb hslash
  have hedit := parse_editPage q hbase hweb hslash
  have hread {text : String} {u : Address} (hparse : Address.parse text = .ok u)
      (hsite : u.IsOnSite base) : u.IsWritten :=
    isWritten_of_parse hparse ((congrArg kindOf hsite.scheme).trans hweb)
  obtain ⟨a, ha, -⟩ := (hread hbase ⟨rfl, rfl, rfl⟩).authority
  -- every page is written as the root with its place behind it, so only places are compared
  have htext (place : Place) :
      (base.extended place).text = String.ofList (base.render ++ place.text) := by
    rw [Address.text, render_extended ha hopen]
  refine ⟨_, _, _, hform p, hform q, hedit, ?_, ?_, fun hpath => ?_⟩
  · have hother := (hread (hform q) (isOnSite_extended _ _)).readAddress_text
      (some (base.extended (formPlace p)))
    rw [classify_eq_redirectedToSelf_iff hstatus hother, htext, htext, String.ofList_inj,
      List.append_cancel_left_eq, formPlace_text, formPlace_text]
    exact ⟨fun hplace => (projectPlace_injective hplace).symm, fun hpq => by rw [hpq]⟩
  · have htarget := (hread hedit (isOnSite_extended _ _)).readAddress_text
      (some (base.extended (formPlace p)))
    refine classify_eq_rejected hstatus fun hcounts => ?_
    rw [classify_eq_redirectedToSelf_iff hstatus htarget, htext, htext, String.ofList_inj,
      List.append_cancel_left_eq, formPlace_text, editPlace_text] at hcounts
    exact projectPlace_append_edit_ne p q hcounts
  · have hown := (hread (hform p) (isOnSite_extended _ _)).resolve_reference hpath
    exact (classify_eq_redirectedToSelf_iff hstatus hown).mpr rfl

theorem classify_own_page_onThisMachine : onThisMachine.IsMade ∧
    ∃ form other, Address.parse (projectPage localRoot 1) = .ok form ∧
      Address.parse (projectPage localRoot 2) = .ok other ∧
      classify form ⟨302⟩ (some other.text) ≠ .redirectedToSelf ∧
      classify form ⟨302⟩ (some (String.ofList form.reference)) = .redirectedToSelf := by
  have hmade := isMade_of_create? create?_localRoot
  obtain ⟨form, other, edit, hform, hother, -, hsame, -, hreference⟩ :=
    hmade.classify_own_page (rfl : Address.parse localRoot = .ok _) rfl 1 2
      (rfl : (⟨302⟩ : Status).isRedirection = true)
  refine ⟨hmade, form, other, hform, hother, fun hcounts => absurd (hsame.mp hcounts) (by decide),
    hreference ?_⟩
  obtain rfl := Except.ok.inj (hform.symm.trans (rfl : Address.parse _ = .ok _))
  decide

end Client

end BadgeEntry
