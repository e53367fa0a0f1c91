import BadgeEntry.Proofs.Url.Below
import BadgeEntry.Site.Endpoint

/-!
# The addresses of a site's pages

A normalized root ends in a slash, and the places of the pages are texts that can be
put below it.  So every page of a site of the web has an address, and it is on the site.

## Main results

* `getLast?_normalize` — a normalized root ends in a slash.
* `exists_editPage`, `exists_projectPage` — **the pages of a project have addresses on
  the site.**
-/

namespace BadgeEntry.Site

open Url Text

/-- A normalized root ends in a slash. -/
theorem getLast?_normalize {input root : String} (h : normalize input = some root) :
    root.toList.getLast? = some '/' := by
  unfold normalize at h
  split at h
  · cases h
  · next c cs _ =>
    rw [Option.some.injEq] at h
    rw [← h, String.toList_ofList, List.getLast?_concat]

/-- The project's page lies below the root. -/
def projectPlace (project : ProjectId) : List Char :=
  "en/projects/".toList ++ Decimal.digits project.toNat

theorem isBelowText_projectPlace (project : ProjectId) : IsBelowText (projectPlace project) := by
  have hplace : IsBelowText "en/projects/".toList := by decide
  exact hplace.append (isBelowText_digits _)

theorem projectPage_eq (project : ProjectId) (root : String) :
    projectPage root project = root ++ String.ofList (projectPlace project) := by
  unfold projectPage projectPlace Decimal.text
  rw [String.ofList_append, String.ofList_toList, String.append_assoc]

theorem editPage_eq (project : ProjectId) (root : String) :
    editPage root project =
      root ++ String.ofList (projectPlace project ++ "/edit".toList) := by
  rw [String.ofList_append, String.ofList_toList, ← String.append_assoc, ← projectPage_eq]
  unfold editPage projectPage
  rfl

variable [NameMapping] {root : String} {base : Address} (hbase : Address.parse root = .ok base)
  (hweb : base.kind = .web) (hslash : root.toList.getLast? = some '/') (project : ProjectId)

include hbase hweb hslash

/-- **The page of a project has an address on the site.** -/
theorem exists_projectPage :
    ∃ form, Address.parse (projectPage root project) = .ok form ∧ form.IsOnSite base := by
  rw [projectPage_eq]
  exact exists_parse_below hbase hweb hslash (isBelowText_projectPlace project)

/-- **The edit page of a project has an address on the site.** -/
theorem exists_editPage :
    ∃ page, Address.parse (editPage root project) = .ok page ∧ page.IsOnSite base := by
  have hplace : IsBelowText "/edit".toList := by decide
  rw [editPage_eq]
  exact exists_parse_below hbase hweb hslash ((isBelowText_projectPlace project).append hplace)

end BadgeEntry.Site
