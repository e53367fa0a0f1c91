import BadgeEntry.Text.Blank
import BadgeEntry.World.Event

/-!
# The pages of a site

A site is known by the address of its root, which ends in a slash.  The pages of
a project and of the listing lie at fixed places below it.

## Main definitions

* `Deployment`, `Deployment.root` — the known sites.
* `normalize` — the root address that a typed one stands for.
* `editPage`, `projectPage`, `listingPage` — the pages.

## Main results

* `normalize_eq_none_iff` — only blanks and slashes stand for no site.
-/

namespace BadgeEntry.Site

open Text

/-- The site on this machine. -/
def localRoot : String := "http://localhost:3000/"

/-- The site for trials. -/
def stagingRoot : String := "https://staging.bestpractices.coreinfrastructure.org/"

/-- The site with the real entries. -/
def productionRoot : String := "https://bestpractices.coreinfrastructure.org/"

/-- The known sites. -/
inductive Deployment where
  /-- The site on this machine. -/
  | onThisMachine
  /-- The site for trials. -/
  | staging
  /-- The site with the real entries. -/
  | production
  deriving DecidableEq, Repr

/-- The name of a known site. -/
def Deployment.name : Deployment → String
  | .onThisMachine => "local"
  | .staging => "staging"
  | .production => "production"

/-- The root of a known site. -/
def Deployment.root : Deployment → String
  | .onThisMachine => localRoot
  | .staging => stagingRoot
  | .production => productionRoot

/-- A typed root without blanks around it and without slashes at its end. -/
def stem (input : List Char) : List Char :=
  dropEnd (· = '/') (trim input)

/-- The root that a typed one stands for: without blanks around it, and with one
slash at its end.  Nothing but slashes stands for no site. -/
def normalize (input : String) : Option String :=
  match stem input.toList with
  | [] => none
  | c :: cs => some (String.ofList (c :: cs ++ ['/']))

theorem normalize_eq_none_iff (input : String) :
    normalize input = none ↔ stem input.toList = [] := by
  unfold normalize
  split <;> simp_all

/-- The form in which a project is edited. -/
def editPage (root : String) (project : ProjectId) : String :=
  root ++ "en/projects/" ++ Decimal.text project.toNat ++ "/edit"

/-- The page of a project, to which its form is submitted. -/
def projectPage (root : String) (project : ProjectId) : String :=
  root ++ "en/projects/" ++ Decimal.text project.toNat

/-- A page of the listing of all projects. -/
def listingPage (root : String) (page : UInt32) : String :=
  root ++ "projects.json?page=" ++ Decimal.text page.toNat

end BadgeEntry.Site
