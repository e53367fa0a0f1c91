import BadgeEntry.Proofs.Client.Course
import BadgeEntry.Proofs.Client.Made

/-!
# Who decides that a page may not be edited

The site decides: an answer that is a success shows the edit page, any other one means
that it may not be edited.  But the client also compares the address it asked for with
the one the answer comes from, to find out that it was sent elsewhere, and an answer
never comes from an address with user information or a fragment.  So the decision is the
site's for a plain root only; with any other one, every page is taken for one that may
not be edited.

## Main definitions

* `Visit.errors` — the errors that a visit reports.
* `Client.FollowsAnswer` — the answer decides.

## Main results

* `Client.level_of_mem_reportsOn` — what is reported of a page is a warning.
* `Client.followsAnswer_iff` — **the answer decides just when the root is plain or the
  answer is no success.**
-/

namespace BadgeEntry

open Http Site EditPage Url Visit Session

/-- The errors that a visit reports, the first one first. -/
def Visit.errors {α : Type} (v : Visit α) (w : World) : List Event :=
  (v.reports w).filter fun e => e.level = .error

namespace Client

variable {c : Client} {project : ProjectId} {login : String} {page base : Address}
  {answer : Response} {bytes : List UInt8} {w : World}

/-! ### Warnings -/

theorem level_of_mem_nextLogin {headers : List Header} {name current : String} {e : Event}
    (he : e ∈ (nextLogin headers name current).2) : e.level = .warn := by
  unfold nextLogin at he
  split at he
  · obtain rfl := List.mem_singleton.mp he
    rfl
  · split at he
    · cases he
    · obtain rfl := List.mem_singleton.mp he
      rfl

theorem level_of_mem_extract {x : TokenPatterns} {text : String} {kind : TokenKind} {e : Event}
    (he : e ∈ (x.extract text kind).2) : e.level = .warn := by
  unfold TokenPatterns.extract at he
  split at he
  · cases he
  · obtain rfl := List.mem_singleton.mp he
    rfl

/-- What is reported of a page is a warning, if its tokens are found with patterns. -/
theorem level_of_mem_reportsOn {x : TokenPatterns} (hx : c.extractor = .ofPatterns x)
    {headers : List Header} {e : Event} (he : e ∈ c.reportsOn login headers bytes) :
    e.level = .warn := by
  rw [reportsOn, hx, List.mem_append, List.mem_append] at he
  rcases he with hlogin | hauthenticity | hcsrf
  · exact level_of_mem_nextLogin hlogin
  · exact level_of_mem_extract hauthenticity
  · exact level_of_mem_extract hcsrf

/-! ### The decision -/

section

variable [NameMapping]

/-- Whether the answer decides if the page may be edited.  A success shows the page, and
no error is reported; with any other answer the login stays the same, and the one error
that is reported is the denial. -/
structure FollowsAnswer (c : Client) (project : ProjectId) (login : String) (w : World)
    (answer : Response) (bytes : List UInt8) : Prop where
  /-- A success shows the page. -/
  shown : answer.status.isSuccess = true →
    ((c.readTokens project login).run w).1 = .ok (c.tokensIn project login answer.headers bytes) ∧
      (c.readTokens project login).errors w = []
  /-- Any other answer denies it. -/
  denied : answer.status.isSuccess = false →
    ((c.readTokens project login).run w).1 = .ok (.denied project login) ∧
      (c.readTokens project login).errors w = [.editPageDenied project answer.status]

/-- What an answer without the page comes to. -/
theorem readTokens_of_hidden (ready : c.CanAsk project login page)
    (answers : w.network.Answers page answer) (hidden : ¬Shows page answer) :
    ((c.readTokens project login).run w).1 = .ok (.denied project login) ∧
      (c.readTokens project login).errors w = [.editPageDenied project answer.status] := by
  have hrun := c.readTokens_run_of_answers project login ready answers
  rw [tokensOfAnswer_run, if_neg hidden] at hrun
  refine ⟨by rw [hrun], ?_⟩
  have hreports : (c.readTokens project login).reports w =
      [.requestingEditPage project page.text, .editPageDenied project answer.status] := by
    refine reports_eq ?_
    rw [hrun]
    exact List.append_assoc ..
  rw [errors, hreports]
  rfl

/-- What an answer with the page comes to. -/
theorem readTokens_of_shows {x : TokenPatterns} (hx : c.extractor = .ofPatterns x)
    (ready : c.CanAsk project login page) (answers : w.network.Answers page answer)
    (shows : Shows page answer) (complete : answer.body = some bytes) :
    ((c.readTokens project login).run w).1 = .ok (c.tokensIn project login answer.headers bytes) ∧
      (c.readTokens project login).errors w = [] := by
  have hrun := c.readTokens_run_of_answers project login ready answers
  rw [tokensOfAnswer_run, if_pos shows, complete] at hrun
  refine ⟨by rw [hrun], ?_⟩
  have hreports : (c.readTokens project login).reports w =
      .requestingEditPage project page.text :: c.reportsOn login answer.headers bytes := by
    refine reports_eq ?_
    rw [hrun]
    exact List.append_assoc ..
  rw [errors, hreports, List.filter_eq_nil_iff]
  intro e he herror
  rw [decide_eq_true_eq] at herror
  have hlevel : e.level ≠ .error := by
    rcases List.mem_cons.mp he with rfl | hmem
    · exact Level.noConfusion
    · rw [level_of_mem_reportsOn hx hmem]
      exact Level.noConfusion
  exact hlevel herror

/-- **The answer decides if a page may be edited just when the root is plain or the answer
is no success**, for every client that was made for a site with the scheme `http`.  With
user information or a fragment in the root, the page is denied whatever the answer. -/
theorem followsAnswer_iff {settings : Settings} (hmade : create? settings = .ok c)
    (hbase : Address.parse c.root = .ok base) (hhttp : base.scheme = "http")
    (hanswer : c.GetsAnswer login w answer) (hcomplete : answer.body = some bytes)
    (project : ProjectId) :
    (c.FollowsAnswer project login w answer bytes ↔
      (answer.status.isSuccess = true → base.IsPlain)) ∧
    (¬base.IsPlain →
      ((c.readTokens project login).run w).1 = .ok (.denied project login) ∧
        (c.readTokens project login).errors w = [.editPageDenied project answer.status]) := by
  obtain ⟨page, -, hpage, hsite, -⟩ :=
    (isMade_of_create? hmade).exists_pages hbase (kind_of_http hhttp) project
  have hready : c.CanAsk project login page := hanswer.canAsk hpage
  have hanswers : w.network.Answers page answer := hanswer.answers (hsite.scheme.trans hhttp)
  have hhidden (h : ¬Shows page answer) := readTokens_of_hidden hready hanswers h
  have hother (hplain : ¬base.IsPlain) : ¬Shows page answer :=
    fun hshows => hplain (hsite.isPlain_iff.mp hshows.plain)
  have hextractor : c.extractor = .ofPatterns .usual := by
    obtain ⟨_, _, -, -, rfl⟩ := create?_eq_ok hmade
    rfl
  refine ⟨⟨fun hfollows hsuccess => ?_, fun hplain => ⟨fun hsuccess => ?_, fun hfails => ?_⟩⟩,
    fun hplain => hhidden (hother hplain)⟩
  · refine Decidable.byContradiction fun hplain => ?_
    -- the same page would be shown without an error and denied with one
    have hnone := (hfollows.shown hsuccess).2
    rw [(hhidden (hother hplain)).2] at hnone
    cases hnone
  · exact readTokens_of_shows hextractor hready hanswers
      ⟨hsite.isPlain_iff.mpr (hplain hsuccess), hsuccess⟩ hcomplete
  · refine hhidden fun hshows => ?_
    rw [hshows.success] at hfails
    cases hfails

end

/-- On this machine, the answer decides. -/
theorem followsAnswer_onThisMachine :
    onThisMachine.FollowsAnswer 1 "s" (.replying [.answered (.page 200 "")]) (.page 200 "") [] := by
  have hanswer : onThisMachine.GetsAnswer "s" (.replying [.answered (.page 200 "")])
      (.page 200 "") :=
    ⟨by decide, by decide, rfl, rfl⟩
  exact (followsAnswer_iff create?_localRoot rfl rfl hanswer rfl 1).1.mpr fun _ => by decide

/-- A client of the site on this machine with a user name in its root. -/
def withUserName : Client :=
  ⟨{ root := "http://user@localhost:3000/" }, Extractor.usual⟩

/-- **A root with a user name denies a page that was shown.** -/
theorem not_followsAnswer_withUserName :
    let answer := Response.page 200 ""
    let w := World.replying [.answered answer]
    create? withUserName.settings = .ok withUserName ∧ withUserName.GetsAnswer "s" w answer ∧
      answer.status.isSuccess = true ∧
      ((withUserName.readTokens 1 "s").run w).1.toOption = some (.denied 1 "s") ∧
      (withUserName.readTokens 1 "s").errors w = [.editPageDenied 1 answer.status] ∧
      ¬withUserName.FollowsAnswer 1 "s" w answer [] := by
  intro answer w
  have herrors : (withUserName.readTokens 1 "s").errors w = [.editPageDenied 1 answer.status] := by
    decide +kernel
  refine ⟨rfl, ⟨by decide, by decide, rfl, rfl⟩, rfl, by decide +kernel, herrors, ?_⟩
  intro hfollows
  have hnone := (hfollows.shown rfl).2
  rw [herrors] at hnone
  cases hnone

end Client

end BadgeEntry
