import BadgeEntry.Client.Basic
import BadgeEntry.Proofs.World.Determined

/-!
# Writing, and the replies that it meets

Writing to a project asks the network for replies and looks at nothing else in the world.
So what comes of it is determined by these replies, and neither what was sent nor what was
reported before makes a difference.

## Main results

* `Client.determined_readTokens`, `Client.determined_submit` — the two steps.
* `Client.determined_write`, `determined_writeToProject` — **writing is determined by the
  replies that it meets.**
-/

namespace BadgeEntry

open Http Site Submission Form Url Visit

variable {kind : Request → Prop}

namespace Client

variable (c : Client) (project : ProjectId) (updates : Updates) (login : String)

theorem determined_tokensOfAnswer (address : Address) (response : Response) :
    (c.tokensOfAnswer project login address response).Determined kind := by
  unfold tokensOfAnswer
  split
  · exact (determined_report _).bind fun _ => determined_pure _
  · refine (determined_reportAll _).bind fun _ => ?_
    refine (determined_bodyText response).bind fun page => ?_
    exact (determined_reportAll _).bind fun _ => determined_pure _

variable [NameMapping]

/-- Reading an edit page is determined by the replies. -/
theorem determined_readTokens : (c.readTokens project login).Determined fun _ => True := by
  unfold readTokens
  split
  · exact determined_throw_bind _ _
  · refine (determined_ofExcept _ _).bind fun address => ?_
    refine (determined_checkFields _).bind fun fields => ?_
    refine (determined_report _).bind fun _ => ?_
    refine (determined_send Method.noConfusion trivial trivial).bind fun response => ?_
    exact c.determined_tokensOfAnswer project login address response

/-- Submitting a form is determined by the replies. -/
theorem determined_submit (tokens : PageTokens) :
    (c.submit project updates tokens).Determined fun _ => True := by
  unfold submit
  split
  · exact determined_throw_bind _ _
  · refine (determined_ofExcept _ _).bind fun address => ?_
    refine (determined_checkFields _).bind fun fields => ?_
    refine (determined_report _).bind fun _ => ?_
    refine (determined_send Method.noConfusion trivial trivial).bind fun response => ?_
    exact (determined_report _).bind fun _ => determined_pure _

theorem determined_mutate : (c.mutate project updates login).Determined fun _ => True := by
  unfold mutate
  refine (c.determined_readTokens project login).bind fun tokens => ?_
  split
  · exact determined_pure _
  · exact c.determined_submit project updates tokens

/-- **Writing is determined by the replies that it meets.** -/
theorem determined_write : (c.write project updates login).Determined fun _ => True := by
  unfold write
  exact (c.determined_mutate project updates login).bind fun _ => determined_pure _

end Client

/-- Writing in the usual way is determined by the replies as well. -/
theorem determined_writeToProject [NameMapping] (root : String) (project : ProjectId)
    (updates : Updates)
    (login : String) : (writeToProject root project updates login).Determined fun _ => True := by
  unfold writeToProject
  exact (determined_ofExcept _ _).bind fun client => client.determined_write project updates login

end BadgeEntry
