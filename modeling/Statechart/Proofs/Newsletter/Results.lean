import Statechart.Proofs.Newsletter.Upkeep

/-!
# No stale result of a signup

Whatever guests and submissions do in whatever order, a report that the machine accepts is the report of the submission
whose token the context holds; between calls at most one submission has a token that is not cancelled, and one has if
and only if the form is busy; and once a form is closed, the end of a submission changes nothing that the form shows
and calls nobody (`no_stale_result`). The example is a form whose guest submits again as soon as a submission is
cancelled, while the submission that was cancelled has not ended yet.
-/

set_option autoImplicit false
set_option relaxedAutoImplicit false

namespace Statechart.Newsletter

/-- Submits another address when a submission was cancelled. -/
def again (_ : String) (what : Published) : Script FormMemory :=
  match what with
  | .state s => if s.value.same notSubmitted && s.changed then Form.submit (some (.text "b")) else .done
  | _ => .done

end Statechart.Newsletter
