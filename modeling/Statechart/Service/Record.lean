import Statechart.Value.Literal
import Statechart.Script

/-!
# Records of services

The line that the library logs about a milestone of a service; milestones inside the handling of an event have none.
-/

set_option autoImplicit false
set_option relaxedAutoImplicit false

namespace Statechart.Milestone

/-- The level and the text of the line about a milestone of a service of the named machine. -/
def record? (machine : Value) : Milestone → Option (String × String)
  | .started state =>
    some ("INFO", "Service for machine " ++ machine.shown ++ " started in " ++ state.shown)
  | .stopped state =>
    some ("INFO", "Service for machine " ++ machine.shown ++ " stopped in " ++ state.shown)
  | .dropped event status =>
    some ("DEBUG", "Dropping event " ++ event.kind.shown ++ " sent to " ++ status.text ++ " service")
  | .queued event => some ("DEBUG", "Queued reentrant event " ++ event.kind.shown)
  | .committed source event state =>
    if state.changed then
      some ("DEBUG", machine.shown ++ ": " ++ source.shown ++ " --" ++ event.kind.shown ++ "--> "
        ++ state.value.shown ++ " (" ++ toString state.actions.length ++ " effects)")
    else some ("DEBUG", machine.shown ++ ": " ++ event.kind.shown ++ " ignored in " ++ source.shown)
  | _ => none

end Statechart.Milestone
