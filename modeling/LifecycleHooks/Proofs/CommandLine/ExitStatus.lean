import LifecycleHooks.CommandLine.Session
import LifecycleHooks.Proofs.Engine.Gating
import LifecycleHooks.Proofs.Engine.Reload
import LifecycleHooks.Proofs.Json.Fields

/-!
What the exit status of a run tells. It is zero exactly if the action may go on, whatever the hooks do
and in whatever format the results are reported.
-/

namespace LifecycleHooks

namespace Machine

open Engine (Turn turns turn left taken)

variable {runner : Runner} {context : Context} {hooks : List Hook}
  {state : Engine.State Unit Machine}

end Machine

/-! Paths with nothing to expand. -/

namespace Environment

end Environment

namespace CommandLine

/-! The report in JSON. -/

namespace Report

end Report

namespace Session

def sources (machine : Machine) (workspace settings : Path) : Sources :=
  machine.sources (readSettings machine settings).1.get? (some workspace)

end Session

/-- What running the hooks of an event comes to: the turns that are taken, reported on. -/
theorem run_eq (runner : Machine.Runner) (session : Session) (event : EventType)
    (file : Option Path) (data : Json) (format : String) :
    let context := runContext session event file data
    let host := Machine.hostOf runner
    let took := Engine.taken host
      (Engine.turns host context (session.engine.registry.list event) session.engine)
    let results := took.map Engine.Turn.result
    let decision := Decision.ofResults event results
    run runner session event file data format =
      finish (Engine.left session.engine took) (exitStatus decision)
        (Report.execution format event results decision) := by
  intro context host took results decision
  have executed := Engine.execute_eq host context session.engine
  rw [run, execute, executed]
  rfl

end CommandLine

end LifecycleHooks
