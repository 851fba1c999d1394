/-!
How a hook ended.
-/

namespace LifecycleHooks

structure Result where
  exitCode : Int
  stdout : String
  stderr : String
  success : Bool
  executionTimeMs : Nat
  deriving DecidableEq, Repr

namespace Result

def failureCode : Int := -1

def completed (exitCode : Int) (stdout stderr : String) (elapsedMicros : Nat) : Result :=
  ⟨exitCode, stdout, stderr, exitCode == 0, elapsedMicros / 1000⟩

/-- A hook that could not be run to its end has the reason as its error output. -/
def failed (message : String) (elapsedMicros : Nat) : Result :=
  ⟨failureCode, "", message, false, elapsedMicros / 1000⟩

end Result

end LifecycleHooks
