import LifecycleHooks.EventType
import LifecycleHooks.Hook.Basic

/-!
What users are told about configuration that was passed over and hooks that failed.
-/

namespace LifecycleHooks

inductive Warning
  | badList (source : String) (found : Json)
  | badHook (index : Nat) (source : String) (cause : Hook.Invalid)
  | unknownEvent (name : String)
  | badSection
  | badSettings (cause : String)
  | failedHook (label : String) (event : EventType) (exitCode : Int) (stderr : String)
  | unwatched (file : Path)
  deriving DecidableEq

def Warning.message : Warning → String
  | badList source found =>
      "Ignoring hooks under '" ++ source ++ "': expected an array or object, got " ++ found.text
  | badHook index source cause =>
      "Ignoring hook #" ++ toString index ++ " under '" ++ source ++ "': " ++ cause.message
  | unknownEvent name => "Ignoring hooks for " ++ EventType.unknownMessage name
  | badSection => "Ignoring 'hooks' section: expected an object"
  | badSettings cause => "Ignoring settings: " ++ cause
  | failedHook label event exitCode stderr =>
      "Hook '" ++ label ++ "' for " ++ event.name ++ " failed (exit code " ++ toString exitCode ++
        "): " ++ Text.trim stderr
  | unwatched file => "Not watching " ++ file.text ++ ": its directory does not exist"

end LifecycleHooks
