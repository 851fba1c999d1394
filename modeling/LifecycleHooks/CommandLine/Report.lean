import LifecycleHooks.Decision
import LifecycleHooks.Engine.Basic
import LifecycleHooks.Json.Printer
import LifecycleHooks.Text.Lines

/-!
What the command line prints: results and decisions, lists of hooks, and what was found.
-/

namespace LifecycleHooks.CommandLine

def unlines (lines : List String) : String := String.join (lines.map (· ++ "\n"))

namespace Report

def noHooks : String := "No hooks configured."

def status (result : Result) : String := if result.success then "ok" else "FAILED"

def resultLines (number : Nat) (result : Result) : List String :=
  ("[" ++ toString number ++ "] " ++ status result ++ " (exit " ++ toString result.exitCode ++ ", " ++
      toString result.executionTimeMs ++ "ms)") ::
    (Text.lines result.stdout).map ("    " ++ ·) ++ (Text.lines result.stderr).map ("  ! " ++ ·)

def resultsText (event : EventType) (results : List Result) : List String :=
  if results.isEmpty then ["No hooks configured for " ++ event.name]
  else (results.zipIdx.map fun (result, i) => resultLines (i + 1) result).flatten

def decisionLines : Decision → List String
  | .allow => ["Decision: allow"]
  | .block reason => ["Decision: block (" ++ reason ++ ")"]
  | .modify payload => ["Decision: modify", payload.indented]

def text (event : EventType) (results : List Result) (decision : Decision) : String :=
  unlines (resultsText event results ++ decisionLines decision)

def resultJson (result : Result) : Json :=
  Json.objectOf [("exitCode", .number (.whole result.exitCode)), ("stdout", .string result.stdout),
    ("stderr", .string result.stderr), ("success", .bool result.success),
    ("executionTimeMs", .number (.whole result.executionTimeMs))]

def decisionJson : Decision → Json
  | .allow => Json.objectOf [("action", .string "allow")]
  | .block reason => Json.objectOf [("action", .string "block"), ("reason", .string reason)]
  | .modify payload => Json.objectOf [("action", .string "modify"), ("payload", payload)]

def json (event : EventType) (results : List Result) (decision : Decision) : Json :=
  Json.objectOf [("event", .string event.name), ("results", .array (results.map resultJson)),
    ("decision", decisionJson decision)]

def jsonFormat : String := "json"

def execution (format : String) (event : EventType) (results : List Result) (decision : Decision) :
    String :=
  if format = jsonFormat then (json event results decision).indented ++ "\n"
  else text event results decision

def flags (hook : Hook) : List String :=
  ["timeout " ++ toString hook.timeout ++ "ms"] ++
    (if hook.abortOnFailure then ["abort on failure"] else []) ++
    (if hook.runAsync then ["async"] else []) ++
    (match hook.workingDirectory with
      | some directory => ["cwd " ++ directory.text]
      | none => []) ++
    (if hook.environment.isEmpty then []
      else [toString hook.environment.length ++ " env var(s)"])

def hookLine (hook : Hook) : String := hook.label ++ " [" ++ ", ".intercalate (flags hook) ++ "]"

def listPart (event : EventType) (hooks : List Hook) : List String :=
  if hooks.isEmpty then [] else (event.name ++ ":") :: hooks.map fun hook => "  " ++ hookLine hook

def list (events : List EventType) (hooks : EventType → List Hook) : String :=
  let parts := events.flatMap fun event => listPart event (hooks event)
  unlines (if parts.isEmpty then [noHooks] else parts)

def nameWidth : Nat := 20

def countLine (name : String) (count : Nat) : String :=
  "  " ++ name ++ String.ofList (List.replicate (nameWidth - name.length) ' ') ++ " " ++ toString count

def counts (summary : Engine.Summary) : List String :=
  if summary.total = 0 then ["", noHooks]
  else
    "" :: (summary.hooksPerType.map fun (event, count) => countLine event.name count) ++
      [countLine "total" summary.total]

def place (title : String) (path : Path) (found : Bool) : String :=
  title ++ path.text ++ (if found then "" else " (not found)")

def watching (settings workspaceFile : Path) : String :=
  "Watching " ++ settings.text ++ " and " ++ workspaceFile.text ++ " (Ctrl-C to stop)"

def check (workspace settings workspaceFile : Path) (settingsFound workspaceFileFound : Bool)
    (summary : Engine.Summary) : String :=
  unlines <|
    ["Workspace:      " ++ workspace.text, place "Settings:       " settings settingsFound,
      place "Workspace file: " workspaceFile workspaceFileFound] ++ counts summary

end Report

end LifecycleHooks.CommandLine
