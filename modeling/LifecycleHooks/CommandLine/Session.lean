import LifecycleHooks.CommandLine.Arguments
import LifecycleHooks.CommandLine.Report
import LifecycleHooks.Runner
import LifecycleHooks.Text.Controls
import LifecycleHooks.Watch.Watcher

/-!
What the command line does with its arguments on a machine. Hooks are loaded from the settings file
and the workspace, and run, listed or counted.
-/

namespace LifecycleHooks.CommandLine

structure Outcome where
  exit : Nat
  stdout : String
  stderr : String
  machine : Machine

inductive Failure
  | unsetVariable (unset : Environment.Unset)
  | badData
  deriving DecidableEq

def Failure.summary : Failure → String
  | unsetVariable unset => unset.summary
  | badData => "--data is not valid JSON"

def versionText : String := "hookwork 0.1.0"

structure Session where
  workspace : Path
  settings : Path
  workspaceFile : Path
  summary : Engine.Summary
  engine : Engine.State Unit Machine

namespace Session

def workspaceOf (machine : Machine) (request : Request) : Except Environment.Unset Path :=
  match request.workspace with
  | some path => machine.environment.expand path
  | none => .ok ⟨Text.fromOctets (Route.ofLocation machine.cwd).text⟩

def settingsOf (machine : Machine) (request : Request) : Except Environment.Unset Path :=
  match request.settings with
  | some path => machine.environment.expand path
  | none => Settings.defaultPath machine.environment

def readSettings (machine : Machine) (path : Path) : Settings × List Warning :=
  let (file, warnings) := (SettingsFile.new path).refresh
    (machine.tree.modified? machine.cwd path.route) (Settings.load machine.tree machine.cwd path)
  (file.settings, warnings)

def start (machine : Machine) (workspace settings : Path) : Session :=
  let (values, warnings) := readSettings machine settings
  let (summary, engine) := machine.engine values.get? (some workspace)
  { workspace := workspace
    settings := settings
    workspaceFile := workspace.join Loading.workspaceFileName
    summary := summary
    engine := { engine with warnings := warnings ++ engine.warnings } }

def ofRequest (machine : Machine) (request : Request) : Except Environment.Unset Session := do
  let workspace ← workspaceOf machine request
  let settings ← settingsOf machine request
  return start machine workspace settings

end Session

def warningLines (warnings : List Warning) : String :=
  unlines (warnings.map fun warning => "WARN " ++ Text.withoutControls warning.message)

def dataOf : Option String → Except Failure Json
  | none => .ok .null
  | some text =>
      match Json.parse text with
      | .ok value => .ok value
      | .error _ => .error .badData

def runContext (session : Session) (event : EventType) (file : Option Path) (data : Json) : Context :=
  { Context.bare event with workspace := some session.workspace, file := file, data := data }

def exitStatus (decision : Decision) : Nat := if decision.isAllowed then 0 else 1

def finish (engine : Engine.State Unit Machine) (exit : Nat) (stdout : String) : Outcome :=
  ⟨exit, stdout, warningLines engine.warnings, engine.rest⟩

def execute (runner : Machine.Runner) (session : Session) (context : Context)
    (conclude : List Result → Engine.State Unit Machine → Outcome) : Outcome :=
  match Engine.execute (Machine.hostOf runner) context.eventType context session.engine with
  | (.ok results, engine) => conclude results engine
  | (.error mismatch, engine) =>
      { finish engine 1 "" with stderr := "Error: " ++ mismatch.message ++ "\n" }

def run (runner : Machine.Runner) (session : Session) (event : EventType) (file : Option Path)
    (data : Json) (format : String) : Outcome :=
  execute runner session (runContext session event file data) fun results engine =>
    let decision := Decision.ofResults event results
    finish engine (exitStatus decision) (Report.execution format event results decision)

/-- Executes the hooks for an opened workspace and watches the files that hooks are loaded from. It is
stopped before one of them changes. -/
def watch (runner : Machine.Runner) (session : Session) : Outcome :=
  execute runner session (runContext session .workspaceOpen none .null) fun _ engine =>
    let files := [session.settings, session.workspaceFile]
    let (_, warnings) := Watch.Watcher.start engine.rest.tree engine.rest.cwd files
    finish { engine with warnings := engine.warnings ++ warnings } 0
      (unlines [Report.watching session.settings session.workspaceFile, "Stopped."])

def list (session : Session) (event : Option EventType) : Outcome :=
  let events := match event with
    | some event => [event]
    | none => EventType.all
  finish session.engine 0 (Report.list events session.engine.registry.list)

def check (session : Session) : Outcome :=
  let found (path : Path) : Bool :=
    session.engine.rest.tree.pathExists session.engine.rest.cwd path.route
  finish session.engine 0 (Report.check session.workspace session.settings session.workspaceFile
    (found session.settings) (found session.workspaceFile) session.summary)

def fail (machine : Machine) (warnings : List Warning) (failure : Failure) : Outcome :=
  ⟨1, "", warningLines warnings ++ "Error: " ++ failure.summary ++ "\n", machine⟩

def perform (runner : Machine.Runner) (machine : Machine) (request : Request) : Outcome :=
  match Session.ofRequest machine request with
  | .error unset => fail machine [] (.unsetVariable unset)
  | .ok session =>
      match request.action with
      | .run event file data format =>
          match dataOf data with
          | .ok value => run runner session event file value format
          | .error failure => fail machine session.engine.warnings failure
      | .list event => list session event
      | .check => check session
      | .watch => watch runner session

def misuseStatus : Nat := 2

def respond (machine : Machine) (args : List String) : Outcome :=
  match request machine.environment args with
  | .ok request => perform Machine.run machine request
  | .error .version => ⟨0, versionText ++ "\n", "", machine⟩
  | .error .help => ⟨0, "", "", machine⟩
  | .error (.usage error) => ⟨misuseStatus, "", "error: " ++ error.message ++ "\n", machine⟩

end LifecycleHooks.CommandLine
