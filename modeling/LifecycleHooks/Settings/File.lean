import LifecycleHooks.FileTree.Route
import LifecycleHooks.Loading
import LifecycleHooks.Settings.Basic

/-!
The settings file. Its settings are kept until the time of its last change differs, so a look-up
reads the file at most once per version.
-/

namespace LifecycleHooks

namespace Settings

inductive LoadError
  | read (path : Path) (cause : SystemError)
  | parse (path : Path) (cause : Invalid)
  deriving DecidableEq

def LoadError.message : LoadError → String
  | read path cause => "failed to read " ++ path.text ++ ": " ++ cause.message
  | parse path cause => "failed to parse " ++ path.text ++ ": " ++ cause.message

def ofReading (path : Path) : Option (Except SystemError String) → Except LoadError Settings
  | none => .ok ⟨[], some path⟩
  | some (.error cause) => .error (.read path cause)
  | some (.ok text) =>
      match ofText text with
      | .ok settings => .ok ⟨settings.values, some path⟩
      | .error cause => .error (.parse path cause)

def load (tree : FileTree) (base : Location) (path : Path) : Except LoadError Settings :=
  ofReading path <|
    if tree.pathExists base path.route then some (tree.readText base path.route) else none

end Settings

structure SettingsFile where
  path : Path
  modified : Option Int
  loaded : Bool
  settings : Settings

namespace SettingsFile

def new (path : Path) : SettingsFile := ⟨path, none, false, Settings.empty⟩

def isStale (file : SettingsFile) (modified : Option Int) : Bool :=
  !file.loaded || file.modified != modified

/-- Brings the settings up to date, given the time of the last change and what loading the file
then gives. Settings that cannot be used are empty. -/
def refresh (file : SettingsFile) (modified : Option Int)
    (loading : Except Settings.LoadError Settings) : SettingsFile × List Warning :=
  if file.isStale modified then
    match loading with
    | .ok settings => (⟨file.path, modified, true, settings⟩, [])
    | .error e => (⟨file.path, modified, true, Settings.empty⟩, [.badSettings e.message])
  else (file, [])

/-- Looks a key up in the file. The tree may change between the look at the time of the last change
and the reading of the file. -/
def lookupAcross (file : SettingsFile) (tree meanwhile : FileTree) (base : Location) (key : String) :
    Option Json × SettingsFile × List Warning :=
  let (file, warnings) :=
    file.refresh (tree.modified? base file.path.route) (Settings.load meanwhile base file.path)
  (file.settings.get? key, file, warnings)

def lookup (file : SettingsFile) (tree : FileTree) (base : Location) (key : String) :
    Option Json × SettingsFile × List Warning :=
  file.lookupAcross tree tree base key

end SettingsFile

namespace FileTree

def read (tree : FileTree) (base : Location) (path : Path) : Except ReadError String :=
  match tree.readText base path.route with
  | .ok text => .ok text
  | .error cause =>
      if cause = .noSuchFile then .error (.notFound path) else .error (.io path cause.message)

end FileTree

end LifecycleHooks
