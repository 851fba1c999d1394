import LifecycleHooks.Environment
import LifecycleHooks.Json.Printer
import LifecycleHooks.Json.Relaxed

/-!
Settings: an object of relaxed JSON whose values are found under dotted keys, written flat or nested.
-/

namespace LifecycleHooks

structure Settings where
  values : Fields Json
  path : Option Path
  deriving DecidableEq

namespace Settings

inductive Invalid
  | notJson
  | notObject (found : Json)
  deriving DecidableEq

def Invalid.message : Invalid → String
  | notJson => "settings are not valid JSON5"
  | notObject found => "settings must be a JSON object, got " ++ found.text

def empty : Settings := ⟨[], none⟩

def ofText (text : String) : Except Invalid Settings :=
  match Json.Relaxed.parse text with
  | .ok (.object values) => .ok ⟨values, none⟩
  | .ok found => .error (.notObject found)
  | .error _ => .error .notJson

def descend (value : Json) : List String → Option Json
  | [] => some value
  | key :: keys =>
      match value.field? key with
      | some inner => descend inner keys
      | none => none

def keyParts (key : String) : List String :=
  (Text.splitOnChar '.' key.toList).map String.ofList

/-- A value written flat wins over one that is nested under the parts of its key. -/
def get? (settings : Settings) (key : String) : Option Json :=
  match Fields.find? key settings.values with
  | some value => some value
  | none => descend (.object settings.values) (keyParts key)

def fileVariable : String := "HOOKWORK_SETTINGS"

def directoryVariable : String := "HOOKWORK_CONFIG_DIR"

def fileName : Path := ⟨"settings.json"⟩

/-- The user's directory of configuration files; a relative one from the environment does not
count. -/
def configurationHome (environment : Environment) : Path :=
  let fallback := Path.join ⟨environment.home⟩ ⟨".config"⟩
  match environment.get? "XDG_CONFIG_HOME" with
  | some directory => if Path.isAbsolute ⟨directory⟩ then ⟨directory⟩ else fallback
  | none => fallback

def defaultPath (environment : Environment) : Except Environment.Unset Path :=
  match environment.get? fileVariable with
  | some file => environment.expand ⟨file⟩
  | none =>
      match environment.get? directoryVariable with
      | some directory => (environment.expand ⟨directory⟩).map (Path.join · fileName)
      | none => .ok (((configurationHome environment).join ⟨"hookwork"⟩).join fileName)

end Settings

end LifecycleHooks
