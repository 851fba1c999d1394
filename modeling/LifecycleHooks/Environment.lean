import LifecycleHooks.Path
import LifecycleHooks.Json.Basic
import LifecycleHooks.Text.Alphanumeric

/-!
Environments, and the expansion of `~`, `$NAME`, `${NAME}` and `${NAME:-default}` in paths.
-/

namespace LifecycleHooks

abbrev Environment := Fields String

namespace Environment

def divide? : List Char → Option (List Char × List Char)
  | [] => none
  | c :: rest =>
      if c = '=' then some ([], rest)
      else (divide? rest).map fun (front, value) => (c :: front, value)

/-- The variable in an entry; an equals sign in front belongs to its name. -/
def assigned? (entry : String) : Option (String × String) :=
  match entry.toList with
  | [] => none
  | c :: rest =>
      (divide? rest).map fun (name, value) => (String.ofList (c :: name), String.ofList value)

def ofEntries (entries : List String) : Environment :=
  Fields.ofList (entries.filterMap assigned?)

def valueIn? (name entry : List Char) : Option (List Char) :=
  match name, entry with
  | [], '=' :: value => some value
  | c :: name, d :: entry => if c = d then valueIn? name entry else none
  | _, _ => none

/-- The value of a variable. Entries are names and values with equals signs between them, so a name
with an equals sign in it may lead into a value. -/
def get? (environment : Environment) (name : String) : Option String :=
  if name.isEmpty then none
  else
    (environment.findSome? fun entry =>
      valueIn? name.toList (entry.1.toList ++ '=' :: entry.2.toList)).map String.ofList

def set (environment : Environment) (name value : String) : Environment :=
  Fields.insert name value environment

def setAll (environment : Environment) (given : Environment) : Environment :=
  given.foldl (fun result pair => result.set pair.1 pair.2) environment

/-- The home directory that the account database gives when the environment names none. -/
def accountHome : String := "/root"

def home (environment : Environment) : String :=
  match environment.get? "HOME" with
  | some home => if home.isEmpty then accountHome else home
  | none => accountHome

structure Unset where
  path : String
  name : String
  deriving DecidableEq

def Unset.summary (unset : Unset) : String := "failed to expand path " ++ unset.path

def Unset.message (unset : Unset) : String :=
  unset.summary ++ ": error looking key '" ++ unset.name ++ "' up: environment variable not found" ++
    ": environment variable not found"

def isNameChar (c : Char) : Bool := c == '_' || Text.isAlphanumeric c

/-- The text before the first `:-` behind its first character, and the text behind it. -/
def splitDefault : List Char → List Char × Option (List Char)
  | [] => ([], none)
  | c :: rest =>
      let (name, default?) := splitDefault rest
      match rest with
      | ':' :: '-' :: value => ([c], some value)
      | _ => (c :: name, default?)

/-- A name and its default; a name is never empty when a default is given. -/
def defaultOf : List Char → List Char × Option (List Char)
  | ':' :: '-' :: rest => (':' :: '-' :: rest, none)
  | body => splitDefault body

/-- One expanded piece of a text and the number of characters behind its dollar sign that it used,
or the name of a variable that is missing. -/
def expandDollar (environment : Environment) (rest : List Char) :
    Except String (List Char × Nat) :=
  match rest with
  | '\x7b' :: inner =>
      let body := inner.takeWhile (· != '\x7d')
      if body.length = inner.length then .ok (['$', '\x7b'], 1)
      else
        let (name, default?) := defaultOf body
        match environment.get? (String.ofList name), default? with
        | some value, _ => .ok (value.toList, body.length + 2)
        | none, some value => .ok (value, body.length + 2)
        | none, none => .error (String.ofList name)
  | '$' :: _ => .ok (['$'], 1)
  | _ =>
      let name := rest.takeWhile isNameChar
      if name.isEmpty then .ok (['$'], 0)
      else
        match environment.get? (String.ofList name) with
        | some value => .ok (value.toList, name.length)
        | none => .error (String.ofList name)

def expandVariables (environment : Environment) (chars : List Char) :
    Except String (List Char) :=
  match chars with
  | [] => .ok []
  | c :: rest =>
      if c = '$' then
        match expandDollar environment rest with
        | .error name => .error name
        | .ok (piece, used) =>
            match expandVariables environment (rest.drop used) with
            | .error name => .error name
            | .ok others => .ok (piece ++ others)
      else
        match expandVariables environment rest with
        | .error name => .error name
        | .ok others => .ok (c :: others)
termination_by chars.length
decreasing_by all_goals simp only [List.length_drop, List.length_cons]; omega

/-- A tilde stands for the home directory when nothing or a slash follows it. -/
def expandTilde (environment : Environment) : List Char → List Char
  | ['~'] => environment.home.toList
  | '~' :: '/' :: rest => environment.home.toList ++ '/' :: rest
  | chars => chars

/-- Expands variables, and then a tilde that was written and did not come from a variable. -/
def expandChars (environment : Environment) (chars : List Char) : Except String (List Char) :=
  match expandVariables environment chars with
  | .error name => .error name
  | .ok expanded =>
      .ok (if chars.head? = some '~' then expandTilde environment expanded else expanded)

def expand (environment : Environment) (path : Path) : Except Unset Path :=
  match expandChars environment path.text.toList with
  | .ok expanded => .ok ⟨String.ofList expanded⟩
  | .error name => .error ⟨path.text, name⟩

end Environment

end LifecycleHooks
