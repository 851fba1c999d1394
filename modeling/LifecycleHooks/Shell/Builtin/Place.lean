import LifecycleHooks.Shell.Builtin.Basic
import LifecycleHooks.Tool.Condition
import LifecycleHooks.Tool.Mode

/-!
Where a shell is, what new files of its are like, and questions about files.
-/

namespace LifecycleHooks.Shell.Builtin

open Process

def freeOfLinks (found : List (Char × String)) : Bool := (found.getLast?.map Prod.fst) == some 'P'

def pwd (args : List String) : Run Unit := do
  let (found, _) ← options "LP" args
  ok
  let state ← get
  say ((if freeOfLinks found then (Route.ofLocation state.cwd).text else state.path) ++ "\n")

/-- The slashes in front of a path; two of them are kept. -/
def rootOf (path : String) : String :=
  match path.toList with
  | '/' :: '/' :: '/' :: _ => "/"
  | '/' :: '/' :: _ => "//"
  | _ => "/"

def pathFrom (path target : String) : String :=
  let isWhole := Route.isAbsolute ⟨target⟩
  let pieces := (if isWhole then [] else path.splitOn "/") ++ target.splitOn "/"
  let steps := pieces.foldl (fun (steps : List String) piece =>
    if piece.isEmpty || piece == "." then steps
    else if piece == ".." then steps.dropLast
    else steps ++ [piece]) []
  rootOf (if isWhole then target else path) ++ "/".intercalate steps

def enter (isPlain : Bool) (target : String) : Run Bool := do
  let state ← get
  let tree ← (Work.view state.pid : Work FileTree)
  match tree.stat state.cwd ⟨if isPlain then target else pathFrom state.path target⟩ with
  | .error _ => return false
  | .ok (location, node) =>
      if node.isDirectory then
        let path := if isPlain then (Route.ofLocation location).text else pathFrom state.path target
        exportVariable "OLDPWD" (some state.path)
        modify fun state => { state with cwd := location, path := path }
        exportVariable "PWD" (some path)
        ok
        return true
      else return false

def searchedFor (target search : String) : List String :=
  let isOwn : Bool := match target.toList with
    | '/' :: _ => true
    | ['.'] => true
    | '.' :: '/' :: _ => true
    | ['.', '.'] => true
    | '.' :: '.' :: '/' :: _ => true
    | _ => false
  if isOwn || search.isEmpty then [""]
  else (Text.splitOnChar ':' search.toList).map String.ofList ++ [""]

def cd (args : List String) : Run Unit := do
  let (options, args) ← options "LP" args
  let isPlain := freeOfLinks options
  let state ← get
  let target := match args with
    | [] => (state.value? "HOME").getD ""
    | "-" :: _ => (state.value? "OLDPWD").getD ""
    | target :: _ => target
  let target := if target.isEmpty then "." else target
  let tree ← (Work.view state.pid : Work FileTree)
  let found := (searchedFor target ((state.value? "CDPATH").getD "")).findSome? fun place =>
    let path := if place.isEmpty then target else place ++ "/" ++ target
    if tree.isDirectoryAt state.cwd ⟨path⟩ then some (path, !place.isEmpty) else none
  let (path, isShown) := found.getD (target, false)
  if ← enter isPlain path then
    if isShown || args.head? == some "-" then say ((← get).path ++ "\n")
  else abort ("can't cd to " ++ target)

def permissionDigits (mask : Nat) : List Nat := [mask / 64 % 8, mask / 8 % 8, mask % 8]

def granted (digit : Nat) : String :=
  String.ofList ([(4, 'r'), (2, 'w'), (1, 'x')].filterMap fun (weight, letter) =>
    if digit / weight % 2 == 0 then some letter else none)

def umask (args : List String) : Run Unit := do
  let (found, args) ← options "S" args
  ok
  let pid := (← get).pid
  let mask ← (Work.look fun world => world.mask pid : Work Nat)
  let setMask (mask : Nat) : Run Unit :=
    (Work.modify fun world => world.changeEntry pid fun entry => { entry with mask := mask } : Work Unit)
  let digits := permissionDigits mask
  match args with
  | [] =>
      if found.isEmpty then say ("0" ++ String.join (digits.map toString) ++ "\n")
      else
        let shown := (["u", "g", "o"].zip digits).map fun (who, digit) => who ++ "=" ++ granted digit
        say (",".intercalate shown ++ "\n")
  | text :: _ =>
      let isNumber := (text.toList.head?.map Char.isDigit).getD false
      if isNumber && !text.toList.all Numeral.isOctal then abort ("Illegal number: " ++ text)
      else
        match Tool.Mode.ofChanges? text with
        | some (.absolute bits) => setMask (bits % 512)
        | some mode => setMask (511 - mode.apply 0 false (511 - mask))
        | none => abort ("Illegal mode: " ++ text)

def testComplaint : Tool.Condition.Problem → String
  | .missingBracket => "missing ]"
  | .unexpectedOperator text => text ++ ": unexpected operator"
  | .argumentExpected operator => operator ++ ": argument expected"
  | .closingExpected => "closing paren expected"
  | .notANumber text => "Illegal number: " ++ text

def test (name : String) (args : List String) : Run Unit := do
  let state ← get
  let tree ← (Work.view state.pid : Work FileTree)
  let result := (Tool.Condition.unbracket name args).bind
    (Tool.Condition.holds (Tool.Condition.Sight.ofTree tree state.cwd))
  match result with
  | .ok value => setStatus (if value then 0 else 1)
  | .error problem => abort (testComplaint problem)

end LifecycleHooks.Shell.Builtin
