import LifecycleHooks.Environment
import LifecycleHooks.FileTree.Route

/-!
Which program is run when a file is started: a program of the system, or the interpreter that the
first line of a script names. A name without a slash is looked for in the directories of `PATH`.
-/

namespace LifecycleHooks.Process

open Text (Bytes)

structure Image where
  program : String
  args : List String
  deriving DecidableEq

namespace Image

def interpreterDepth : Nat := 5

def firstLineLimit : Nat := 255

def interpreter? (content : Bytes) : Option (String × Option String) :=
  match (Text.ofOctets ((content.take firstLineLimit).takeWhile (· != 10))).toList with
  | '#' :: '!' :: line =>
      let isBlank (c : Char) : Bool := c == ' ' || c == '\t'
      let trimmed := (line.dropWhile isBlank).reverse.dropWhile isBlank |>.reverse
      let name := trimmed.takeWhile fun c => !isBlank c
      let rest := (trimmed.drop name.length).dropWhile isBlank
      if name.isEmpty then none
      else some (String.ofList name, if rest.isEmpty then none else some (String.ofList rest))
  | _ => none

def ofFile (tree : FileTree) (cwd : Location) :
    Nat → Route → List String → Except SystemError Image
  | 0, _, _ => .error .tooManyLinks
  | depth + 1, path, args =>
      match tree.stat cwd path with
      | .error e => .error e
      | .ok (_, node) =>
          match node.content with
          | .program name => .ok ⟨name, args⟩
          | .file content =>
              if node.isExecutable then
                match interpreter? content with
                | some (name, argument?) =>
                    ofFile tree cwd depth ⟨name⟩
                      (name :: argument?.toList ++ path.text :: args.drop 1)
                | none => .error .badExecutable
              else .error .accessDenied
          | _ => .error .accessDenied

def ofScript (shell : String) (path : Route) (args : List String) : Image :=
  ⟨"sh", shell :: path.text :: args.drop 1⟩

def usualSearch : String := "/bin:/usr/bin"

def directories (search : String) : List Route :=
  (Text.splitOnChar ':' search.toList).map fun piece =>
    if piece.isEmpty then ⟨"."⟩ else ⟨String.ofList piece⟩

def candidates (search : String) (program : String) : List Route :=
  if program.toList.contains '/' then [⟨program⟩]
  else if program.isEmpty then []
  else (directories search).map fun directory =>
    if directory.text == "." then ⟨program⟩ else directory.join ⟨program⟩

/-- The first candidate that can be started; of the failures, a refusal is told before an absence.
Where a shell is named, it runs what names no interpreter. -/
def firstOf (tree : FileTree) (cwd : Location) (shell : Option String) (args : List String) :
    Bool → List Route → Except SystemError Image
  | refused, [] => .error (if refused then .accessDenied else .noSuchFile)
  | refused, path :: paths =>
      match ofFile tree cwd interpreterDepth path args with
      | .ok image => .ok image
      | .error e =>
          if e = .accessDenied then firstOf tree cwd shell args true paths
          else if e = .noSuchFile ∨ e = .notADirectory then firstOf tree cwd shell args refused paths
          else
            match shell with
            | some name => if e = .badExecutable then .ok (ofScript name path args) else .error e
            | none => .error e

def find (tree : FileTree) (cwd : Location) (shell : Option String) (search : String)
    (program : String) (args : List String) : Except SystemError Image :=
  if program.toList.contains '/' then
    match ofFile tree cwd interpreterDepth ⟨program⟩ args, shell with
    | .error .badExecutable, some name => .ok (ofScript name ⟨program⟩ args)
    | found, _ => found
  else firstOf tree cwd shell args false (candidates search program)

end Image

end LifecycleHooks.Process
