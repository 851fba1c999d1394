import LifecycleHooks.Text.Lines

/-!
File paths. A path is kept as it was written; comparisons look at its components, so repeated
slashes, a slash at the end and `.` inside a path make no difference.
-/

namespace LifecycleHooks

structure Path where
  text : String
  deriving DecidableEq, Repr, Inhabited

namespace Path

inductive Component
  | root
  | current
  | parent
  | name (text : String)
  deriving DecidableEq, Repr

def isAbsolute (path : Path) : Bool :=
  match path.text.toList with
  | '/' :: _ => true
  | _ => false

def isRelative (path : Path) : Bool := !path.isAbsolute

/-- A piece between slashes as a component; empty pieces and dots stand for nothing. -/
def component? (piece : List Char) : Option Component :=
  if piece = [] ∨ piece = ['.'] then none
  else if piece = ['.', '.'] then some .parent
  else some (.name (String.ofList piece))

/-- A dot counts only at the start of a relative path. -/
def componentsOf (chars : List Char) : List Component :=
  match chars with
  | '/' :: rest => .root :: (Text.splitOnChar '/' rest).filterMap component?
  | _ =>
      match Text.splitOnChar '/' chars with
      | ['.'] :: pieces => .current :: pieces.filterMap component?
      | pieces => pieces.filterMap component?

def components (path : Path) : List Component := componentsOf path.text.toList

def isEmpty (path : Path) : Bool := path.text.isEmpty

def join (base path : Path) : Path :=
  if path.isAbsolute ∨ base.text.isEmpty then path
  else if base.text.toList.getLast? = some '/' then ⟨base.text ++ path.text⟩
  else ⟨base.text ++ "/" ++ path.text⟩

def same (a b : Path) : Bool := decide (a.components = b.components)

def sameOption : Option Path → Option Path → Bool
  | none, none => true
  | some a, some b => same a b
  | _, _ => false

def startsWith (path base : Path) : Bool := base.components.isPrefixOf path.components

def endsWith (path tail : Path) : Bool := tail.components.isSuffixOf path.components

/-- Drops slashes and dots that stand for nothing from the end of a path that is given last
character first. -/
def dropIdle : List Char → List Char
  | '/' :: c :: rest => dropIdle (c :: rest)
  | '.' :: '/' :: rest => dropIdle ('/' :: rest)
  | chars => chars

/-- The path without its last component, as it was written; a root or an empty path has none. -/
def parent? (path : Path) : Option Path :=
  match dropIdle path.text.toList.reverse with
  | [] => none
  | ['/'] => none
  | chars => some ⟨String.ofList (dropIdle (chars.dropWhile (· != '/'))).reverse⟩

end Path

end LifecycleHooks
