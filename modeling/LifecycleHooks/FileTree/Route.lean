import LifecycleHooks.FileTree.Basic
import LifecycleHooks.Path
import LifecycleHooks.SystemError
import LifecycleHooks.Text.Octets

/-!
The way that paths lead through a tree. Every step has to be taken from a directory that exists, also
the steps `.` and `..`, and a link is followed to where it leads.
-/

namespace LifecycleHooks

/-- A path as it is given to the system, a text of octets. -/
structure Route where
  text : String
  deriving DecidableEq

def Path.route (path : Path) : Route := ⟨Text.toOctets path.text⟩

namespace Route

def isAbsolute (route : Route) : Bool :=
  match route.text.toList with
  | '/' :: _ => true
  | _ => false

def endsWithSlash (route : Route) : Bool := route.text.toList.getLast? == some '/'

/-- The steps of a path; a slash at the end is one more step that stays. -/
def steps (route : Route) : List String :=
  let pieces := (Text.splitOnChar '/' route.text.toList).map String.ofList
  pieces.filter (· != "") ++ (if route.endsWithSlash then ["."] else [])

def join (base route : Route) : Route :=
  if route.isAbsolute ∨ base.text.isEmpty then route
  else if base.endsWithSlash then ⟨base.text ++ route.text⟩
  else ⟨base.text ++ "/" ++ route.text⟩

def location (base : Location) (route : Route) : Location :=
  route.steps.foldl (fun place piece =>
    if piece = "." then place else if piece = ".." then place.dropLast else place ++ [piece])
    (if route.isAbsolute then [] else base)

def ofLocation (location : Location) : Route := ⟨"/" ++ "/".intercalate location⟩

end Route

namespace FileTree

def longestName : Nat := 255

def longestPath : Nat := 4095

def longestChain : Nat := 40

def advance (tree : FileTree) (place : Location) (piece : String) : Except SystemError Location :=
  match (tree.find? place).map Node.content with
  | none => .error .noSuchFile
  | some .directory =>
      if piece = "." then .ok place
      else if piece = ".." then .ok place.dropLast
      else if longestName < piece.length then .error .nameTooLong
      else .ok (place ++ [piece])
  | some _ => .error .notADirectory

def linkAt? (tree : FileTree) (place : Location) : Option String :=
  match (tree.find? place).map Node.content with
  | some (.link target) => some target
  | _ => none

/-- Follows steps from a place. A link in the last step is followed only if that is asked for. The
number bounds the links that are followed. -/
def walk (tree : FileTree) (follows : Bool) :
    Nat → Location → List String → Except SystemError Location
  | _, place, [] => .ok place
  | links, place, piece :: rest =>
      match tree.advance place piece with
      | .error e => .error e
      | .ok next =>
          match if rest.isEmpty && !follows then none else tree.linkAt? next with
          | none => walk tree follows links next rest
          | some target =>
              match links with
              | 0 => .error .tooManyLinks
              | links + 1 =>
                  walk tree follows links (if Route.isAbsolute ⟨target⟩ then [] else place)
                    (Route.steps ⟨target⟩ ++ rest)
  termination_by links _ steps => (links, steps.length)

def lead (tree : FileTree) (follows : Bool) (base : Location) (route : Route) :
    Except SystemError Location :=
  if route.text.isEmpty then .error .noSuchFile
  else if route.text.toList.contains (Char.ofNat 0) then .error .nulInFileName
  else if longestPath < route.text.length then .error .nameTooLong
  else tree.walk follows longestChain (if route.isAbsolute then [] else base) route.steps

def locate (tree : FileTree) : Location → Route → Except SystemError Location := tree.lead true

def locateSelf (tree : FileTree) : Location → Route → Except SystemError Location := tree.lead false

def present (tree : FileTree) (location : Location) : Except SystemError (Location × Node) :=
  match tree.find? location with
  | some node => .ok (location, node)
  | none => .error .noSuchFile

def stat (tree : FileTree) (base : Location) (route : Route) :
    Except SystemError (Location × Node) :=
  (tree.locate base route).bind tree.present

def statSelf (tree : FileTree) (base : Location) (route : Route) :
    Except SystemError (Location × Node) :=
  (tree.locateSelf base route).bind tree.present

def node (tree : FileTree) (base : Location) (route : Route) : Except SystemError Node :=
  (tree.stat base route).map Prod.snd

def pathExists (tree : FileTree) (base : Location) (route : Route) : Bool :=
  match tree.stat base route with
  | .ok _ => true
  | .error _ => false

def isDirectoryAt (tree : FileTree) (base : Location) (route : Route) : Bool :=
  match tree.stat base route with
  | .ok (_, node) => node.isDirectory
  | .error _ => false

def modified? (tree : FileTree) (base : Location) (route : Route) : Option Int :=
  match tree.stat base route with
  | .ok (_, node) => some node.modified
  | .error _ => none

def readBytes (tree : FileTree) (base : Location) (route : Route) :
    Except SystemError Text.Bytes :=
  match tree.stat base route with
  | .ok (_, node) => if node.isDirectory then .error .isADirectory else .ok node.bytes
  | .error e => .error e

def readText (tree : FileTree) (base : Location) (route : Route) : Except SystemError String :=
  match tree.readBytes base route with
  | .error e => .error e
  | .ok bytes =>
      match Text.decode? bytes with
      | some text => .ok text
      | none => .error .notUtf8

end FileTree

end LifecycleHooks
