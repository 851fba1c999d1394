import LifecycleHooks.Text.Bytes

/-!
What a tree of files is made of: files, directories, links, and what belongs to the system.
-/

namespace LifecycleHooks

open Text (Bytes)

inductive Device
  /-- Reads as empty and forgets what is written. -/
  | sink
  /-- Reads as zeros without an end and forgets what is written. -/
  | zeros
  /-- Reads as zeros and has no room for what is written. -/
  | full
  /-- A terminal that there is not. -/
  | terminal
  deriving DecidableEq

inductive Content
  | file (bytes : Bytes)
  | directory
  /-- Stands for what is at the end of a path. -/
  | link (target : String)
  /-- A program that belongs to the system. -/
  | program (name : String)
  | device (device : Device)
  /-- One end of a pipe or, if it has a name of its own, both. -/
  | pipe (number : Nat) (named : Bool)
  deriving DecidableEq

/-- What has a number in a tree, whatever its names are. Times are in microseconds since 1970. -/
structure Node where
  content : Content
  mode : Nat
  modified : Int
  deriving DecidableEq

namespace Node

def isDirectory (node : Node) : Bool := node.content == .directory

def isExecutable (node : Node) : Bool := node.mode / 64 % 2 == 1 || node.mode / 8 % 2 == 1 || node.mode % 2 == 1

def bytes (node : Node) : Bytes :=
  match node.content with
  | .file bytes => bytes
  | _ => []

def size (node : Node) : Nat :=
  match node.content with
  | .file bytes => bytes.length
  | .directory => 4096
  | .link target => target.length
  | .program _ => 100000
  | _ => 0

def plainMode : Nat := 420
def executableMode : Nat := 493

def ofFile (bytes : Bytes) (executable : Bool) (modified : Int) : Node :=
  ⟨.file bytes, if executable then executableMode else plainMode, modified⟩

def ofDirectory (modified : Int) : Node := ⟨.directory, executableMode, modified⟩

end Node

end LifecycleHooks
