import LifecycleHooks.CommandLine.Session

/-!
The program. It works on a copy of the files below the current directory and the settings file, and
writes back what hooks have changed.
-/

open LifecycleHooks

namespace Terminal

def depth : Nat := 6

def environment : IO Environment := do
  try
    let bytes ← IO.FS.readBinFile "/proc/self/environ"
    let entries := Text.splitOnChar (Char.ofNat 0) (Text.ofOctets bytes.toList).toList
    return .ofEntries (entries.map fun entry => Text.fromOctets (String.ofList entry))
  catch _ => return []

/-- A file as a node; a script may be executed. -/
def nodeOf (bytes : ByteArray) : Node :=
  let content := bytes.toList
  Node.ofFile content (content.take 2 == [35, 33]) 0

def place (base : Location) (path : String) : Location :=
  Route.location base ⟨Text.toOctets path⟩

def addFile (cwd : Location) (tree : FileTree) (path : String) : IO FileTree := do
  try
    let bytes ← IO.FS.readBinFile path
    return tree.putDeep (place cwd path) (nodeOf bytes)
  catch _ => return tree

def addBelow : Nat → FileTree → IO.FS.DirEntry → IO FileTree
  | 0, tree, _ => pure tree
  | fuel + 1, tree, entry => do
      let path := entry.path.toString
      if ← entry.path.isDir then
        let mut tree := tree.putDeep (place [] path) (Node.ofDirectory 0)
        for inner in ← entry.path.readDir do tree ← addBelow fuel tree inner
        return tree
      else addFile [] tree path

def machine (args : List String) : IO Machine := do
  let inherited ← environment
  let here ← IO.currentDir
  let cwd := place [] here.toString
  let mut tree := Tool.systemTree.putDeep cwd (Node.ofDirectory 0)
  for entry in ← here.readDir do tree ← addBelow depth tree entry
  let bare := Machine.ofTree tree cwd inherited none
  match CommandLine.request inherited args with
  | .error _ => return bare
  | .ok request =>
      match CommandLine.Session.settingsOf bare request,
          CommandLine.Session.workspaceOf bare request with
      | .ok settings, .ok workspace =>
          tree ← addFile cwd tree settings.text
          tree ← addFile cwd tree (workspace.join Loading.workspaceFileName).text
          return Machine.ofTree tree cwd inherited none
      | _, _ => return bare

def writeBack (before after : FileTree) : IO Unit := do
  for (location, number) in after.entries.reverse do
    let node := after.node? number
    if before.find? location != node then
      let path := Text.fromOctets (Route.ofLocation location).text
      match node.map Node.content with
      | some .directory => IO.FS.createDirAll path
      | some (.file content) => IO.FS.writeBinFile path ⟨content.toArray⟩
      | _ => pure ()

end Terminal

def main (args : List String) : IO UInt32 := do
  let machine ← Terminal.machine args
  let outcome := CommandLine.respond machine args
  Terminal.writeBack machine.tree outcome.machine.tree
  IO.print outcome.stdout
  IO.eprint outcome.stderr
  return outcome.exit.toUInt32
