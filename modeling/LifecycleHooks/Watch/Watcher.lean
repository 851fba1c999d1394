import LifecycleHooks.Engine.Basic
import LifecycleHooks.Settings.File
import LifecycleHooks.Watch.Relevance
import LifecycleHooks.Watch.Root

/-!
Watching the files that hooks are loaded from. A burst of relevant changes leads to one reload, when
nothing relevant happened for a while; before it, files whose directory has appeared get it watched.
-/

namespace LifecycleHooks.Watch

def debounce : Nat := 250

/-- A directory that is watched, by its number, and the path under which its changes are reported,
wherever it has gone since. -/
structure Watched where
  path : Path
  number : Nat

/-- The files that matter, the directories that are watched, the files that wait for theirs to
appear, and when the next reload is due. -/
structure Watcher where
  targets : List Path
  watched : List Watched
  pending : List Path
  due : Option Nat

namespace Watcher

/-- Watches the directory at the end of a path. One that is watched already is reported under this
path from now on. -/
def watch (tree : FileTree) (base : Location) (watcher : Watcher) (directory : Path) : Watcher :=
  match (tree.locate base directory.route).toOption.bind tree.number? with
  | some number =>
      { watcher with
        watched := (watcher.watched.filter fun w => w.number != number) ++ [⟨directory, number⟩] }
  | none => watcher

def addFile (tree : FileTree) (base : Location) (state : Watcher × List Warning) (file : Path) :
    Watcher × List Warning :=
  match root? tree base file with
  | some (.parent directory) => (state.1.watch tree base directory, state.2)
  | some (.grandparent directory) =>
      let watcher := state.1.watch tree base directory
      ({ watcher with pending := watcher.pending ++ [file] }, state.2)
  | none => (state.1, state.2 ++ [.unwatched file])

def start (tree : FileTree) (base : Location) (files : List Path) : Watcher × List Warning :=
  files.foldl (addFile tree base) (⟨files, [], [], none⟩, [])

def observe (now : Nat) (watcher : Watcher) (change : Change) : Watcher :=
  if isRelevant change watcher.targets then { watcher with due := some (now + debounce) }
  else watcher

/-- Gives up a directory that is reported under a path, and those that are reported below it. -/
def forget (watcher : Watcher) (path : Path) : Watcher :=
  if watcher.watched.any fun w => w.path.same path then
    { watcher with watched := watcher.watched.filter fun w => !w.path.startsWith path }
  else watcher

def pathIn? (watcher : Watcher) (number : Option Nat) (name : String) : Option Path :=
  (watcher.watched.find? fun w => some w.number == number).map fun w =>
    w.path.join ⟨Text.fromOctets name⟩

def pathOf? (watcher : Watcher) (number : Option Nat) : Option Path :=
  (watcher.watched.find? fun w => some w.number == number).map Watched.path

/-- Reports a change at a place to the directory that holds it. A directory that has left its place
is given up. -/
def notice (tree : FileTree) (now : Nat) (kind : ChangeKind) (leaves : Bool) (place : Location)
    (watcher : Watcher) : Watcher :=
  match watcher.pathIn? (tree.number? place.dropLast) (place.getLast?.getD "") with
  | some path =>
      let watcher := watcher.observe now ⟨kind, [path]⟩
      if leaves then watcher.forget path else watcher
  | none => watcher

def noticeSelf (tree : FileTree) (now : Nat) (kind : ChangeKind) (leaves : Bool)
    (place : Location) (watcher : Watcher) : Watcher :=
  match watcher.pathOf? (tree.number? place) with
  | some path =>
      let watcher := watcher.observe now ⟨kind, [path]⟩
      if leaves then watcher.forget path else watcher
  | none => watcher

/-- Watches the directories that have appeared. -/
def attach (tree : FileTree) (base : Location) (watcher : Watcher) : Watcher :=
  let appeared (file : Path) : Option Path :=
    match file.parent? with
    | some parent => if tree.isDirectoryAt base parent.route then some parent else none
    | none => none
  let watcher := (watcher.pending.filterMap appeared).foldl (watch tree base) watcher
  { watcher with pending := watcher.pending.filter fun file => (appeared file).isNone }

end Watcher

structure Session where
  tree : FileTree
  base : Location
  workspace : Path
  settings : SettingsFile
  now : Nat
  watcher : Option Watcher

namespace Session

def reload (session : Session) : Engine.Summary × Session :=
  let file := (session.settings.refresh (session.tree.modified? session.base session.settings.path.route)
    (Settings.load session.tree session.base session.settings.path)).1
  let sources : Sources :=
    ⟨file.settings.get?, session.tree.read session.base, some session.workspace⟩
  (Engine.Summary.ofMap (Loading.load sources).1, { session with settings := file })

def files (session : Session) : List Path :=
  session.settings.path :: (Loading.workspaceFile (some session.workspace)).toList

def start (tree : FileTree) (base : Location) (workspace settings : Path) :
    Session × List Warning :=
  let session := (reload ⟨tree, base, workspace, .new settings, 0, none⟩).2
  let (watcher, warnings) := Watcher.start tree base session.files
  ({ session with watcher := some watcher }, warnings)

def observe (session : Session) (f : FileTree → Nat → Watcher → Watcher) : Session :=
  { session with watcher := session.watcher.map (f session.tree session.now) }

def moment (session : Session) : Int := session.now * 1000

def makeDirectory (session : Session) (location : Location) : Session :=
  { session with tree := session.tree.put location (Node.ofDirectory session.moment) }.observe
    fun tree now => Watcher.notice tree now .create false location

def place (session : Session) (location : Location) (content : Content) (mode : Nat) : Session :=
  let node : Node := ⟨content, mode, session.moment⟩
  match session.tree.number? location with
  | none =>
      { session with tree := session.tree.put location node }.observe
        fun tree now => Watcher.notice tree now .create false location
  | some number =>
      match ((session.tree.node? number).map Node.content), content with
      | some (.file _), .file _ =>
          { session with tree := session.tree.change number fun _ => node }.observe
            fun tree now => Watcher.notice tree now .modify false location
      | _, _ => session

/-- Writes a file or makes a directory, with the directories that it needs; time goes on by one. What
is there and of another kind stays as it is. -/
def write (session : Session) (location : Location) (content : Content) (mode : Nat) : Session :=
  let session := { session with now := session.now + 1 }
  let blocked := (FileTree.ancestors location).any fun above =>
    (session.tree.find? above).any fun node => !node.isDirectory
  if blocked then session
  else
    ((session.tree.missingAncestors location).foldl makeDirectory session).place location content mode

def removeOne (session : Session) (location : Location) : Session :=
  let session := session.observe fun tree now watcher =>
    Watcher.notice tree now .remove true location
      (Watcher.noticeSelf tree now .remove false location watcher)
  { session with tree := session.tree.remove location }

def remove (session : Session) (location : Location) : Session :=
  let below := (session.tree.entries.map Prod.fst).filter fun other => location.isPrefixOf other
  let deepest := (below.map List.length).foldl max 0
  (List.range (deepest + 1)).reverse.foldl (fun session depth =>
    (below.filter fun other => other.length == depth).foldl removeOne session) session

/-- Whether something can be moved to a location: to where nothing is, a file onto no directory, and
a directory onto an empty one. -/
def canMove (session : Session) (source target : Location) : Bool :=
  match session.tree.find? source with
  | none => false
  | some node =>
      session.tree.isDirectory target.dropLast && !(source.isPrefixOf target && source != target) &&
        match session.tree.find? target with
        | none => true
        | some other =>
            node.isDirectory == other.isDirectory &&
              (!other.isDirectory || (session.tree.children target).isEmpty)

def rename (session : Session) (source target : Location) : Session :=
  if !session.canMove source target || source == target then session
  else
    let session := session.observe fun tree now watcher =>
      Watcher.notice tree now .rename true source
        (Watcher.noticeSelf tree now .rename false source
          (Watcher.noticeSelf tree now .remove true target watcher))
    { session with tree := session.tree.move source target }.observe
      fun tree now => Watcher.notice tree now .rename false target

def drop (session : Session) : Session := { session with watcher := none }

/-- Lets time pass up to a reload, if one is due within the given time. -/
def wait (session : Session) (time : Nat) : Option Engine.Summary × Session :=
  let limit := session.now + time
  match session.watcher with
  | none => (none, { session with now := limit })
  | some watcher =>
      match watcher.due with
      | none => (none, { session with now := limit })
      | some due =>
          if due ≤ limit then
            let watcher := { watcher.attach session.tree session.base with due := none }
            let (summary, session) :=
              { session with now := due, watcher := some watcher }.reload
            (some summary, session)
          else (none, { session with now := limit })

def await (session : Session) (total : Nat) : Option Engine.Summary × Session :=
  let (summary, session) := session.wait 3000
  (summary.filter fun summary => summary.total == total, session)

def quiet (session : Session) : Bool × Session :=
  let (summary, session) := session.wait 400
  (summary.isNone, session)

end Session

end LifecycleHooks.Watch
