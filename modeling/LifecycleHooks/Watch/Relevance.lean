import LifecycleHooks.Path

/-!
Which reported changes concern a watched file: those of the file itself, and those of a directory
that holds it.
-/

namespace LifecycleHooks.Watch

inductive ChangeKind
  | any
  | access
  | create
  | modify
  | rename
  | remove
  | other
  deriving DecidableEq, Repr

structure Change where
  kind : ChangeKind
  paths : List Path
  deriving DecidableEq, Repr

/-- A target that is relative is met by any path that ends with it. -/
def concerns (changed target : Path) : Bool :=
  changed.endsWith target || target.startsWith changed

/-- Reading a file changes nothing, so accesses never count. -/
def isRelevant (change : Change) (targets : List Path) : Bool :=
  change.kind != .access && change.paths.any fun changed => targets.any (concerns changed)

end LifecycleHooks.Watch
