import LifecycleHooks.FileTree.Route

/-!
Which directory has to be watched for a file: the one that holds it, or the one above while the
first does not exist.
-/

namespace LifecycleHooks.Watch

inductive Root
  | parent (directory : Path)
  | grandparent (directory : Path)
  deriving DecidableEq

def root? (tree : FileTree) (base : Location) (file : Path) : Option Root :=
  match file.parent? with
  | none => none
  | some parent =>
      if tree.isDirectoryAt base parent.route then some (.parent parent)
      else
        match parent.parent? with
        | none => none
        | some grandparent =>
            if tree.isDirectoryAt base grandparent.route then some (.grandparent grandparent) else none

end LifecycleHooks.Watch
