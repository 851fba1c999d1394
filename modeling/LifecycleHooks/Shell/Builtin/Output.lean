import LifecycleHooks.Shell.Builtin.Basic
import LifecycleHooks.Shell.Format

/-!
Output by a shell itself.
-/

namespace LifecycleHooks.Shell.Builtin

open Process

def echo (args : List String) : Run Unit := do
  ok
  emit (Format.echo true args)

def misfitText : Numeral.Misfit → String
  | .noNumber => "expected numeric value"
  | .incomplete => "not completely converted"
  | .outOfRange => "Numerical result out of range"

def printf (args : List String) : Run Unit := do
  match (← options "" args).2 with
  | [] => abort "usage: printf format [arg ...]"
  | format :: args =>
      let printed := Format.printf false (args.length + 1) format.toList args
      ok
      emit printed.bytes
      for (arg, misfit) in printed.unsuited do
        complain (arg ++ ": " ++ misfitText misfit)
        setStatus 1
      match printed.invalid with
      | some (.incomplete _) => abort "missing format character"
      | some (.unknown text) => abort (text ++ ": invalid directive")
      | some (.badEscape text) => abort text
      | none => pure ()

end LifecycleHooks.Shell.Builtin
