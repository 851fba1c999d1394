/-!
Tables of things that have numbers.
-/

namespace LifecycleHooks

/-- Things with their numbers; of two with the same number, the first counts. -/
abbrev Numbered (α : Type) := List (Nat × α)

namespace Numbered

variable {α : Type}

def find? (number : Nat) (table : Numbered α) : Option α :=
  (List.find? (fun entry => entry.1 == number) table).map Prod.snd

def change (number : Nat) (f : α → α) (table : Numbered α) : Numbered α :=
  table.map fun entry => if entry.1 == number then (entry.1, f entry.2) else entry

end Numbered

end LifecycleHooks
