import LifecycleHooks.Text.Ranges

/-!
The named classes of characters, such as digits or letters. They hold characters of ASCII only.
-/

namespace LifecycleHooks.Text

def classRanges? : String → Option (List (Nat × Nat))
  | "digit" => some [(48, 57)]
  | "upper" => some [(65, 90)]
  | "lower" => some [(97, 122)]
  | "alpha" => some [(65, 90), (97, 122)]
  | "alnum" => some [(48, 57), (65, 90), (97, 122)]
  | "space" => some [(9, 13), (32, 32)]
  | "blank" => some [(9, 9), (32, 32)]
  | "cntrl" => some [(0, 31), (127, 127)]
  | "print" => some [(32, 126)]
  | "graph" => some [(33, 126)]
  | "punct" => some [(33, 47), (58, 64), (91, 96), (123, 126)]
  | "xdigit" => some [(48, 57), (65, 70), (97, 102)]
  | _ => none

def readClass? (chars : List Char) : Option (List (Nat × Nat) × List Char) :=
  match chars with
  | '[' :: ':' :: rest =>
      let name := rest.takeWhile (· != ':')
      match rest.drop name.length with
      | ':' :: ']' :: after => (classRanges? (String.ofList name)).map fun ranges => (ranges, after)
      | _ => none
  | _ => none

end LifecycleHooks.Text
