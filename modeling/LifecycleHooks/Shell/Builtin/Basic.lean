import LifecycleHooks.Shell.Numeral
import LifecycleHooks.Shell.Reader
import LifecycleHooks.Shell.State

/-!
What the commands of a shell have in common: names, numbers and options among their arguments.
-/

namespace LifecycleHooks.Shell.Builtin

def number (text : String) : Run Nat :=
  let (negative, chars) := Numeral.signed text.toList
  let digits := chars.takeWhile Char.isDigit
  let n := Numeral.ofDigits 10 digits
  let rest := (chars.drop digits.length).dropWhile Numeral.isBlank
  if digits.isEmpty || !rest.isEmpty || (negative && n != 0) || 2147483647 < n then
    abort ("Illegal number: " ++ text)
  else pure n

def isName (text : String) : Bool :=
  match text.toList with
  | c :: rest => Reader.isNameStart c && rest.all Reader.isNameChar
  | [] => false

def splitAssignment (text : String) : String × Option String :=
  let name := text.toList.takeWhile (· != '=')
  if name.length = text.length then (text, none)
  else (String.ofList name, some (String.ofList (text.toList.drop (name.length + 1))))

def nameIn (text : String) : Run String :=
  let name := (splitAssignment text).1
  if isName name then pure name else abort (name ++ ": bad variable name")

/-- A text in single quotes; runs of single quotes in it stand between double ones. -/
def quotedChars : Bool → List Char → List Char
  | true, [] => ['\'']
  | false, [] => ['"']
  | true, c :: rest =>
      if c == '\'' then '\'' :: '"' :: c :: quotedChars false rest else c :: quotedChars true rest
  | false, c :: rest =>
      if c == '\'' then c :: quotedChars false rest else '"' :: '\'' :: c :: quotedChars true rest

def quoted (text : String) : String := String.ofList ('\'' :: quotedChars true text.toList)

def ok : Run Unit := setStatus 0

def nothing (_ : List String) : Run Unit := ok

/-- The letters of one argument, each with what it is given. A letter that takes something and ends
the argument is left over. -/
def lettersIn (known : List Char) :
    List Char → Except String (List (Char × String) × Option Char)
  | [] => .ok ([], none)
  | c :: rest =>
      match if c == ':' then [] else known.dropWhile (· != c) with
      | [] => .error ("Illegal option -" ++ String.singleton c)
      | _ :: ':' :: _ =>
          if rest.isEmpty then .ok ([], some c) else .ok ([(c, String.ofList rest)], none)
      | _ => do
          let (others, left) ← lettersIn known rest
          return ((c, "") :: others, left)

/-- The options in front of arguments, and the other arguments. Behind letters that take something,
there is a colon among those that are known. -/
def optionsIn (known : List Char) :
    List String → Except String (List (Char × String) × List String)
  | [] => .ok ([], [])
  | arg :: rest =>
      match arg.toList with
      | ['-'] => .ok ([], arg :: rest)
      | ['-', '-'] => .ok ([], rest)
      | '-' :: letters =>
          match lettersIn known letters with
          | .error problem => .error problem
          | .ok (found, none) =>
              (optionsIn known rest).map fun (others, rest) => (found ++ others, rest)
          | .ok (found, some c) =>
              match rest with
              | value :: rest =>
                  (optionsIn known rest).map fun (others, rest) =>
                    (found ++ (c, value) :: others, rest)
              | [] => .error ("No arg for -" ++ String.singleton c ++ " option")
      | _ => .ok ([], arg :: rest)

def options (known : String) (args : List String) :
    Run (List (Char × String) × List String) :=
  match optionsIn known.toList args with
  | .ok found => pure found
  | .error problem => abort problem

end LifecycleHooks.Shell.Builtin
