import LifecycleHooks.Text.Octets

/-!
Names in complaints. A shell can read them back, and every byte that is not a printable ASCII
character is shown by its number.
-/

namespace LifecycleHooks.Tool

def octal (byte : UInt8) : List Char :=
  let n := byte.toNat
  '\\' :: [n / 64, n / 8 % 8, n % 8].map fun digit => Char.ofNat (48 + digit)

def escape? (c : Char) : Option (List Char) :=
  match c.toNat with
  | 7 => some ['\\', 'a']
  | 8 => some ['\\', 'b']
  | 9 => some ['\\', 't']
  | 10 => some ['\\', 'n']
  | 11 => some ['\\', 'v']
  | 12 => some ['\\', 'f']
  | 13 => some ['\\', 'r']
  | n =>
      if n < 32 || 126 < n then some (octal c.toNat.toUInt8) else none

/-- Whether a shell would take a name for something else, if it were not in quotes, because of a
character in it. -/
def isMeant (alone first : Bool) (c : Char) : Bool :=
  (escape? c).isSome || " !\"$&()*:;<=>[^\x60|\\?'".toList.contains c ||
    (first && (c == '#' || c == '~')) || (alone && (c == '\x7b' || c == '\x7d'))

/-- Whether a character means itself between double quotes, wherever they are read. -/
def isDoubleQuotable (first : Bool) (c : Char) : Bool :=
  c.isAlphanum || "%+,-./:@]_ '".toList.contains c || (first && (c == '#' || c == '~'))

def quotedRest : Bool → List Char → List Char
  | _, [] => ['\'']
  | inEscape, c :: rest =>
      match escape? c with
      | some text => (if inEscape then [] else ['\'', '$', '\'']) ++ text ++ quotedRest true rest
      | none =>
          if c = '\'' then ['\'', '\\', '\'', '\''] ++ quotedRest false rest
          else (if inEscape then ['\'', '\''] else []) ++ c :: quotedRest false rest

def quote (name : String) : String :=
  let quotable := match name.toList with
    | [] => true
    | c :: rest => isDoubleQuotable true c && rest.all (isDoubleQuotable false)
  if name.toList.contains '\'' && quotable then "\"" ++ name ++ "\""
  else String.ofList ('\'' :: quotedRest false name.toList)

def shown (name : String) : String :=
  match name.toList with
  | [] => quote name
  | c :: rest =>
      if isMeant rest.isEmpty true c || rest.any (isMeant false false) then quote name else name

/-- A text that is shown as it was given, between quotes that no shell has to read. -/
def cited (text : String) : String :=
  String.ofList ('\'' :: text.toList.flatMap (fun c =>
    if c = '\'' || c = '\\' then ['\\', c] else (escape? c).getD [c]) ++ ['\''])

end LifecycleHooks.Tool
