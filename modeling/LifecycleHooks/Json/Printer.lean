import LifecycleHooks.Json.Basic
import LifecycleHooks.Number.Shortest

/-!
The texts of JSON values: the compact one, without blanks, and the indented one.
-/

namespace LifecycleHooks

def Number.chars : Number → List Char
  | .whole value =>
      if value < 0 then '-' :: Nat.toDigits 10 value.natAbs else Nat.toDigits 10 value.natAbs
  | .double value => value.chars

namespace Json

def fourHex (n : Nat) : List Char :=
  [n / 4096 % 16, n / 256 % 16, n / 16 % 16, n % 16].map Nat.digitChar

def escapedChar (c : Char) : List Char :=
  if c = '"' then ['\\', '"']
  else if c = '\\' then ['\\', '\\']
  else if c = '\n' then ['\\', 'n']
  else if c = '\r' then ['\\', 'r']
  else if c = '\t' then ['\\', 't']
  else if c.toNat = 8 then ['\\', 'b']
  else if c.toNat = 12 then ['\\', 'f']
  else if c.toNat < 32 then '\\' :: 'u' :: fourHex c.toNat
  else [c]

def stringChars (text : String) : List Char :=
  '"' :: text.toList.flatMap escapedChar ++ ['"']

mutual

def chars : Json → List Char
  | null => ['n', 'u', 'l', 'l']
  | bool true => ['t', 'r', 'u', 'e']
  | bool false => ['f', 'a', 'l', 's', 'e']
  | number value => value.chars
  | string value => stringChars value
  | array items => '[' :: (itemsChars items ++ [']'])
  | object fields => '\x7b' :: (fieldsChars fields ++ ['\x7d'])

def itemsChars : List Json → List Char
  | [] => []
  | [item] => chars item
  | item :: rest => chars item ++ ',' :: itemsChars rest

def fieldsChars : List (String × Json) → List Char
  | [] => []
  | [(key, value)] => stringChars key ++ ':' :: chars value
  | (key, value) :: rest => stringChars key ++ ':' :: (chars value ++ ',' :: fieldsChars rest)

end

def text (value : Json) : String := String.ofList value.chars

def lineBreak (depth : Nat) : List Char := '\n' :: List.replicate (2 * depth) ' '

mutual

def indentedChars (depth : Nat) : Json → List Char
  | array [] => ['[', ']']
  | array (item :: items) =>
      '[' :: (indentedItems (depth + 1) (item :: items) ++ lineBreak depth ++ [']'])
  | object [] => ['\x7b', '\x7d']
  | object (field :: fields) =>
      '\x7b' :: (indentedFields (depth + 1) (field :: fields) ++ lineBreak depth ++ ['\x7d'])
  | value => chars value

def indentedItems (depth : Nat) : List Json → List Char
  | [] => []
  | [item] => lineBreak depth ++ indentedChars depth item
  | item :: rest => lineBreak depth ++ indentedChars depth item ++ ',' :: indentedItems depth rest

def indentedFields (depth : Nat) : List (String × Json) → List Char
  | [] => []
  | [(key, value)] =>
      lineBreak depth ++ stringChars key ++ ':' :: ' ' :: indentedChars depth value
  | (key, value) :: rest =>
      lineBreak depth ++ stringChars key ++ ':' :: ' ' :: indentedChars depth value ++
        ',' :: indentedFields depth rest

end

def indented (value : Json) : String := String.ofList (indentedChars 0 value)

end Json

end LifecycleHooks
