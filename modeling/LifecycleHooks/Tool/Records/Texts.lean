import LifecycleHooks.Text.Lines
import LifecycleHooks.Tool.Records.Value

/-!
What programs for records do with texts: they split them, put other texts in the place of matches, and
write values by formats.
-/

namespace LifecycleHooks.Tool.Records

open Text (Bytes)

inductive Separator
  /-- Blanks, also in front of the first field and behind the last one. -/
  | blanks
  /-- Nothing: every character is a field. -/
  | nothing
  | character (c : Char)
  | pattern (expression : Expression)

namespace Separator

def ofText (text : String) : Except String Separator :=
  match text.toList with
  | [] => .ok .nothing
  | [' '] => .ok .blanks
  | [c] => .ok (.character c)
  | _ => (readPattern text).map .pattern

end Separator

def isSpace (c : Char) : Bool := [' ', '\t', '\n', '\x0b', '\x0c', '\r'].contains c

def wordsOf : Nat → List Char → List (List Char)
  | 0, _ => []
  | fuel + 1, chars =>
      match chars.dropWhile isSpace with
      | [] => []
      | rest =>
          let word := rest.takeWhile fun c => !isSpace c
          word :: wordsOf fuel (rest.drop word.length)

def findFilled (expression : Expression) : Nat → Expression.Place → Option (Expression.Place × Expression.Place)
  | 0, _ => none
  | fuel + 1, place =>
      match expression.find? false place with
      | none => none
      | some (start, stop) =>
          if stop.left < start.left then some (start, stop)
          else start.next?.bind fun (_, next) => findFilled expression fuel next

def piecesBetween (expression : Expression) : Nat → Expression.Place → List (List Char)
  | 0, place => [place.rest]
  | fuel + 1, place =>
      match findFilled expression (place.left + 1) place with
      | none => [place.rest]
      | some (start, stop) =>
          place.rest.take (place.left - start.left) :: piecesBetween expression fuel stop

def fieldsOf (separator : Separator) (text : String) : List String :=
  let chars := text.toList
  if chars.isEmpty then []
  else
    match separator with
    | .blanks => (wordsOf (chars.length + 1) chars).map String.ofList
    | .nothing => chars.map String.singleton
    | .character c => (Text.splitOnChar c chars).map String.ofList
    | .pattern expression =>
        (piecesBetween expression (chars.length + 1) (.ofChars chars)).map String.ofList

/-- What is put in the place of a match: an ampersand stands for the match, unless a backslash is in front
of it. -/
def replacement (found : List Char) : List Char → List Char
  | [] => []
  | '\\' :: '&' :: rest => '&' :: replacement found rest
  | '\\' :: '\\' :: rest => '\\' :: replacement found rest
  | '&' :: rest => found ++ replacement found rest
  | c :: rest => c :: replacement found rest

/-- Puts a text in the place of matches, of the first one or of all; gives how many there were. No empty
match follows another one directly. `fuel` bounds the length. -/
def substitute (all : Bool) (expression : Expression) (given : List Char) :
    Nat → Bool → Expression.Place → List Char × Nat
  | 0, _, place => (place.rest, 0)
  | fuel + 1, afterMatch, place =>
      match expression.find? false place with
      | none => (place.rest, 0)
      | some (start, stop) =>
          let before := place.rest.take (place.left - start.left)
          let found := start.rest.take (start.left - stop.left)
          let skips := found.isEmpty && afterMatch && before.isEmpty
          let put := if skips then [] else replacement found given
          let count := if skips then 0 else 1
          if !all then (before ++ put ++ stop.rest, count)
          else if found.isEmpty then
            match stop.next? with
            | none => (before ++ put, count)
            | some (c, next) =>
                let (rest, more) := substitute all expression given fuel false next
                (before ++ put ++ c :: rest, count + more)
          else
            let (rest, more) := substitute all expression given fuel true stop
            (before ++ put ++ rest, count + more)

def converted (format : String) (conversion : Shell.Format.Conversion) (value : Value) : Option Bytes :=
  match conversion.letter with
  | 's' =>
      let bytes := Text.octets (value.toText format)
      some (Shell.Format.pad conversion (match conversion.precision with
        | some n => bytes.take n
        | none => bytes))
  | 'c' =>
      let byte : Option UInt8 := match value with
        | .number x => some (Int.toNat (truncated x % 256)).toUInt8
        | .input text =>
            if looksNumeric text then some (Int.toNat (truncated (numberAhead text).1 % 256)).toUInt8
            else (Text.octets text).head?
        | other => (Text.octets (other.toText format)).head?
      some (Shell.Format.pad conversion [byte.getD 0])
  | letter =>
      if ['d', 'i', 'u', 'x', 'X', 'o', 'e', 'E', 'f', 'F', 'g', 'G'].contains letter then
        some (numberChars conversion value.toNumber)
      else none

inductive FormatProblem
  | tooFew
  | improper (number : Nat)

def measured (found : Option (Option Nat)) (values : List Value) :
    Except FormatProblem (Option Int × List Value) :=
  match found, values with
  | none, values => .ok (none, values)
  | some (some n), values => .ok (some n, values)
  | some none, value :: values => .ok (some (truncated value.toNumber), values)
  | some none, [] => .error .tooFew

def directed (convfmt : String) (number : Nat) (directive : Directive) (values : List Value) :
    Except FormatProblem (Bytes × List Value) := do
  let (width, values) ← measured directive.width values
  let (precision, values) ← measured directive.precision values
  match values with
  | [] => throw .tooFew
  | value :: values =>
      match converted convfmt (conversionOf directive width precision) value with
      | none => throw (.improper number)
      | some bytes => return (bytes, values)

/-- Values written by a format, as far as that can be done, and why it cannot be done further. `number`
counts the directives; `fuel` bounds the length. -/
def formatted (convfmt : String) : Nat → Nat → List Char → List Value → Bytes × Option FormatProblem
  | 0, _, _, _ => ([], none)
  | _, _, [], _ => ([], none)
  | fuel + 1, number, '%' :: '%' :: rest, values =>
      let (bytes, problem) := formatted convfmt fuel number rest values
      (37 :: bytes, problem)
  | fuel + 1, number, '%' :: rest, values =>
      match directive? rest with
      | none => (Text.octets (String.ofList ('%' :: rest)), none)
      | some (directive, after) =>
          match directed convfmt number directive values with
          | .error problem => ([], some problem)
          | .ok (bytes, values) =>
              let (others, problem) := formatted convfmt fuel (number + 1) after values
              (bytes ++ others, problem)
  | fuel + 1, number, c :: rest, values =>
      let (bytes, problem) := formatted convfmt fuel number rest values
      (Text.octets (String.singleton c) ++ bytes, problem)

/-- The characters of a text from one place on, so many of them. Places are rounded, and what lies outside
the text is left out. -/
def substring (text : String) (start : Float) (count : Option Float) : String :=
  let rounded (x : Float) : Int :=
    match Double.ofFloat? x with
    | none => truncated x
    | some value =>
        let (numerator, denominator) := value.ratio
        let magnitude : Int := Double.divideEven numerator denominator
        if value.negative then -magnitude else magnitude
  let first := rounded start
  let length : Int := text.length
  let last : Int := match count with
    | none => length
    | some count => min length (rounded (start + count) - 1)
  let first := max 1 first
  if last < first then "" else
    String.ofList ((text.toList.drop (first - 1).toNat).take (last - first + 1).toNat)

end LifecycleHooks.Tool.Records
