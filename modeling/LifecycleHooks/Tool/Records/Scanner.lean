import LifecycleHooks.Expression.Reader
import LifecycleHooks.Number.Machine
import LifecycleHooks.Shell.Numeral
import LifecycleHooks.Tool.Records.Syntax

/-!
The tokens of programs for records. A slash begins an expression where no operand stands in front of it,
and is an operator elsewhere.
-/

namespace LifecycleHooks.Tool.Records

open Shell (Numeral.hexValue? Numeral.isOctal Numeral.ofDigits)

inductive Token
  | number (value : Float)
  | text (value : String)
  | pattern (source : String)
  | name (name : String)
  /-- A name right in front of an opening parenthesis. -/
  | called (name : String)
  | function (function : Function)
  | keyword (word : String)
  | mark (text : String)
  | lineEnd
  deriving BEq

def Token.shown : Token → String
  | .number _ => "number"
  | .text value => value
  | .pattern source => "/" ++ source ++ "/"
  | .name found => found
  | .called found => found
  | .function _ => "function"
  | .keyword word => word
  | .mark found => found
  | .lineEnd => "end of line"

structure Fault where
  line : Nat
  problem : String

def keywords : List String :=
  ["BEGIN", "END", "function", "func", "if", "else", "while", "for", "do", "break", "continue", "next",
    "nextfile", "exit", "return", "delete", "in", "getline", "print", "printf"]

def functions : List (String × Function) :=
  [("length", .length), ("substr", .substring), ("index", .index), ("split", .split),
    ("sub", .substituteFirst), ("gsub", .substituteAll), ("match", .matchPlace), ("sprintf", .format),
    ("sin", .sine), ("cos", .cosine), ("atan2", .arcTangent), ("exp", .exponential), ("log", .logarithm),
    ("sqrt", .squareRoot), ("int", .truncate), ("rand", .random), ("srand", .seed), ("tolower", .lower),
    ("toupper", .upper), ("system", .system), ("close", .close), ("fflush", .flush), ("systime", .time)]

def marks : List String :=
  ["**=", "&&", "||", "++", "--", "+=", "-=", "*=", "/=", "%=", "^=", "**", "==", "<=", ">=", "!=", "!~", ">>",
    "+", "-", "*", "/", "%", "^", "!", "<", ">", "|", "?", ":", "~", "$", "=", ",", ";", "(", ")", "[", "]",
    "\x7b", "\x7d"]

/-- Whether an operand ends with a token, so that a slash behind it divides. -/
def Token.endsOperand : Token → Bool
  | .number _ => true
  | .text _ => true
  | .name _ => true
  | .function _ => true
  | .mark found => [")", "]", "$", "++", "--"].contains found
  | _ => false

def Token.isStep (token : Token) : Bool := token == .mark "++" || token == .mark "--"

/-- The character that an escape in a text stands for and what follows. A backslash in front of any
other character stays. -/
def unescape : List Char → List Char × List Char
  | [] => (['\\'], [])
  | c :: rest =>
      let digits := ((c :: rest).take 3).takeWhile Numeral.isOctal
      if !digits.isEmpty then
        ([Char.ofNat (Numeral.ofDigits 8 digits % 256)], (c :: rest).drop digits.length)
      else
        match c with
        | 'n' => (['\n'], rest)
        | 't' => (['\t'], rest)
        | 'r' => (['\r'], rest)
        | 'a' => (['\x07'], rest)
        | 'b' => (['\x08'], rest)
        | 'f' => (['\x0c'], rest)
        | 'v' => (['\x0b'], rest)
        | '"' => (['"'], rest)
        | '\\' => (['\\'], rest)
        | c => (['\\', c], rest)

def unescapeAll : Nat → List Char → List Char
  | 0, _ => []
  | _, [] => []
  | fuel + 1, '\\' :: rest =>
      let (chars, after) := unescape rest
      chars ++ unescapeAll fuel after
  | fuel + 1, c :: rest => c :: unescapeAll fuel rest

def unescaped (text : String) : String :=
  String.ofList (unescapeAll (text.length + 1) text.toList)

def textBody : List Char → List Char → Option (List Char × List Char)
  | _, [] => none
  | _, '\n' :: _ => none
  | found, '"' :: rest => some (found.reverse, rest)
  | found, '\\' :: '\n' :: rest => textBody found rest
  | found, '\\' :: c :: rest => textBody (c :: '\\' :: found) rest
  | found, c :: rest => textBody (c :: found) rest

/-- The characters of an expression up to its closing slash, and what follows. A slash in a set does not
close it. -/
def patternBody (inSet : Bool) : List Char → List Char → Option (List Char × List Char)
  | _, [] => none
  | _, '\n' :: _ => none
  | found, '\\' :: '/' :: rest => patternBody inSet ('/' :: found) rest
  | found, '\\' :: c :: rest => patternBody inSet (c :: '\\' :: found) rest
  | found, '/' :: rest => if inSet then patternBody inSet ('/' :: found) rest else some (found.reverse, rest)
  | found, '[' :: rest => patternBody true ('[' :: found) rest
  | found, ']' :: rest => patternBody false (']' :: found) rest
  | found, c :: rest => patternBody inSet (c :: found) rest

def isNameStart (c : Char) : Bool := c.isAlpha || c == '_'

def isNameRest (c : Char) : Bool := c.isAlphanum || c == '_'

def numberLength (chars : List Char) : Nat :=
  let front := chars.takeWhile Char.isDigit
  let rest := chars.drop front.length
  let fraction := match rest with
    | '.' :: digits => 1 + (digits.takeWhile Char.isDigit).length
    | _ => 0
  let rest := rest.drop fraction
  if front.isEmpty && fraction ≤ 1 then 0
  else front.length + fraction + (Shell.Numeral.powerIn rest).2

def numberOf (chars : List Char) : Float :=
  match (Shell.Numeral.real false (String.ofList chars)).1 with
  | .finite value => value.toFloat
  | .infinite negative => if negative then -1.0 / 0.0 else 1.0 / 0.0
  | .undefined _ => 0.0 / 0.0

/-- Splits a program into tokens with their lines. `fuel` bounds their number; `last` is the token in
front. -/
def scan : Nat → Nat → Option Token → List Char → Except Fault (List (Token × Nat))
  | 0, _, _, _ => .ok []
  | _, _, _, [] => .ok []
  | fuel + 1, line, last, c :: rest =>
      let found (token : Token) (rest : List Char) : Except Fault (List (Token × Nat)) :=
        (scan fuel line (some token) rest).map ((token, line) :: ·)
      if c == ' ' || c == '\t' || c == '\r' || c == '\x0c' then scan fuel line last rest
      else if c == '\n' then
        (scan fuel (line + 1) (some .lineEnd) rest).map ((.lineEnd, line) :: ·)
      else if c == '\\' && rest.head? == some '\n' then scan fuel (line + 1) last (rest.drop 1)
      else if c == '\\' && rest.head? == some '\r' then scan fuel (line + 1) last (rest.drop 2)
      else if c == '#' then scan fuel line last (rest.dropWhile (· != '\n'))
      else if c == '"' then
        match textBody [] rest with
        | some (body, after) => found (.text (unescaped (String.ofList body))) after
        | none =>
            .error ⟨line, "runaway string constant \"" ++ String.ofList (rest.takeWhile (· != '\n')) ++ " ..."⟩
      else if c == '/' && !last.any Token.endsOperand then
        match patternBody false [] rest with
        | some (body, after) => found (.pattern (String.ofList body)) after
        | none =>
            .error ⟨line, "runaway regular expression /" ++
              String.ofList (rest.takeWhile (· != '\n')) ++ " ..."⟩
      else if numberLength (c :: rest) ≠ 0 then
        let count := numberLength (c :: rest)
        found (.number (numberOf ((c :: rest).take count))) ((c :: rest).drop count)
      else if isNameStart c then
        let name := String.ofList ((c :: rest).takeWhile isNameRest)
        let after := (c :: rest).drop name.length
        if keywords.contains name then found (.keyword name) after
        else
          match functions.find? fun entry => entry.1 == name with
          | some (_, function) => found (.function function) after
          | none => found (if after.head? == some '(' then .called name else .name name) after
      else
        match marks.find? fun mark => mark.toList.isPrefixOf (c :: rest) with
        | some mark => found (.mark mark) ((c :: rest).drop mark.length)
        | none => .error ⟨line, "unexpected character '" ++ String.singleton c ++ "'"⟩

/-- What differs in the notation of expressions here: digits behind a backslash give a character by its
number, and quotes and slashes may stand behind one. `fuel` bounds the length. -/
def patternSource : Nat → List Char → List Char
  | 0, _ => []
  | _, [] => []
  | fuel + 1, '\\' :: c :: rest =>
      if c == '"' || c == '/' || c == '&' then c :: patternSource fuel rest
      else
        let digits := ((c :: rest).take 3).takeWhile Numeral.isOctal
        if !digits.isEmpty then
          Char.ofNat (Numeral.ofDigits 8 digits % 256) :: patternSource fuel ((c :: rest).drop digits.length)
        else if ['r', 'a', 'f', 'v'].contains c then
          (unescape (c :: rest)).1 ++ patternSource fuel rest
        else if ['b', 'B', 'w', 'W', 's', 'S', '<', '>', '\'', '\x60'].contains c then
          c :: patternSource fuel rest
        else '\\' :: c :: patternSource fuel rest
  | fuel + 1, c :: rest => c :: patternSource fuel rest

def readPattern (source : String) : Except String Expression :=
  let chars := patternSource (source.length + 1) source.toList
  match Expression.read ⟨true, false⟩ chars with
  | .ok expression => .ok expression
  | .error problem =>
      let cause := match problem with
        | .openGroup => "missing ')'"
        | .openSet => "bad class -- [], [^] or ["
        | .backslash => "trailing backslash"
        | other => other.message
      .error ("regular expression compile failed (" ++ cause ++ ")\n" ++ source)

end LifecycleHooks.Tool.Records
