import LifecycleHooks.Number.Places
import LifecycleHooks.Shell.Numeral
import LifecycleHooks.Tool.Naming

/-!
Output by arguments: escapes in texts, and formats that are used again as long as arguments are left.
Texts are texts of octets.
-/

namespace LifecycleHooks.Shell.Format

open Text (Bytes)
open Numeral (Misfit hexValue? isOctal)

def ofChar (c : Char) : Bytes := [c.toNat.toUInt8]

def simpleEscape? : Char → Option Nat
  | 'a' => some 7
  | 'b' => some 8
  | 'e' => some 27
  | 'f' => some 12
  | 'n' => some 10
  | 'r' => some 13
  | 't' => some 9
  | 'v' => some 11
  | '\\' => some 92
  | _ => none

def octalDigits (chars : List Char) : List Char := (chars.take 3).takeWhile isOctal

/-- The escape in front behind its backslash: its bytes and the rest. `zero` admits a zero before
octal digits, as arguments have it and formats do not. -/
def escape (zero : Bool) : List Char → Bytes × List Char
  | [] => ([92], [])
  | c :: rest =>
      match simpleEscape? c with
      | some byte => ([byte.toUInt8], rest)
      | none =>
          if zero && c == '0' then
            let digits := octalDigits rest
            ([(Numeral.ofDigits 8 digits).toUInt8], rest.drop digits.length)
          else if isOctal c then
            let digits := octalDigits (c :: rest)
            ([(Numeral.ofDigits 8 digits).toUInt8], (c :: rest).drop digits.length)
          else (92 :: ofChar c, rest)

/-- A text with its escapes done, and whether one said to stop all output. -/
def unescape : Nat → List Char → Bytes × Bool
  | 0, _ => ([], false)
  | _, [] => ([], false)
  | fuel + 1, c :: rest =>
      if c == '\\' then
        match rest with
        | 'c' :: _ => ([], true)
        | _ =>
            let (bytes, after) := escape true rest
            let (others, stopped) := unescape fuel after
            (bytes ++ others, stopped)
      else
        let (others, stopped) := unescape fuel rest
        (ofChar c ++ others, stopped)

def echo (escapes : Bool) (args : List String) : Bytes :=
  let (newline, args) := match args with
    | "-n" :: rest => (false, rest)
    | _ => (true, args)
  let text := " ".intercalate args
  if escapes then
    let (bytes, stopped) := unescape (text.length + 1) text.toList
    if newline && !stopped then bytes ++ [10] else bytes
  else Text.octets text ++ (if newline then [10] else [])

structure Conversion where
  left : Bool
  zero : Bool
  plus : Bool
  blank : Bool
  alternate : Bool
  width : Nat
  precision : Option Nat
  letter : Char

def pad (c : Conversion) (bytes : Bytes) : Bytes :=
  let gap := c.width - bytes.length
  if c.left then bytes ++ List.replicate gap 32 else List.replicate gap 32 ++ bytes

def padNumber (c : Conversion) (sign digits : String) : Bytes :=
  let digits := match c.precision with
    | some n => String.ofList (List.replicate (n - digits.length) '0') ++ digits
    | none =>
        if c.zero && !c.left then
          String.ofList (List.replicate (c.width - digits.length - sign.length) '0') ++ digits
        else digits
  pad c (Text.octets (sign ++ digits))

def inBase (base : Nat) (n : Nat) : String := String.ofList (Nat.toDigits base n)

def digitsOf (c : Conversion) (n : Nat) (digits : String) : String :=
  if n = 0 && c.precision == some 0 then "" else digits

def convertReal (extended : Bool) (c : Conversion) (x : Numeral.Real) : Bytes :=
  let sign (negative : Bool) : String :=
    if negative then "-" else if c.plus then "+" else if c.blank then " " else ""
  let cased (chars : List Char) : String :=
    String.ofList (if c.letter.isUpper then chars.map Char.toUpper else chars)
  match x with
  | .infinite negative => pad c (Text.octets (sign negative ++ cased ['i', 'n', 'f']))
  | .undefined negative => pad c (Text.octets (sign negative ++ cased ['n', 'a', 'n']))
  | .finite value =>
      let precision := c.precision.getD 6
      let chars := match c.letter.toLower with
        | 'a' =>
            if extended then value.hexadecimal Double.extended 4 c.alternate c.precision
            else value.hexadecimal Double.precision 1 c.alternate c.precision
        | 'f' => value.fixed c.alternate precision
        | 'e' => value.exponential c.alternate precision
        | _ => value.general c.alternate precision
      padNumber { c with precision := none } (sign value.negative) (cased chars)

def wholeLetters : List Char := ['d', 'i', 'u', 'x', 'X', 'o']

def realLetters : List Char := ['a', 'A', 'f', 'F', 'e', 'E', 'g', 'G']

def convert (extended : Bool) (c : Conversion) (arg : String) : Bytes × Option Misfit :=
  match c.letter with
  | 's' =>
      let bytes := Text.octets arg
      (pad c (match c.precision with
        | some n => bytes.take n
        | none => bytes), none)
  | 'q' => (Text.octets (Tool.shown arg), none)
  | 'b' => (pad c (unescape (arg.length + 1) arg.toList).1, none)
  | 'c' => (pad c [((Text.octets arg).head?).getD 0], none)
  | letter =>
      if realLetters.contains letter then
        let (x, misfit) := Numeral.real extended arg
        (convertReal extended c x, misfit)
      else if letter == 'd' || letter == 'i' then
        let (n, misfit) := Numeral.whole (-9223372036854775808) 9223372036854775807 arg
        let sign := if n < 0 then "-" else if c.plus then "+" else if c.blank then " " else ""
        (padNumber c sign (digitsOf c n.natAbs (toString n.natAbs)), misfit)
      else
        let (n, misfit) := Numeral.whole (-18446744073709551615) 18446744073709551615 arg
        let m := (if n < 0 then n + 18446744073709551616 else n).toNat
        let digits := match letter with
          | 'x' => (if c.alternate && m != 0 then "0x" else "") ++ inBase 16 m
          | 'X' => (if c.alternate && m != 0 then "0X" else "") ++ (inBase 16 m).toUpper
          | 'o' => (if c.alternate && m != 0 then "0" else "") ++ inBase 8 m
          | _ => toString m
        (padNumber c "" (digitsOf c m digits), misfit)

inductive Fault
  /-- A directive that has no end. -/
  | incomplete (text : String)
  | unknown (text : String)
  /-- An escape that is none, in words of its own. -/
  | badEscape (text : String)

/-- What a format gave: the output, the arguments left, whether it should stop, the arguments that
did not suit, and why it could not be used to its end. -/
structure Printed where
  bytes : Bytes
  rest : List String
  stopped : Bool
  unsuited : List (String × Misfit)
  invalid : Option Fault

/-- What is read of a directive: a number, the rest of it, the arguments left, and the argument in the
number's place with what is wrong with it. -/
structure Measured where
  value : Option Int
  rest : List Char
  args : List String
  unsuited : List (String × Misfit)

def measure (chars : List Char) (args : List String) : Measured :=
  match chars with
  | '*' :: rest =>
      match args with
      | arg :: args =>
          let (n, misfit) := Numeral.whole (-2147483648) 2147483647 arg
          ⟨some n, rest, args, (misfit.map (Prod.mk arg)).toList⟩
      | [] => ⟨some 0, rest, [], []⟩
  | _ =>
      let digits := chars.takeWhile Char.isDigit
      if digits.isEmpty then ⟨none, chars, args, []⟩
      else ⟨some (Numeral.ofDigits 10 digits), chars.drop digits.length, args, []⟩

def flagChars : List Char := ['-', '0', '+', ' ', '#', '\'']

/-- The letters between a precision and its conversion that make no difference in the extended
dialect. -/
def sizeLetters : List Char := ['l', 'L', 'h', 'j', 't', 'z']

def admits (extended : Bool) (flags : List Char) (plain precise : Bool) (letter : Char) : Bool :=
  (['s', 'c'] ++ wholeLetters ++ realLetters).contains letter &&
      (!extended ||
        !(flags.contains '#' && ['c', 'd', 'i', 's', 'u'].contains letter) &&
          !(flags.contains '0' && ['c', 's'].contains letter) &&
          !(flags.contains '\'' && ['a', 'A', 'c', 'e', 'E', 'o', 's', 'x', 'X'].contains letter) &&
          !(precise && letter == 'c')) ||
    letter == 'b' && (!extended || plain) || letter == 'q' && extended && plain

/-- A directive behind its percent sign: the conversion, if there is one, what follows, the arguments
left, and those that did not suit. -/
def directive (extended : Bool) (chars : List Char) (args : List String) :
    Option Conversion × List Char × List String × List (String × Misfit) :=
  let flags := chars.takeWhile flagChars.contains
  let width := measure (chars.drop flags.length) args
  let precise := width.rest.head? == some '.'
  let precision := if precise then measure (width.rest.drop 1) width.args else ⟨none, width.rest, width.args, []⟩
  let places : Option Nat :=
    match precise, precision.value with
    | true, some n => if n < 0 then none else some n.toNat
    | true, none => some 0
    | false, _ => none
  let rest := if extended then precision.rest.dropWhile sizeLetters.contains else precision.rest
  let unsuited := width.unsuited ++ precision.unsuited
  match rest with
  | letter :: rest =>
      let plain := rest.length + 1 == chars.length
      if admits extended flags plain precise letter then
        let width := width.value.getD 0
        (some ⟨flags.contains '-' || width < 0, flags.contains '0', flags.contains '+',
          flags.contains ' ', flags.contains '#', width.natAbs, places, letter⟩, rest,
          precision.args, unsuited)
      else (none, letter :: rest, precision.args, unsuited)
  | [] => (none, [], precision.args, unsuited)

/-- A character by the digits of its number, so many of them. What is not ASCII is shown by its
number. -/
def numbered (letter : Char) (count : Nat) (chars : List Char) : Except String Bytes :=
  let digits := chars.take count
  if digits.length < count || !digits.all fun c => (hexValue? c).isSome then
    .error "missing hexadecimal number in escape"
  else
    let n := Numeral.ofDigits 16 digits
    if (n < 0xa0 && n != 0x24 && n != 0x40 && n != 0x60 && !(n < 0x80 && 0x20 ≤ n)) ||
        (0xd800 ≤ n && n ≤ 0xdfff) then
      .error ("invalid universal character name \\" ++ String.singleton letter ++ String.ofList digits)
    else if n < 0x80 then .ok [n.toUInt8]
    else
      let wide := 0x10000 ≤ n
      .ok (Text.octets ("\\" ++ (if wide then "U" else "u") ++
        (String.ofList (Double.hexChars (if wide then 8 else 4) n)).toUpper))

def formatEscape (extended : Bool) (chars : List Char) : Except String (Bytes × List Char) :=
  match extended, chars with
  | true, 'x' :: rest =>
      let digits := (rest.take 2).takeWhile fun c => (hexValue? c).isSome
      if digits.isEmpty then .error "missing hexadecimal number in escape"
      else .ok ([(Numeral.ofDigits 16 digits).toUInt8], rest.drop digits.length)
  | true, 'u' :: rest => (numbered 'u' 4 rest).map fun bytes => (bytes, rest.drop 4)
  | true, 'U' :: rest => (numbered 'U' 8 rest).map fun bytes => (bytes, rest.drop 8)
  | true, '"' :: rest => .ok ([34], rest)
  | _, _ => .ok (escape false chars)

/-- One use of a format. In the extended dialect an escape in it can stop all output. -/
def once (extended : Bool) : Nat → List Char → List String → Printed
  | 0, _, args => ⟨[], args, false, [], none⟩
  | _, [], args => ⟨[], args, false, [], none⟩
  | fuel + 1, c :: rest, args =>
      if c == '\\' then
        if extended && rest.head? == some 'c' then ⟨[], args, true, [], none⟩
        else
          match formatEscape extended rest with
          | .error problem => ⟨[], args, true, [], some (.badEscape problem)⟩
          | .ok (bytes, after) =>
              let others := once extended fuel after args
              { others with bytes := bytes ++ others.bytes }
      else if c == '%' then
        match rest with
        | '%' :: after =>
            let others := once extended fuel after args
            { others with bytes := 37 :: others.bytes }
        | _ =>
            match directive extended rest args with
            | (some conversion, after, args, unsuited) =>
                let arg := args.headD ""
                let (bytes, misfit) := if conversion.letter == 'q' && args.isEmpty then ([], none)
                  else convert extended conversion arg
                let unsuited := unsuited ++ (misfit.map (Prod.mk arg)).toList
                let stopped := conversion.letter == 'b' &&
                  (unescape (arg.length + 1) arg.toList).2
                if stopped then ⟨bytes, args.drop 1, true, unsuited, none⟩
                else
                  let others := once extended fuel after (args.drop 1)
                  { others with
                    bytes := bytes ++ others.bytes, unsuited := unsuited ++ others.unsuited }
            | (none, after, args, unsuited) =>
                let text := String.ofList ('%' :: rest.take (rest.length - after.length + 1))
                ⟨[], args, true, unsuited,
                  some (if after.isEmpty then .incomplete text else .unknown text)⟩
      else
        let others := once extended fuel rest args
        { others with bytes := ofChar c ++ others.bytes }

def takesNothing (extended : Bool) (format : List Char) (args : List String) : Bool :=
  let first := once extended (format.length + 1) format args
  !args.isEmpty && !first.stopped && first.rest.length == args.length

/-- A format used again while arguments are left and it takes some. -/
def printf (extended : Bool) : Nat → List Char → List String → Printed
  | 0, _, args => ⟨[], args, false, [], none⟩
  | fuel + 1, format, args =>
      let first := once extended (format.length + 1) format args
      if first.stopped || first.rest.isEmpty || first.rest.length == args.length then first
      else
        let others := printf extended fuel format first.rest
        { others with
          bytes := first.bytes ++ others.bytes, unsuited := first.unsuited ++ others.unsuited }

end LifecycleHooks.Shell.Format
