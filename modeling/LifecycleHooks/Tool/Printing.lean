import LifecycleHooks.Shell.Format
import LifecycleHooks.Tool.Basic

/-!
Programs that print what they are called with or what surrounds them.
-/

namespace LifecycleHooks.Tool

open Process Text
open Shell (Format.unescape)

def echoOptions (newline escapes : Bool) : List String → Bool × Bool × List String
  | [] => (newline, escapes, [])
  | arg :: args =>
      match arg.toList with
      | '-' :: c :: letters =>
          if (c :: letters).all ['n', 'e', 'E'].contains then
            let escapes := match ((c :: letters).filter (· != 'n')).getLast? with
              | some 'e' => true
              | some _ => false
              | none => escapes
            echoOptions (newline && !(c :: letters).contains 'n') escapes args
          else (newline, escapes, arg :: args)
      | _ => (newline, escapes, arg :: args)

def echo (frame : Frame) : Work Ending := do
  let (newline, escapes, words) := echoOptions true false frame.args
  let text := " ".intercalate words
  let lineEnd : Bytes := if newline then [10] else []
  if escapes then
    let (bytes, stopped) := Shell.Format.unescape (text.length + 1) text.toList
    frame.put (if stopped then bytes else bytes ++ lineEnd)
  else frame.put (Text.octets text ++ lineEnd)
  return ok

def printf (frame : Frame) : Work Ending := do
  let args := if frame.args.head? == some "--" then frame.args.drop 1 else frame.args
  match args with
  | [] => frame.misused "missing operand"
  | format :: args =>
      let printed := Shell.Format.printf true (args.length + 1) format.toList args
      frame.put printed.bytes
      for (arg, misfit) in printed.unsuited do
        frame.complain (cited arg ++ match misfit with
          | .noNumber => ": expected a numeric value"
          | .incomplete => ": value not completely converted"
          | .outOfRange => ": Numerical result out of range")
      let invalid (text : String) : Work Ending := do
        frame.complain text
        return failed
      match printed.invalid with
      | some (.incomplete text) => invalid (text ++ ": invalid conversion specification")
      | some (.unknown text) => invalid (text ++ ": invalid conversion specification")
      | some (.badEscape text) => invalid text
      | none =>
          if Shell.Format.takesNothing true format.toList args then
            frame.complain ("warning: ignoring excess arguments, starting with " ++ cited (args.headD ""))
          return ofBool printed.unsuited.isEmpty

def pwd (frame : Frame) : Work Ending :=
  withOptions frame "LP" [("logical", 'L'), ("physical", 'P')] fun options => do
    if !options.operands.isEmpty then frame.complain "ignoring non-option arguments"
    let given := ((frame.environment.find? fun entry => entry.1 == "PWD").map Prod.snd).getD ""
    let tree ← frame.view
    let isValid := Route.isAbsolute ⟨given⟩ &&
      !((given.splitOn "/").any fun step => step == "." || step == "..") &&
      ((tree.stat [] ⟨given⟩).toOption.map Prod.fst) == some frame.cwd
    let logical := options.last? ['L', 'P'] == some 'L' && isValid
    frame.say ((if logical then given else (Route.ofLocation frame.cwd).text) ++ "\n")
    return ok

def printenv (frame : Frame) : Work Ending :=
  withLeadingOptions frame "0" [("null", '0')] fun options => do
    let lineEnd := if options.has '0' then "\x00" else "\n"
    if options.operands.isEmpty then
      for entry in frame.environment do frame.say (entry.1 ++ "=" ++ entry.2 ++ lineEnd)
      return ok
    else
      forEach options.operands fun name => do
        match frame.environment.find? fun entry => entry.1 == name with
        | some (_, value) =>
            frame.say (value ++ lineEnd)
            return true
        | none => return false

def baseName (text : String) : String :=
  let chars := (text.toList.reverse.dropWhile (· == '/')).reverse
  if chars.isEmpty then (if text.isEmpty then "" else "/")
  else String.ofList (((Text.splitOnChar '/' chars).getLast?).getD [])

def withoutEnding (text ending : String) : String :=
  if ending.toList.isSuffixOf text.toList && ending != text then
    String.ofList (text.toList.take (text.length - ending.length))
  else text

def basename (frame : Frame) : Work Ending :=
  withLeadingOptions frame "azs:" [("multiple", 'a'), ("suffix=", 's'), ("zero", 'z')] fun options => do
    let lineEnd := if options.has 'z' then "\x00" else "\n"
    let many := options.has 'a' || (options.value? 's').isSome
    match many, options.operands with
    | _, [] => frame.misused "missing operand"
    | true, paths =>
        for path in paths do
          frame.say (withoutEnding (baseName path) ((options.value? 's').getD "") ++ lineEnd)
        return ok
    | false, [path] =>
        frame.say (baseName path ++ lineEnd)
        return ok
    | false, [path, ending] =>
        frame.say (withoutEnding (baseName path) ending ++ lineEnd)
        return ok
    | false, _ :: _ :: extra :: _ => frame.misused ("extra operand " ++ cited extra)

def dirName (text : String) : String :=
  let chars := text.toList.reverse.dropWhile (· == '/')
  let rest := (chars.dropWhile (· != '/')).dropWhile (· == '/')
  if rest.isEmpty then (if text.toList.head? == some '/' then "/" else ".")
  else String.ofList rest.reverse

def dirname (frame : Frame) : Work Ending :=
  withLeadingOptions frame "z" [("zero", 'z')] fun options => do
    if options.operands.isEmpty then frame.misused "missing operand"
    else
      for path in options.operands do
        frame.say (dirName path ++ (if options.has 'z' then "\x00" else "\n"))
      return ok

def sleep (frame : Frame) : Work Ending :=
  withOptions frame "" [] fun options => do
    let bad := options.operands.filter fun arg => (duration? arg).isNone && arg != "infinity"
    match bad.reverse with
    | last :: others =>
        for arg in others.reverse do frame.complain ("invalid time interval " ++ cited arg)
        frame.misused ("invalid time interval " ++ cited last)
    | [] =>
        if options.operands.isEmpty then frame.misused "missing operand"
        else if options.operands.contains "infinity" then Work.hang
        else
          Work.sleep ((options.operands.filterMap duration?).foldl (· + ·) 0)
          return ok

/-- A decimal as a whole number of units and how many decimal places the unit is below one. -/
def decimal? (text : String) : Option (Int × Nat) :=
  let (negative, chars) : Bool × List Char := match text.toList with
    | '-' :: rest => (true, rest)
    | '+' :: rest => (false, rest)
    | chars => (false, chars)
  let front := chars.takeWhile Char.isDigit
  let (fraction, rest) : List Char × List Char := match chars.drop front.length with
    | '.' :: rest => (rest.takeWhile Char.isDigit, rest.dropWhile Char.isDigit)
    | rest => ([], rest)
  if (front.isEmpty && fraction.isEmpty) || !rest.isEmpty then none
  else
    let n := (front ++ fraction).foldl (fun (n : Nat) c => n * 10 + (c.toNat - 48)) 0
    some (if negative then -(n : Int) else n, fraction.length)

def decimalText (places width : Nat) (n : Int) : String :=
  let digits := Nat.toDigits 10 n.natAbs
  let digits := List.replicate (places + 1 - digits.length) '0' ++ digits
  let whole := digits.length - places
  let text := digits.take whole ++ (if places = 0 then [] else '.' :: digits.drop whole)
  let sign := if n < 0 then ['-'] else []
  String.ofList (sign ++ List.replicate (width - text.length - sign.length) '0' ++ text)

def numbersFrom (step last : Int) : Nat → Int → List Int
  | 0, _ => []
  | count + 1, n =>
      if (0 < step && last < n) || (step < 0 && n < last) then []
      else n :: numbersFrom step last count (n + step)

def countUp (frame : Frame) (separator : String) (text : Int → String) (step last : Int) :
    Nat → Bool → Int → Work Unit
  | 0, _, _ => pure ()
  | fuel + 1, isFirst, n => do
      let numbers := numbersFrom step last 1000 n
      if numbers.isEmpty then
        if isFirst then pure () else frame.say "\n"
      else
        frame.say ((if isFirst then "" else separator) ++ separator.intercalate (numbers.map text))
        if numbers.length == 1000 then
          countUp frame separator text step last fuel false (n + 1000 * step)
        else frame.say "\n"

def markNumbers : List String → List String
  | [] => []
  | "--" :: rest => "--" :: rest
  | "-s" :: separator :: rest => "-s" :: separator :: markNumbers rest
  | arg :: rest => if (decimal? arg).isSome then "--" :: arg :: rest else arg :: markNumbers rest

def directivesIn : List Char → List (List Char)
  | [] => []
  | '%' :: '%' :: rest => directivesIn rest
  | '%' :: rest => rest :: directivesIn rest
  | _ :: rest => directivesIn rest

/-- What is wrong with a format for numbers, which has to have one directive for them. -/
def formatProblem? (format : String) : Option String :=
  match directivesIn format.toList with
  | [] => some ("format " ++ cited format ++ " has no % directive")
  | directive :: others =>
      match Shell.Format.directive false directive [] with
      | (some conversion, _, _, _) =>
          if !Shell.Format.realLetters.contains conversion.letter then
            some ("format " ++ cited format ++ " has unknown %" ++ String.singleton conversion.letter ++
              " directive")
          else if others.isEmpty then none
          else some ("format " ++ cited format ++ " has too many % directives")
      | (none, c :: _, _, _) =>
          some ("format " ++ cited format ++ " has unknown %" ++ String.singleton c ++ " directive")
      | (none, [], _, _) => some ("format " ++ cited format ++ " ends in %")

/-- A number as a format shows it. A backslash in the format stands for itself. -/
def formattedNumber (format number : String) : String :=
  let chars := format.toList.flatMap fun c => if c == '\\' then [c, c] else [c]
  Text.ofOctets (Shell.Format.once true (chars.length + 1) chars [number]).bytes

def seq (frame : Frame) : Work Ending :=
  withLeadingOptions { frame with args := markNumbers frame.args } "ws:f:"
      [("equal-width", 'w'), ("separator=", 's'), ("format=", 'f')] fun options => do
    let args := options.operands
    if args.isEmpty then frame.misused "missing operand"
    else if 3 < args.length then frame.misused ("extra operand " ++ cited (args.getD 3 ""))
    else
      let badFormat := (options.value? 'f').bind formatProblem?
      match args.find? fun arg => (decimal? arg).isNone, badFormat with
      | _, some problem =>
          frame.complain problem
          return failed
      | some arg, _ => frame.misused ("invalid floating point argument: " ++ cited arg)
      | none, none =>
          let one : Int × Nat := (1, 0)
          let (first, step, last) : (Int × Nat) × (Int × Nat) × (Int × Nat) :=
            match args.filterMap decimal? with
            | [last] => (one, one, last)
            | [first, last] => (first, one, last)
            | [first, step, last] => (first, step, last)
            | _ => (one, one, one)
          if options.has 'w' && options.has 'f' then
            frame.misused "format string may not be specified when printing equal width strings"
          else if step.1 == 0 then
            frame.misused ("invalid Zero increment value: " ++ cited (args.getD 1 ""))
          else
            let shown := max first.2 step.2
            let places := max shown last.2
            let scaled (n : Int × Nat) : Int := n.1 * Nat.pow 10 (places - n.2)
            let unit : Int := Nat.pow 10 (places - shown)
            let text (width : Nat) (n : Int) : String := decimalText shown width (n / unit)
            let width :=
              if options.has 'w' then max (text 0 (scaled first)).length (text 0 (scaled last)).length
              else 0
            let steps := (scaled last - scaled first).natAbs / (scaled step).natAbs
            let written (n : Int) : String := match options.value? 'f' with
              | some format => formattedNumber format (text 0 n)
              | none => text width n
            countUp frame ((options.value? 's').getD "\n") written (scaled step) (scaled last)
              (steps / 1000 + 2) true (scaled first)
            return ok

def repeatBlock (frame : Frame) (block : Bytes) : Nat → Work Unit
  | 0 => Work.hang
  | n + 1 => do
      frame.put block
      Work.sleep blockCost
      repeatBlock frame block n

def yes (frame : Frame) : Work Ending := do
  let text := if frame.args.isEmpty then "y" else " ".intercalate frame.args
  let line := Text.octets (text ++ "\n")
  repeatBlock frame (List.replicate (blockSize / line.length + 1) line).flatten blockLimit
  return ok

def signal? (text : String) : Option Nat :=
  match natural? text with
  | some n => if n ≤ Signal.greatest then some n else none
  | none =>
      let name := text.toUpper
      let name := if "SIG".toList.isPrefixOf name.toList then (name.drop 3).toString else name
      if name == "EXIT" then some 0
      else (Signal.named.find? fun entry => entry.1 == name).map Prod.snd

/-- Sends a signal to a process. A target of zero means the sender's own group, and one below zero
the group of that number. Answers whether there is anybody. -/
def sendSignal (sender : Pid) (signal : Nat) (target : Int) : Work Bool :=
  Work.change fun world =>
    let group : Nat := if target = 0 then (world.group? sender).getD sender else target.natAbs
    let selects (pid : Pid) (entry : Entry) : Bool :=
      if 0 < target then pid == target.natAbs
      else if target = -1 then pid != sender
      else entry.group == group
    let present := world.processes.any fun (pid, entry) => selects pid entry
    (present, if signal = 0 then world else world.signalWhere signal selects)

def signalListed? (text : String) : Option String :=
  match natural? text with
  | some n =>
      let n := if 128 < n then n - 128 else n
      (Signal.named.find? fun entry => entry.2 == n).map Prod.fst
  | none => (signal? text).map toString

def kill (frame : Frame) : Work Ending := do
  let toAll (signal : Option Nat) (name : String) (targets : List String) : Work Ending := do
    match signal with
    | none =>
        frame.complain (if name.isEmpty then "not enough arguments" else "invalid signal name or number: " ++ name)
        return failed
    | some signal =>
        let mut fine := true
        for text in targets do
          match integer? text with
          | none =>
              frame.complain ("failed to parse argument: '" ++ text ++ "'")
              return failed
          | some pid =>
              let found ← sendSignal frame.pid signal pid
              if !found then
                frame.complain ("(" ++ text ++ "): No such process")
                fine := false
        return ofBool fine
  match frame.args with
  | "-s" :: name :: rest => toAll (signal? name) name rest
  | "-l" :: [] =>
      frame.say (" ".intercalate (Signal.named.map Prod.fst) ++ "\n")
      return ok
  | "-l" :: names =>
      forEach names fun name => do
        match signalListed? name with
        | some text =>
            frame.say (text ++ "\n")
            return true
        | none =>
            frame.complain ("unknown signal name " ++ name)
            return false
  | "--" :: rest => toAll (some Signal.terminate) "" rest
  | first :: rest =>
      match first.toList with
      | ['-'] => toAll (some Signal.terminate) "" frame.args
      | '-' :: name => toAll (signal? (String.ofList name)) (String.ofList name) rest
      | _ => toAll (some Signal.terminate) "" frame.args
  | [] => toAll none "" []

end LifecycleHooks.Tool
