import LifecycleHooks.Calendar
import LifecycleHooks.Tool.Basic

/-!
Dates in the arguments and in the output of programs.
-/

namespace LifecycleHooks.Tool.Dates

open Process

def padded (fill : Char) (width : Nat) (n : Int) : String :=
  let digits := toString n.natAbs
  let sign := if n < 0 then "-" else ""
  let front := String.ofList (List.replicate (width - digits.length - sign.length) fill)
  if fill == '0' then sign ++ front ++ digits else front ++ sign ++ digits

def week (calendar : Calendar) (firstDay : Nat) : Nat :=
  (calendar.dayOfYear + 6 - (calendar.weekday + 7 - firstDay) % 7) / 7

def mainWeek (calendar : Calendar) : Int × Nat :=
  let days := Calendar.daysOf calendar.year calendar.month calendar.day
  let thursday := days + 3 - ((calendar.weekday + 6) % 7 : Nat)
  let (year, _, _) := Calendar.dateOf thursday
  (year, ((thursday - Calendar.daysOf year 1 1) / 7).toNat + 1)

inductive Field
  | number (fill : Char) (width : Nat) (n : Int)
  | text (given : String)

def field? (calendar : Calendar) (nanos : Nat) (c : Char) : Option Field :=
  let hour := if calendar.hour % 12 = 0 then 12 else calendar.hour % 12
  let two (n : Nat) : Option Field := some (.number '0' 2 n)
  match c with
  | 'Y' => some (.number '0' 4 calendar.year)
  | 'C' => some (.number '0' 2 (calendar.year.fdiv 100))
  | 'y' => some (.number '0' 2 (calendar.year.fmod 100))
  | 'm' => two calendar.month
  | 'd' => two calendar.day
  | 'e' => some (.number ' ' 2 calendar.day)
  | 'H' => two calendar.hour
  | 'k' => some (.number ' ' 2 calendar.hour)
  | 'I' => two hour
  | 'l' => some (.number ' ' 2 hour)
  | 'M' => two calendar.minute
  | 'S' => two calendar.second
  | 's' => some (.number '0' 1 calendar.seconds)
  | 'N' => some (.number '0' 9 nanos)
  | 'j' => some (.number '0' 3 calendar.dayOfYear)
  | 'u' => some (.number '0' 1 (if calendar.weekday = 0 then 7 else calendar.weekday))
  | 'w' => some (.number '0' 1 calendar.weekday)
  | 'U' => two (week calendar 0)
  | 'W' => two (week calendar 1)
  | 'V' => two (mainWeek calendar).2
  | 'G' => some (.number '0' 4 (mainWeek calendar).1)
  | 'g' => some (.number '0' 2 ((mainWeek calendar).1.fmod 100))
  | 'q' => some (.number '0' 1 (((calendar.month + 2) / 3 : Nat)))
  | 'a' => some (.text (calendar.dayName.take 3).toString)
  | 'A' => some (.text calendar.dayName)
  | 'b' => some (.text (calendar.monthName.take 3).toString)
  | 'h' => some (.text (calendar.monthName.take 3).toString)
  | 'B' => some (.text calendar.monthName)
  | 'p' => some (.text (if calendar.hour < 12 then "AM" else "PM"))
  | 'P' => some (.text (if calendar.hour < 12 then "am" else "pm"))
  | 'Z' => some (.text "UTC")
  | 'z' => some (.text "+0000")
  | 'n' => some (.text "\n")
  | 't' => some (.text "\t")
  | '%' => some (.text "%")
  | _ => none

def spelled? : Char → Option String
  | 'F' => some "%Y-%m-%d"
  | 'T' => some "%H:%M:%S"
  | 'X' => some "%H:%M:%S"
  | 'D' => some "%m/%d/%y"
  | 'x' => some "%m/%d/%y"
  | 'R' => some "%H:%M"
  | 'r' => some "%I:%M:%S %p"
  | 'c' => some "%a %b %e %H:%M:%S %Y"
  | _ => none

def spellOut : List Char → List Char
  | [] => []
  | '%' :: '%' :: rest => '%' :: '%' :: spellOut rest
  | '%' :: c :: rest =>
      match spelled? c with
      | some text => text.toList ++ spellOut rest
      | none => '%' :: c :: spellOut rest
  | c :: rest => c :: spellOut rest

def Field.shown (flag : Option Char) (width : Option Nat) : Field → String
  | .number fill usual n =>
      let fill := match flag with
        | some '_' => ' '
        | some '0' => '0'
        | _ => fill
      if flag == some '-' then padded fill 0 n else padded fill (width.getD usual) n
  | .text given =>
      let given := if flag == some '^' then given.toUpper else given
      let fill := if flag == some '0' then '0' else ' '
      String.ofList (List.replicate (width.getD 0 - given.length) fill) ++ given

/-- A moment as a format says. `fuel` is more than the length of the format. -/
def formatChars (calendar : Calendar) (nanos : Nat) : Nat → List Char → String
  | 0, _ => ""
  | _, [] => ""
  | fuel + 1, '%' :: rest =>
      let (flag, after) : Option Char × List Char := match rest with
        | c :: more => if ['-', '_', '0', '^', '#'].contains c then (some c, more) else (none, rest)
        | [] => (none, [])
      let digits := after.takeWhile Char.isDigit
      let after := after.drop digits.length
      let width := if digits.isEmpty then none else natural? (String.ofList digits)
      match after with
      | [] => "%" ++ String.ofList rest
      | 'E' :: c :: more => formatChars calendar nanos fuel ('%' :: c :: more)
      | ':' :: 'z' :: more => "+00:00" ++ formatChars calendar nanos fuel more
      | c :: more =>
          match field? calendar nanos c with
          | some field =>
              let shown :=
                if c == 'N' && width.isSome then ((padded '0' 9 nanos).take (width.getD 9)).toString
                else field.shown flag width
              shown ++ formatChars calendar nanos fuel more
          | none =>
              String.ofList ('%' :: rest.take (rest.length - more.length)) ++
                formatChars calendar nanos fuel more
  | fuel + 1, c :: rest => String.singleton c ++ formatChars calendar nanos fuel rest

def format (text : String) (micros : Int) : String :=
  let chars := spellOut text.toList
  let seconds := micros.fdiv 1000000
  formatChars (Calendar.ofSeconds seconds) ((micros - seconds * 1000000) * 1000).toNat
    (chars.length + 1) chars

/-- A date and a time of day that is being read, and what is added to it. -/
structure Reading where
  date : Option (Int × Nat × Nat)
  time : Option (Nat × Nat × Nat)
  /-- Seconds that are added. -/
  offset : Int
  months : Int

def naturals? (separator : String) (text : String) : Option (List Nat) :=
  (text.splitOn separator).mapM natural?

def timeOf? (text : String) : Option (Nat × Nat × Nat) :=
  match naturals? ":" ((text.splitOn ".").headD "") with
  | some [h, m] => if h < 24 ∧ m < 60 then some (h, m, 0) else none
  | some [h, m, s] => if h < 24 ∧ m < 60 ∧ s < 61 then some (h, m, s) else none
  | _ => none

def dateOf? (text : String) : Option (Int × Nat × Nat) :=
  let valid (y m d : Nat) : Option (Int × Nat × Nat) :=
    if Calendar.isValid ⟨y, m, d, 0, 0, 0⟩ then some (y, m, d) else none
  match naturals? "-" text with
  | some [y, m, d] => valid y m d
  | _ =>
      match naturals? "/" text with
      | some [m, d, y] => valid y m d
      | _ =>
          if text.length = 8 then
            (natural? text).bind fun n => valid (n / 10000) (n / 100 % 100) (n % 100)
          else none

def unit? (text : String) : Option (Int × Int) :=
  let name := if text.toList.getLast? == some 's' then (text.dropEnd 1).toString else text
  match name with
  | "second" => some (1, 0)
  | "sec" => some (1, 0)
  | "minute" => some (60, 0)
  | "min" => some (60, 0)
  | "hour" => some (3600, 0)
  | "day" => some (86400, 0)
  | "week" => some (604800, 0)
  | "fortnight" => some (1209600, 0)
  | "month" => some (0, 1)
  | "year" => some (0, 12)
  | _ => none

def readWords (reading : Reading) : Nat → List String → Option Reading
  | 0, _ => none
  | _, [] => some reading
  | fuel + 1, word :: rest =>
      let shift (n : Int) (unit : Int × Int) (rest : List String) : Option Reading :=
        let (n, rest) := if rest.head? == some "ago" then (-n, rest.drop 1) else (n, rest)
        readWords { reading with
          offset := reading.offset + n * unit.1, months := reading.months + n * unit.2 } fuel rest
      match dateOf? word, timeOf? word with
      | some date, _ => readWords { reading with date := some date } fuel rest
      | none, some time => readWords { reading with time := some time } fuel rest
      | none, none =>
          match word, word.splitOn "T" with
          | "now", _ => readWords reading fuel rest
          | "today", _ => readWords reading fuel rest
          | "yesterday", _ => shift (-1) (86400, 0) rest
          | "tomorrow", _ => shift 1 (86400, 0) rest
          | "midnight", _ => readWords { reading with time := some (0, 0, 0) } fuel rest
          | "UTC", _ => readWords reading fuel rest
          | "Z", _ => readWords reading fuel rest
          | "GMT", _ => readWords reading fuel rest
          | "+0000", _ => readWords reading fuel rest
          | "+00:00", _ => readWords reading fuel rest
          | "next", _ => (rest.head?.bind unit?).bind fun unit => shift 1 unit (rest.drop 1)
          | "last", _ => (rest.head?.bind unit?).bind fun unit => shift (-1) unit (rest.drop 1)
          | _, [day, clock] =>
              let clock := clock.toList.takeWhile fun c => c != 'Z' && c != '+'
              match dateOf? day, timeOf? (String.ofList clock) with
              | some date, some time =>
                  readWords { reading with date := some date, time := some time } fuel rest
              | _, _ => none
          | _, _ =>
              match integer? word, unit? word with
              | some n, _ => (rest.head?.bind unit?).bind fun unit => shift n unit (rest.drop 1)
              | none, some unit => shift 1 unit rest
              | none, none => none

def parse? (now : Int) (text : String) : Option Int :=
  match text.toList with
  | '@' :: rest =>
      match (String.ofList rest).splitOn "." with
      | [whole] => (integer? whole).map (· * 1000000)
      | [whole, fraction] => do
          let n ← integer? whole
          let part ← natural? (String.ofList ((fraction.toList ++ List.replicate 6 '0').take 6))
          return n * 1000000 + part
      | _ => none
  | _ => do
      let words := (text.splitOn " ").filter (· != "")
      let reading ← readWords ⟨none, none, 0, 0⟩ (words.length + 1) words
      let present := Calendar.ofSeconds (now.fdiv 1000000)
      let (year, month, day) := reading.date.getD (present.year, present.month, present.day)
      let plain := reading.time.isNone && reading.date.isNone && !words.isEmpty
      let (hour, minute, second) := reading.time.getD
        (if plain then (present.hour, present.minute, present.second) else (0, 0, 0))
      let months := (month : Int) - 1 + reading.months
      let calendar : Calendar :=
        ⟨year + months.fdiv 12, (months.fmod 12).toNat + 1, day, hour, minute, second⟩
      return (calendar.seconds + reading.offset) * 1000000 +
        (if plain then now - now.fdiv 1000000 * 1000000 else 0)

def parseDigits? (now : Int) (text : String) : Option Int := do
  let (front, second) ← match text.splitOn "." with
    | [front] => some (front, 0)
    | [front, second] => if second.length = 2 then (natural? second).map fun n => (front, n) else none
    | _ => none
  let n ← natural? front
  let present := Calendar.ofSeconds (now.fdiv 1000000)
  let year ← match front.length with
    | 8 => some present.year
    | 10 => some (Int.ofNat (n / 100000000) + if n / 100000000 < 69 then 2000 else 1900)
    | 12 => some (Int.ofNat (n / 100000000))
    | _ => none
  let calendar : Calendar :=
    ⟨year, n / 1000000 % 100, n / 10000 % 100, n / 100 % 100, n % 100, second⟩
  if calendar.isValid then some (calendar.seconds * 1000000) else none

def usual : String := "%a %b %e %H:%M:%S %Z %Y"

def date (frame : Frame) : Work Ending :=
  withOptions frame "d:uRI::r:s:f:"
      [("date=", 'd'), ("utc", 'u'), ("universal", 'u'), ("rfc-email", 'R'), ("iso-8601=?", 'I'),
        ("reference=", 'r'), ("set=", 's'), ("file=", 'f'), ("rfc-3339=", 'x')] fun options => do
    let now ← Work.look World.now
    let tree ← frame.view
    let moment ← match options.value? 'd', options.value? 'r' with
      | some text, _ =>
          match parse? now text with
          | some moment => pure moment
          | none =>
              frame.complain ("invalid date " ++ cited text)
              Work.stop failed
      | none, some path =>
          match tree.modified? frame.cwd ⟨path⟩ with
          | some moment => pure moment
          | none =>
              frame.complain (path ++ ": " ++ describe .noSuchFile)
              Work.stop failed
      | none, none => pure now
    let form ← match options.value? 'I', options.operands with
      | some "", _ => pure "%Y-%m-%d"
      | some "date", _ => pure "%Y-%m-%d"
      | some "hours", _ => pure "%Y-%m-%dT%H%:z"
      | some "minutes", _ => pure "%Y-%m-%dT%H:%M%:z"
      | some "seconds", _ => pure "%Y-%m-%dT%H:%M:%S%:z"
      | some "ns", _ => pure "%Y-%m-%dT%H:%M:%S,%N%:z"
      | _, [] => pure (if options.has 'R' then "%a, %d %b %Y %H:%M:%S %z" else usual)
      | _, [given] =>
          match given.toList with
          | '+' :: form => pure (String.ofList form)
          | _ =>
              frame.complain ("invalid date " ++ cited given)
              Work.stop failed
      | _, _ :: extra :: _ => do
          let _ ← frame.misused ("extra operand " ++ cited extra)
          Work.stop failed
    frame.say (format form moment ++ "\n")
    return ok

end LifecycleHooks.Tool.Dates
