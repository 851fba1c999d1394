/-!
Moments as dates and times of day. Moments are seconds since the beginning of 1970; there are no leap
seconds, and all times are in the same zone.
-/

namespace LifecycleHooks

structure Calendar where
  year : Int
  month : Nat
  day : Nat
  hour : Nat
  minute : Nat
  second : Nat
  deriving DecidableEq

namespace Calendar

/-- How many days lie between the first of March of the year zero and the beginning of 1970. -/
def epoch : Int := 719468

/-- Days since the beginning of 1970. Years are counted from March on, so that the day that not every
year has comes last. -/
def daysOf (year : Int) (month day : Nat) : Int :=
  let year := if month ≤ 2 then year - 1 else year
  let era := year.fdiv 400
  let yearOfEra := year - era * 400
  let dayOfYear : Int := (153 * ((month + 9) % 12) + 2) / 5 + day - 1
  era * 146097 + yearOfEra * 365 + yearOfEra / 4 - yearOfEra / 100 + dayOfYear - epoch

def dateOf (days : Int) : Int × Nat × Nat :=
  let days := days + epoch
  let era := days.fdiv 146097
  let dayOfEra := days - era * 146097
  let yearOfEra := (dayOfEra - dayOfEra / 1460 + dayOfEra / 36524 - dayOfEra / 146096) / 365
  let dayOfYear := dayOfEra - (365 * yearOfEra + yearOfEra / 4 - yearOfEra / 100)
  let shifted := (5 * dayOfYear + 2) / 153
  let day := (dayOfYear - (153 * shifted + 2) / 5 + 1).toNat
  let month := if shifted < 10 then shifted.toNat + 3 else shifted.toNat - 9
  (yearOfEra + era * 400 + (if month ≤ 2 then 1 else 0), month, day)

def seconds (calendar : Calendar) : Int :=
  daysOf calendar.year calendar.month calendar.day * 86400 + calendar.hour * 3600 +
    calendar.minute * 60 + calendar.second

def ofSeconds (seconds : Int) : Calendar :=
  let days := seconds.fdiv 86400
  let rest := (seconds - days * 86400).toNat
  let (year, month, day) := dateOf days
  ⟨year, month, day, rest / 3600, rest / 60 % 60, rest % 60⟩

def weekday (calendar : Calendar) : Nat :=
  ((daysOf calendar.year calendar.month calendar.day + 4).fmod 7).toNat

def dayOfYear (calendar : Calendar) : Nat :=
  (daysOf calendar.year calendar.month calendar.day - daysOf calendar.year 1 1).toNat + 1

def daysIn (year : Int) (month : Nat) : Nat :=
  if month = 12 then 31 else (daysOf year (month + 1) 1 - daysOf year month 1).toNat

def isValid (calendar : Calendar) : Bool :=
  1 ≤ calendar.month && calendar.month ≤ 12 && 1 ≤ calendar.day &&
    calendar.day ≤ daysIn calendar.year calendar.month && calendar.hour ≤ 23 &&
    calendar.minute ≤ 59 && calendar.second ≤ 60

def monthNames : List String :=
  ["January", "February", "March", "April", "May", "June", "July", "August", "September", "October",
    "November", "December"]

def dayNames : List String :=
  ["Sunday", "Monday", "Tuesday", "Wednesday", "Thursday", "Friday", "Saturday"]

def monthName (calendar : Calendar) : String := monthNames.getD (calendar.month - 1) ""

def dayName (calendar : Calendar) : String := dayNames.getD calendar.weekday ""

end Calendar

end LifecycleHooks
