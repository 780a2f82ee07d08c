/-!
# The civil calendar

Days of the proleptic Gregorian calendar from the year 1 to the year 9999, counted from the first
of January of the year 1, and times of day down to microseconds.
-/

namespace BallotWallet.Time

/-- A day of the calendar. -/
structure Date where
  year : Nat
  month : Nat
  day : Nat
  deriving DecidableEq, Inhabited

/-- A time of day. -/
structure TimeOfDay where
  hour : Nat
  minute : Nat
  second : Nat
  micro : Nat
  deriving DecidableEq, Inhabited

def isLeap (year : Nat) : Bool :=
  year % 4 == 0 && (year % 100 != 0 || year % 400 == 0)

/-- The number of days of a month, zero if there is no such month. -/
def daysIn (year month : Nat) : Nat :=
  if month == 2 then (if isLeap year then 29 else 28)
  else if month == 4 || month == 6 || month == 9 || month == 11 then 30
  else if 1 ≤ month && month ≤ 12 then 31
  else 0

/-- Whether there is such a day. -/
def Date.isValid (d : Date) : Bool :=
  1 ≤ d.year && d.year ≤ 9999 && 1 ≤ d.day && d.day ≤ daysIn d.year d.month

/-- Whether there is such a time of day; leap seconds are not known. -/
def TimeOfDay.isValid (t : TimeOfDay) : Bool :=
  t.hour < 24 && t.minute < 60 && t.second < 60 && t.micro < 1000000

def daysBeforeYear (year : Nat) : Nat :=
  (year - 1) * 365 + (year - 1) / 4 - (year - 1) / 100 + (year - 1) / 400

def daysBeforeMonth (year month : Nat) : Nat :=
  ((List.range month).map (daysIn year)).foldl (· + ·) 0

/-- The number of a day, one for the first of January of the year 1. -/
def Date.ordinal (d : Date) : Nat :=
  daysBeforeYear d.year + daysBeforeMonth d.year d.month + d.day

/-- The month and the day of the month of a day of a year, counted from zero; `month` is the
first month not excluded yet. -/
def monthAndDay (year : Nat) : Nat → Nat → Nat → Nat × Nat
  | 0, month, n => (month, n + 1)
  | fuel + 1, month, n =>
    if n < daysIn year month then (month, n + 1)
    else monthAndDay year fuel (month + 1) (n - daysIn year month)

/-- The day with a given number. Each cycle of 400, 100, 4 years and of one year is cut off in
turn; the last year of a cycle may be a day longer than the others. -/
def Date.ofOrdinal (ordinal : Nat) : Date :=
  let n := ordinal - 1
  let y400 := n / 146097
  let n := n % 146097
  let y100 := min (n / 36524) 3
  let n := n - y100 * 36524
  let y4 := n / 1461
  let n := n % 1461
  let y1 := min (n / 365) 3
  let n := n - y1 * 365
  let year := y400 * 400 + y100 * 100 + y4 * 4 + y1 + 1
  let (month, day) := monthAndDay year 12 1 n
  ⟨year, month, day⟩

/-- The number of the first of January 1970. -/
def unixEpoch : Nat := 719163

def TimeOfDay.micros (t : TimeOfDay) : Nat :=
  ((t.hour * 60 + t.minute) * 60 + t.second) * 1000000 + t.micro

/-- The time of day that many microseconds after midnight. -/
def TimeOfDay.ofMicros (n : Nat) : TimeOfDay :=
  ⟨n / 3600000000, n / 60000000 % 60, n / 1000000 % 60, n % 1000000⟩

/-- The number of the Monday that starts the first week of a year, the week with its first
Thursday. -/
def firstMonday (year : Nat) : Int :=
  let january : Int := (daysBeforeYear year : Int) + 1
  let weekday := (january + 6) % 7
  let monday := january - weekday
  if 3 < weekday then monday + 7 else monday

/-- Whether a year has a week with the given number. -/
def hasWeek (year week : Nat) : Bool :=
  if 1 ≤ week && week ≤ 52 then true
  else if week == 53 then
    let weekday := (daysBeforeYear year + 1) % 7
    weekday == 4 || (weekday == 3 && isLeap year)
  else false

/-- The day of a week of a year, if the year has that week and the week that day. -/
def Date.ofWeek? (year week day : Nat) : Option Date :=
  if 1 ≤ year && year ≤ 9999 && hasWeek year week && 1 ≤ day && day ≤ 7 then
    let ordinal := firstMonday year + ((week - 1) * 7 + (day - 1) : Nat)
    if ordinal < 1 then none else some (Date.ofOrdinal ordinal.toNat)
  else none

/-- The digits of a number, at least `width` of them. -/
def padded (width n : Nat) : String :=
  let ds := Nat.toDigits 10 n
  String.ofList (List.replicate (width - ds.length) '0' ++ ds)

/-- The day as year, month and day. -/
def Date.text (d : Date) : String :=
  padded 4 d.year ++ "-" ++ padded 2 d.month ++ "-" ++ padded 2 d.day

/-- The time as hours, minutes and seconds. -/
def TimeOfDay.clock (t : TimeOfDay) : String :=
  padded 2 t.hour ++ ":" ++ padded 2 t.minute ++ ":" ++ padded 2 t.second

/-- The time as hours, minutes and seconds, with a fraction if it has one. -/
def TimeOfDay.text (t : TimeOfDay) : String :=
  t.clock ++ (if t.micro == 0 then "" else "." ++ padded 6 t.micro)

end BallotWallet.Time
