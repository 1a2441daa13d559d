import ContentIndex.Decimal.Layout

/-!
# Moments

A date with a time of day, to the microsecond. An offset from universal time, in minutes, makes
two moments comparable wherever they were noted; one without an offset is compared by its fields.
-/

namespace ContentIndex

set_option autoImplicit false

structure Moment where
  year : Nat
  month : Nat
  day : Nat
  hour : Nat
  minute : Nat
  second : Nat
  microsecond : Nat
  offset : Option Int
  deriving DecidableEq, Repr

namespace Moment

/-- Days since the first of March of year zero in the Gregorian calendar. -/
def dayNumber (year month day : Nat) : Int :=
  let y : Int := if month ≤ 2 then Int.ofNat year - 1 else Int.ofNat year
  let m : Nat := if month ≤ 2 then month + 9 else month - 3
  365 * y + y / 4 - y / 100 + y / 400 + Int.ofNat ((153 * m + 2) / 5) + Int.ofNat day - 1

/-- Microseconds of the fields, less the offset. -/
def instant (t : Moment) : Int :=
  let minutes := (dayNumber t.year t.month t.day * 24 + Int.ofNat t.hour) * 60 + Int.ofNat t.minute
  ((minutes - t.offset.getD 0) * 60 + Int.ofNat t.second) * 1000000 + Int.ofNat t.microsecond

/-- Only two moments of one kind can be compared. -/
def compare? (a b : Moment) : Option Ordering :=
  if a.offset.isSome == b.offset.isSome then some (compare a.instant b.instant) else none

def padded (width n : Nat) : String :=
  String.ofList (Decimal.padLeft width (Text.natDigits n))

def offsetText (minutes : Int) : String :=
  let n := minutes.natAbs
  (if minutes < 0 then "-" else "+") ++ padded 2 (n / 60) ++ ":" ++ padded 2 (n % 60)

/-- The last part of the time of day that is written. -/
inductive Precision where
  | hours
  | minutes
  | seconds
  | milliseconds
  | microseconds
  deriving DecidableEq, Repr

/-- Microseconds are written only if there are any. -/
def precision (t : Moment) : Precision :=
  if t.microsecond == 0 then .seconds else .microseconds

def timeText (t : Moment) (precision : Precision) : String :=
  let hours := padded 2 t.hour
  let minutes := hours ++ ":" ++ padded 2 t.minute
  let seconds := minutes ++ ":" ++ padded 2 t.second
  match precision with
  | .hours => hours
  | .minutes => minutes
  | .seconds => seconds
  | .milliseconds => seconds ++ "." ++ padded 3 (t.microsecond / 1000)
  | .microseconds => seconds ++ "." ++ padded 6 t.microsecond

def isoText (t : Moment) (separator : String) (precision : Precision) : String :=
  let date := padded 4 t.year ++ "-" ++ padded 2 t.month ++ "-" ++ padded 2 t.day
  date ++ separator ++ t.timeText precision ++ (t.offset.map offsetText).getD ""

def text (t : Moment) : String :=
  t.isoText " " t.precision

def number (n : Int) : String :=
  String.ofList (Decimal.intText n)

def zoneText (minutes : Int) : String :=
  if minutes == 0 then "datetime.timezone.utc"
  else
    let seconds := minutes * 60
    let span :=
      if seconds < 0 then "days=-1, seconds=" ++ number (seconds + 86400)
      else "seconds=" ++ number seconds
    "datetime.timezone(datetime.timedelta(" ++ span ++ "))"

/-- Constructor form; seconds and microseconds are left out while they are zero. -/
def quoted (t : Moment) : String :=
  let tail :=
    if t.microsecond != 0 then [t.second, t.microsecond]
    else if t.second != 0 then [t.second]
    else []
  let fields := [t.year, t.month, t.day, t.hour, t.minute] ++ tail
  let zone := (t.offset.map fun o => ", tzinfo=" ++ zoneText o).getD ""
  "datetime.datetime(" ++ ", ".intercalate (fields.map fun n => number (Int.ofNat n)) ++ zone ++ ")"

end Moment

end ContentIndex
