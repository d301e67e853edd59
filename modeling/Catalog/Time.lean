/-!
Instants of the calendar without time zones: seconds since the start of 1970, and nanoseconds. A
leap second has the number of the second before it and a thousand million nanoseconds more.

Days and years go by the Gregorian calendar, also before its time.
-/

namespace Catalog

structure Time where
  seconds : Int
  /-- Below two thousand million. -/
  nanos : Nat
  deriving DecidableEq

namespace Time

def secondsPerDay : Nat := 86400

/-- The nanoseconds in a second, and what marks a leap second. -/
def nanosPerSecond : Nat := 1000000000

/-- A day of the calendar. -/
structure Date where
  year : Int
  month : Nat
  day : Nat
  deriving DecidableEq

namespace Date

def isLeapYear (year : Int) : Bool := year % 4 = 0 && (year % 100 ≠ 0 || year % 400 = 0)

def monthLength (year : Int) (month : Nat) : Nat :=
  if month = 2 then (if isLeapYear year then 29 else 28)
  else if month ∈ [4, 6, 9, 11] then 30
  else 31

/-- The first and the last year that are told apart. -/
def minYear : Int := -262143

def maxYear : Int := 262142

def isValid (d : Date) : Bool :=
  minYear ≤ d.year && d.year ≤ maxYear && 1 ≤ d.month && d.month ≤ 12 && 1 ≤ d.day
    && d.day ≤ monthLength d.year d.month

/-- Days since the start of 1970. Years are counted from March, so that a leap day comes last, and
in turns of four hundred, which have 146097 days. -/
def toDays (d : Date) : Int :=
  let year := if d.month ≤ 2 then d.year - 1 else d.year
  let month := if d.month ≤ 2 then d.month + 9 else d.month - 3
  let turn := year / 400
  let inTurn := year % 400
  let inYear := (153 * month + 2) / 5 + d.day - 1
  turn * 146097 + (inTurn * 365 + inTurn / 4 - inTurn / 100 + inYear) - 719468

def ofDays (days : Int) : Date :=
  let shifted := days + 719468
  let turn := shifted / 146097
  let dayOfTurn := (shifted % 146097).toNat
  let inTurn :=
    (dayOfTurn - dayOfTurn / 1460 + dayOfTurn / 36524 - dayOfTurn / 146096) / 365
  let inYear := dayOfTurn - (365 * inTurn + inTurn / 4 - inTurn / 100)
  let month := (5 * inYear + 2) / 153
  let day := inYear - (153 * month + 2) / 5 + 1
  let year := turn * 400 + inTurn
  if month < 10 then ⟨year, month + 3, day⟩ else ⟨year + 1, month - 9, day⟩

end Date

/-- The day that an instant lies in. -/
def date (t : Time) : Date := .ofDays (t.seconds / secondsPerDay)

/-- The seconds since the start of the day. -/
def secondOfDay (t : Time) : Nat := (t.seconds % secondsPerDay).toNat

/-- Whole seconds since the start of 1970, zero before it. -/
def unixSeconds (t : Time) : Nat := t.seconds.toNat

end Time

end Catalog
