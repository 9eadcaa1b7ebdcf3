import GatewayOperator.Json.Basic

namespace GatewayOperator

-- Seconds since the start of 1970 in UTC. In a leap second the count is that of the second before.
structure Instant where
  seconds : Int
  leap : Bool
deriving DecidableEq, Repr, Inhabited

namespace Instant

-- A day of the Gregorian calendar, extended to all years
structure Date where
  year : Int
  month : Nat
  day : Nat
deriving DecidableEq, Repr

def isLeapYear (year : Int) : Bool := year % 4 = 0 && (year % 100 ≠ 0 || year % 400 = 0)

def daysInMonth (year : Int) (month : Nat) : Nat :=
  if month = 2 then if isLeapYear year then 29 else 28
  else if month = 4 ∨ month = 6 ∨ month = 9 ∨ month = 11 then 30
  else 31

namespace Date

def isValid (d : Date) : Bool :=
  1 ≤ d.month && d.month ≤ 12 && 1 ≤ d.day && d.day ≤ daysInMonth d.year d.month

-- Years counted from March, so that the leap day is the last of its year.
def shiftedYear (d : Date) : Int := if d.month ≤ 2 then d.year - 1 else d.year

def dayOfShiftedYear (d : Date) : Int :=
  let month : Int := (d.month + 9) % 12
  (153 * month + 2) / 5 + d.day - 1

-- Days since the first of January 1970.
def toDays (d : Date) : Int :=
  let year := d.shiftedYear
  let era := year / 400
  let yearOfEra := year % 400
  let dayOfEra := yearOfEra * 365 + yearOfEra / 4 - yearOfEra / 100 + d.dayOfShiftedYear
  era * 146097 + dayOfEra - 719468

def ofDays (days : Int) : Date :=
  let shifted := days + 719468
  let era := shifted / 146097
  let dayOfEra := shifted % 146097
  let yearOfEra := (dayOfEra - dayOfEra / 1460 + dayOfEra / 36524 - dayOfEra / 146096) / 365
  let dayOfYear := dayOfEra - (365 * yearOfEra + yearOfEra / 4 - yearOfEra / 100)
  let shiftedMonth := (5 * dayOfYear + 2) / 153
  let day := dayOfYear - (153 * shiftedMonth + 2) / 5 + 1
  let month := if shiftedMonth < 10 then shiftedMonth + 3 else shiftedMonth - 9
  let year := yearOfEra + era * 400 + if month ≤ 2 then 1 else 0
  ⟨year, month.toNat, day.toNat⟩

end Date

def secondsPerDay : Int := 86400

def date (t : Instant) : Date := .ofDays (t.seconds / secondsPerDay)

def secondOfDay (t : Instant) : Nat := (t.seconds % secondsPerDay).toNat

-- At least `width` decimal digits, with zeros in front.
def padded (width n : Nat) : String :=
  let digits := toString n
  String.ofList (List.replicate (width - digits.length) '0') ++ digits

-- Four digits, and a sign where four digits without sign would not do.
def yearText (year : Int) : String :=
  if 0 ≤ year ∧ year ≤ 9999 then padded 4 year.toNat
  else (if year < 0 then "-" else "+") ++ padded 4 year.natAbs

-- As in RFC 3339.
def toText (t : Instant) : String :=
  let d := t.date
  let s := t.secondOfDay
  let second := s % 60 + if t.leap then 1 else 0
  yearText d.year ++ "-" ++ padded 2 d.month ++ "-" ++ padded 2 d.day ++ "T" ++
    padded 2 (s / 3600) ++ ":" ++ padded 2 (s / 60 % 60) ++ ":" ++ padded 2 second ++ "Z"

def toJson (t : Instant) : Json := .string t.toText

end Instant

end GatewayOperator
