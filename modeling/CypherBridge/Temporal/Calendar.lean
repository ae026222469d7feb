/-!
# Calendar dates

Days counted from the first of January 1970, and the date of each in the calendar of today,
extended to all years. Years past four digits and before the year 0 are written with a sign.
-/

namespace CypherBridge.Temporal

structure Date where
  year : Int
  month : Nat
  day : Nat
  deriving DecidableEq, Repr

def cycleDays : Int := 146097

def epochDays : Int := 719468

def yearOfCycle (day : Int) : Int :=
  (day - day / 1460 + day / 36524 - day / 146096) / 365

/-- Years begin in March here, so that the day of a leap year comes last; months have 30 or
31 days in a fixed pattern from there on. -/
def dateOfDay (day : Int) : Date :=
  let day := day + epochDays
  let cycle := day / cycleDays
  let dayOfCycle := day % cycleDays
  let year := yearOfCycle dayOfCycle
  let dayOfYear := dayOfCycle - (365 * year + year / 4 - year / 100)
  let month := (5 * dayOfYear + 2) / 153
  let dayOfMonth := dayOfYear - (153 * month + 2) / 5 + 1
  let inSameYear := month < 10
  { year := year + 400 * cycle + (if inSameYear then 0 else 1)
    month := (if inSameYear then month + 3 else month - 9).toNat
    day := dayOfMonth.toNat }

def firstYear : Int := -262143

def lastYear : Int := 262142

def Date.isKnown (d : Date) : Bool := firstYear ≤ d.year ∧ d.year ≤ lastYear

def dateOfDay? (day : Int) : Option Date :=
  let d := dateOfDay day
  if d.isKnown then some d else none

def padded (width n : Nat) : String :=
  let digits := Nat.toDigits 10 n
  .ofList (List.replicate (width - digits.length) '0' ++ digits)

def yearText (year : Int) : String :=
  if 0 ≤ year ∧ year ≤ 9999 then padded 4 year.toNat
  else (if year < 0 then "-" else "+") ++ padded 4 year.natAbs

def Date.text (d : Date) : String :=
  yearText d.year ++ "-" ++ padded 2 d.month ++ "-" ++ padded 2 d.day

end CypherBridge.Temporal
