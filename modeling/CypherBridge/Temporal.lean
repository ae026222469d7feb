import CypherBridge.Temporal.Calendar

/-!
# Dates and times

The dates and times that a database sends, and their text. Some of them have none: those out
of range, and those whose offset or zone is not known. A time of day counts seconds and
nanoseconds. From 1000000000 nanoseconds on it lies in a leap second, which is written as the
second 60 and follows the last second of a minute only. Of seconds of the day, nanoseconds and
offsets the low 32 bits count.
-/

namespace CypherBridge

namespace Temporal

structure Time where
  second : Nat
  nanosecond : Nat
  deriving DecidableEq, Repr

def daySeconds : Int := 86400

def nanosPerSecond : Nat := 1000000000

def wordSize : Nat := 4294967296

def lowWord (n : Int) : Int := n % wordSize

def signedLowWord (n : Int) : Int := n.bmod wordSize

def fractionText (nanos : Nat) : String :=
  if nanos = 0 then ""
  else if nanos % 1000000 = 0 then "." ++ padded 3 (nanos / 1000000)
  else if nanos % 1000 = 0 then "." ++ padded 6 (nanos / 1000)
  else "." ++ padded 9 nanos

namespace Time

def isLeap (t : Time) : Bool := nanosPerSecond ≤ t.nanosecond

def text (t : Time) : String :=
  let second := t.second % 60 + (if t.isLeap then 1 else 0)
  padded 2 (t.second / 3600) ++ ":" ++ padded 2 (t.second / 60 % 60) ++ ":" ++
    padded 2 second ++ fractionText (t.nanosecond % nanosPerSecond)

def ofParts? (second nanos : Int) : Option Time :=
  if 0 ≤ second ∧ second < daySeconds ∧ 0 ≤ nanos ∧ nanos < 2 * (nanosPerSecond : Int) ∧
      (nanos < (nanosPerSecond : Int) ∨ second % 60 = 59) then
    some ⟨second.toNat, nanos.toNat⟩
  else none

def ofNanos? (nanos : Int) : Option Time :=
  ofParts? (lowWord (nanos.tdiv nanosPerSecond)) (lowWord (nanos.tmod nanosPerSecond))

end Time

structure Moment where
  date : Date
  time : Time
  deriving DecidableEq, Repr

namespace Moment

def ofSeconds? (seconds nanos : Int) : Option Moment :=
  match Time.ofParts? (seconds % daySeconds) (lowWord nanos) with
  | some time => (dateOfDay? (seconds / daySeconds)).map fun date => ⟨date, time⟩
  | none => none

def text (m : Moment) : String := m.date.text ++ "T" ++ m.time.text

end Moment

def offsetLimit : Int := 86400

/-- An offset is written in hours and minutes, rounded to the nearest minute. -/
def offsetText (offset : Int) : String :=
  let minutes := (offset.natAbs + 30) / 60
  (if offset < 0 then "-" else "+") ++ padded 2 (minutes / 60) ++ ":" ++
    padded 2 (minutes % 60)

def zoneOffset? (name : String) : Option Int :=
  let whole (sign : Int) (hours : List Char) : Option Int :=
    match hours with
    | [d] => if d.isDigit then some (sign * 3600 * (d.toNat - '0'.toNat : Nat)) else none
    | ['1', d] =>
        if d.isDigit then some (sign * 3600 * (10 + (d.toNat - '0'.toNat) : Nat)) else none
    | _ => none
  if name ∈ ["UTC", "UCT", "Etc/UTC", "Etc/UCT", "Universal", "Etc/Universal", "Zulu", "Etc/Zulu",
      "GMT", "GMT0", "GMT+0", "GMT-0", "Greenwich", "Etc/GMT", "Etc/Greenwich"] then some 0
  else match name.toList with
    | 'E' :: 't' :: 'c' :: '/' :: 'G' :: 'M' :: 'T' :: '+' :: hours =>
        (whole (-1) hours).filter (-43200 ≤ ·)
    | 'E' :: 't' :: 'c' :: '/' :: 'G' :: 'M' :: 'T' :: '-' :: hours =>
        (whole 1 hours).filter (· ≤ 50400)
    | _ => none

/-- A moment of local time with its offset. The instant has to be in range, its local date
need not be. -/
def offsetMomentText? (seconds nanos offset : Int) : Option String :=
  let offset := signedLowWord offset
  if offset.natAbs < offsetLimit.natAbs then
    (Moment.ofSeconds? (seconds - offset) nanos).map fun instant =>
      let second := (seconds % daySeconds).toNat
      let m : Moment := ⟨dateOfDay (seconds / daySeconds), ⟨second, instant.time.nanosecond⟩⟩
      m.text ++ offsetText offset
  else none

def zonedMomentText? (seconds nanos : Int) (zone : String) : Option String :=
  match zoneOffset? zone, Moment.ofSeconds? seconds nanos with
  | some offset, some _ => offsetMomentText? seconds nanos offset
  | _, _ => none

end Temporal

inductive Temporal where
  | date (days : Int)
  | localTime (nanos : Int)
  | time (nanos offset : Int)
  | localDateTime (seconds nanos : Int)
  | dateTime (seconds nanos offset : Int)
  | zonedDateTime (seconds nanos : Int) (zone : String)
  deriving DecidableEq, Repr

namespace Temporal

def text? : Temporal → Option String
  | .date days => (dateOfDay? days).map Date.text
  | .localTime nanos | .time nanos _ => (Time.ofNanos? nanos).map Time.text
  | .localDateTime seconds nanos => (Moment.ofSeconds? seconds nanos).map Moment.text
  | .dateTime seconds nanos offset => offsetMomentText? seconds nanos offset
  | .zonedDateTime seconds nanos zone => zonedMomentText? seconds nanos zone

end Temporal

end CypherBridge
