import SentenceGraph.Decimal.Rounding

/-!
# Timestamps

The date and the time of day of documents: Gregorian, in coordinated universal time, to the
microsecond.
-/

namespace SentenceGraph

/-- A day of the Gregorian calendar. -/
structure Day where
  year : Int
  month : Nat
  day : Nat
deriving DecidableEq, Repr

/-- The day that lies this many days after the first of January 1970. Years are counted from March
on, so that the leap day is the last of its year, in cycles of four hundred years. -/
def Day.ofCount (count : Int) : Day :=
  let shifted := count + 719468
  let cycle := shifted / 146097
  let dayOfCycle := (shifted % 146097).toNat
  let yearOfCycle :=
    (dayOfCycle - dayOfCycle / 1460 + dayOfCycle / 36524 - dayOfCycle / 146096) / 365
  let dayOfYear := dayOfCycle - (365 * yearOfCycle + yearOfCycle / 4 - yearOfCycle / 100)
  let monthFromMarch := (5 * dayOfYear + 2) / 153
  let month := if monthFromMarch < 10 then monthFromMarch + 3 else monthFromMarch - 9
  { year := 400 * cycle + yearOfCycle + (if month ≤ 2 then 1 else 0)
    month
    day := dayOfYear - (153 * monthFromMarch + 2) / 5 + 1 }

/-- A time, in microseconds since the beginning of the year 1970. -/
structure Timestamp where
  microseconds : Int
deriving DecidableEq, Repr

namespace Timestamp

/-- The decimal text of a number, with leading zeros up to a width. -/
def padded (width number : Nat) : String :=
  String.ofList (Decimal.paddedDigits width number)

/-- The text of a time. A time at a full second shows no fraction. -/
def text (timestamp : Timestamp) : String :=
  let seconds := timestamp.microseconds / 1000000
  let fraction := (timestamp.microseconds % 1000000).toNat
  let day := Day.ofCount (seconds / 86400)
  let second := (seconds % 86400).toNat
  padded 4 day.year.toNat ++ "-" ++ padded 2 day.month ++ "-" ++ padded 2 day.day ++ "T" ++
    padded 2 (second / 3600) ++ ":" ++ padded 2 (second / 60 % 60) ++ ":" ++
    padded 2 (second % 60) ++ (if fraction == 0 then "" else "." ++ padded 6 fraction) ++ "+00:00"

end Timestamp

end SentenceGraph
