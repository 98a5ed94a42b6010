/-
ReleaseGate/Clock.lean

The time of day in words.

Days are counted from the first of January 1970.  A year is taken to start
in March, so that the leap day is its last day; five months from there on
have 153 days together, always, which gives the month of a day without a
table.
-/
import ReleaseGate.Text.Digit

namespace ReleaseGate.Clock

/-- A day of the calendar. -/
structure Day where
  year : Nat
  month : Nat
  day : Nat
  deriving DecidableEq, Repr, Inhabited

/-- The day that is a number of days after the first of January 1970. -/
def dayOf (days : Nat) : Day :=
  -- Days since the first of March of the year 0, and since the last era of 400 years.
  let shifted := days + 719468
  let era := shifted / 146097
  let inEra := shifted % 146097
  let yearInEra := (inEra - inEra / 1460 + inEra / 36524 - inEra / 146096) / 365
  let inYear := inEra - (365 * yearInEra + yearInEra / 4 - yearInEra / 100)
  let fromMarch := (5 * inYear + 2) / 153
  let month := if fromMarch < 10 then fromMarch + 3 else fromMarch - 9
  ⟨400 * era + yearInEra + (if month ≤ 2 then 1 else 0), month,
    inYear - (153 * fromMarch + 2) / 5 + 1⟩

/-- A number with zeros in front of it. -/
def padded (width n : Nat) : String :=
  let digits := Text.decimal n
  String.ofList (List.replicate (width - digits.length) '0' ++ digits)

/-- The time that is a number of seconds after the start of 1970, to the
second, in the zone of Greenwich. -/
def text (seconds : Nat) : String :=
  let d := dayOf (seconds / 86400)
  let time := seconds % 86400
  padded 4 d.year ++ "-" ++ padded 2 d.month ++ "-" ++ padded 2 d.day ++ "T" ++
    padded 2 (time / 3600) ++ ":" ++ padded 2 (time / 60 % 60) ++ ":" ++ padded 2 (time % 60) ++
    "+00:00"

example : text 1704164645 = "2024-01-02T03:04:05+00:00" := by decide +kernel

example : dayOf 11016 = ⟨2000, 2, 29⟩ := by decide

end ReleaseGate.Clock
