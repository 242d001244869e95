/-!
Moments of a clock, counted in seconds from the start of 1970, and their written form in universal
time. Years are counted from March, so that the day added in a leap year is the last of its year.
-/

namespace Entitlement

structure Moment where
  seconds : Int
deriving DecidableEq

namespace Moment

/-- The years of the calendar reach from -262143 to 262142; no moment lies outside of them. -/
def ofSeconds? (seconds : Int) : Option Moment :=
  if -8334601228800 ≤ seconds && seconds < 8210266876800 then some ⟨seconds⟩ else none

/-- A number with at least `width` digits. -/
def padded (width : Nat) (n : Nat) : String :=
  let digits := Nat.toDigits 10 n
  String.ofList (List.replicate (width - digits.length) '0' ++ digits)

/-- Year, month and day of the day that lies `days` after 1 January 1970. -/
def date (days : Int) : Int × Nat × Nat :=
  let shifted := days + 719468
  let era := shifted.fdiv 146097
  let dayOfEra := (shifted - era * 146097).toNat
  let yearOfEra := (dayOfEra - dayOfEra / 1460 + dayOfEra / 36524 - dayOfEra / 146096) / 365
  let dayOfYear := dayOfEra - (365 * yearOfEra + yearOfEra / 4 - yearOfEra / 100)
  let monthFromMarch := (5 * dayOfYear + 2) / 153
  let day := dayOfYear - (153 * monthFromMarch + 2) / 5 + 1
  let month := if monthFromMarch < 10 then monthFromMarch + 3 else monthFromMarch - 9
  let year := (yearOfEra : Int) + era * 400 + (if month ≤ 2 then 1 else 0)
  (year, month, day)

def text (moment : Moment) : String :=
  let (year, month, day) := date (moment.seconds.fdiv 86400)
  let time := (moment.seconds.fmod 86400).toNat
  let sign := if year < 0 then "-" else if 9999 < year then "+" else ""
  sign ++ padded 4 year.natAbs ++ "-" ++ padded 2 month ++ "-" ++ padded 2 day ++ "T"
    ++ padded 2 (time / 3600) ++ ":" ++ padded 2 (time / 60 % 60) ++ ":" ++ padded 2 (time % 60) ++ "Z"

end Moment

end Entitlement
