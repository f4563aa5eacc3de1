/-!
# Points in time

Files count time in *ticks* of 100 ns since the beginning of 1601. The library counts seconds since the
beginning of 1970; times before that become 0, which also stands for a time that is not known.

`Time.render?` writes such a time as date and time of day; dates end with the year 9999.
-/

namespace InstallerPackage.Time

/-- The ticks in a second. -/
def ticksPerSecond : Nat := 10000000

/-- The seconds between the beginnings of 1601 and 1970. -/
def epochGap : Nat := 11644473600

/-- The last second of the year 9999. -/
def lastSecond : Nat := 253402300799

/-- The seconds since 1970 for a number of ticks. -/
def ofTicks (ticks : Nat) : Nat := ticks / ticksPerSecond - epochGap

/-- A calendar date. -/
structure Date where
  year : Nat
  month : Nat
  day : Nat
  deriving DecidableEq, Repr

/-- The date a number of days after the first of January 1970. -/
def dateOfDay (n : Nat) : Date :=
  -- years are counted from the first of March of the year 0, so that leap days come last
  let n := n + 719468
  let era := n / 146097
  let dayOfEra := n % 146097
  let yearOfEra := (dayOfEra - dayOfEra / 1460 + dayOfEra / 36524 - dayOfEra / 146096) / 365
  let dayOfYear := dayOfEra - (365 * yearOfEra + yearOfEra / 4 - yearOfEra / 100)
  let monthFromMarch := (5 * dayOfYear + 2) / 153
  let month := if monthFromMarch < 10 then monthFromMarch + 3 else monthFromMarch - 9
  { year := era * 400 + yearOfEra + if month ≤ 2 then 1 else 0
    month := month
    day := dayOfYear - (153 * monthFromMarch + 2) / 5 + 1 }

/-- A number with zeros in front of it. -/
def padded (width n : Nat) : String :=
  let digits := toString n
  String.ofList (List.replicate (width - digits.length) '0') ++ digits

/-- Date and time of day, in universal time; nothing after the year 9999. -/
def render? (seconds : Nat) : Option String :=
  if lastSecond < seconds then none
  else
    let date := dateOfDay (seconds / 86400)
    let rest := seconds % 86400
    some (padded 4 date.year ++ "-" ++ padded 2 date.month ++ "-" ++ padded 2 date.day ++ " " ++
      padded 2 (rest / 3600) ++ ":" ++ padded 2 (rest % 3600 / 60) ++ ":" ++ padded 2 (rest % 60))

end InstallerPackage.Time
