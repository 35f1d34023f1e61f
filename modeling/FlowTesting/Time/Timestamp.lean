import FlowTesting.Time.Calendar

set_option autoImplicit false

/-!
# Instants and durations

An instant is counted in seconds and nanoseconds since the first of January 1970; a
leap second is the second before it with nanoseconds past their usual bound.
Differences are exact to the nanosecond.
-/

namespace FlowTesting

structure Duration where
  nanoseconds : Nat
  deriving DecidableEq, Repr, Inhabited

namespace Duration

def nanosecondsPerSecond : Nat := 1000000000

def zero : Duration := ⟨0⟩

def ofSeconds (seconds : Nat) : Duration := ⟨seconds * nanosecondsPerSecond⟩

def seconds (duration : Duration) : Nat := duration.nanoseconds / nanosecondsPerSecond

def subsecond (duration : Duration) : Nat := duration.nanoseconds % nanosecondsPerSecond

/-- What is left of a duration; nothing when more than it has passed. -/
def minus (duration elapsed : Duration) : Duration :=
  ⟨duration.nanoseconds - elapsed.nanoseconds⟩

def shorter (left right : Duration) : Duration := ⟨min left.nanoseconds right.nanoseconds⟩

end Duration

/-- An instant, to the nanosecond. -/
structure Timestamp where
  seconds : Int
  nanoseconds : Nat
  deriving DecidableEq, Repr, Inhabited

namespace Timestamp

def secondsPerDay : Int := 86400

/-- The nanoseconds since the first of January 1970. -/
def total (instant : Timestamp) : Int :=
  instant.seconds * Duration.nanosecondsPerSecond + instant.nanoseconds

def secondOfDay (instant : Timestamp) : Int := instant.seconds % secondsPerDay

def isLeap (instant : Timestamp) : Bool := Duration.nanosecondsPerSecond ≤ instant.nanoseconds

/-- The leap seconds that an instant is further ahead of another one than their counts
tell. Only the times of day matter: of two that differ, the smaller one may stand in a
leap second, which the larger one has behind it. -/
def leapSecondsSince (later earlier : Timestamp) : Int :=
  if earlier.secondOfDay < later.secondOfDay ∧ earlier.isLeap then 1
  else if later.secondOfDay < earlier.secondOfDay ∧ later.isLeap then -1
  else 0

/-- The time from an earlier instant to a later one; none if they come the other way
round. -/
def since (later earlier : Timestamp) : Duration :=
  ⟨(later.total - earlier.total +
    later.leapSecondsSince earlier * Duration.nanosecondsPerSecond).toNat⟩

def after (earlier : Timestamp) (wait : Duration) : Timestamp :=
  let total := earlier.total + wait.nanoseconds
  ⟨total / Duration.nanosecondsPerSecond, (total % Duration.nanosecondsPerSecond).toNat⟩

def padded (width value : Nat) : String :=
  let digits := Nat.toDigits 10 value
  String.ofList (List.replicate (width - digits.length) '0' ++ digits)

/-- A year has four digits, and a sign when it needs one or more digits. -/
def yearText (year : Int) : String :=
  if 0 ≤ year ∧ year ≤ 9999 then padded 4 year.toNat
  else (if year < 0 then "-" else "+") ++ padded 4 year.natAbs

/-- How finely an instant is written. -/
inductive Precision where
  | seconds
  | asNeeded
  deriving DecidableEq, Repr

/-- The fraction of a second: none, or three, six or nine digits as it needs. -/
def fractionText (precision : Precision) (nanoseconds : Nat) : String :=
  match precision with
  | .seconds => ""
  | .asNeeded =>
    if nanoseconds = 0 then ""
    else if nanoseconds % 1000000 = 0 then "." ++ padded 3 (nanoseconds / 1000000)
    else if nanoseconds % 1000 = 0 then "." ++ padded 6 (nanoseconds / 1000)
    else "." ++ padded 9 nanoseconds

def text (precision : Precision) (instant : Timestamp) : String :=
  let date := CalendarDate.ofDays (instant.seconds / secondsPerDay)
  let secondOfDay := (instant.seconds % secondsPerDay).toNat
  let leap := instant.nanoseconds / Duration.nanosecondsPerSecond
  let nanoseconds := instant.nanoseconds % Duration.nanosecondsPerSecond
  yearText date.year ++ "-" ++ padded 2 date.month ++ "-" ++ padded 2 date.day ++ "T" ++
    padded 2 (secondOfDay / 3600) ++ ":" ++ padded 2 (secondOfDay / 60 % 60) ++ ":" ++
    padded 2 (secondOfDay % 60 + leap) ++ fractionText precision nanoseconds ++ "Z"

end Timestamp

end FlowTesting
