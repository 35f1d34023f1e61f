import FlowTesting.Text.Blank
import FlowTesting.Time.Timestamp

set_option autoImplicit false

/-!
# Reading instants

Dates and times of day with an offset, read leniently: fields may have one digit and
blanks before them, blanks may stand before separators, the date and the time may be
parted by a space, and a signed year may have any number of digits. The first fault
from the left is reported; a date that the calendar lacks is found last.
-/

namespace FlowTesting.Rfc3339

inductive Fault where
  | tooShort
  | invalid
  | outOfRange
  | tooLong
  | impossible
  deriving DecidableEq, Repr

def Fault.message : Fault → String
  | .tooShort => "premature end of input"
  | .invalid => "input contains invalid characters"
  | .outOfRange => "input is out of range"
  | .tooLong => "trailing input"
  | .impossible => "no possible date and time matching input"

/-- The greatest number that a signed year may have before its range is looked at. -/
def greatestNumber : Nat := Nat.pow 2 63 - 1

/-- Reads at least one and at most `width` digits. -/
def number (width : Nat) (characters : List Char) : Except Fault (Nat × List Char) :=
  match characters with
  | [] => .error .tooShort
  | _ =>
    let digits := (characters.take width).takeWhile Char.isDigit
    let value := Nat.ofDigitChars 10 digits 0
    if digits.isEmpty then .error .invalid
    else if greatestNumber < value then .error .outOfRange
    else .ok (value, characters.drop digits.length)

/-- Reads a field of at most two digits, which has to lie between the bounds. -/
def field (least greatest : Nat) (characters : List Char) : Except Fault (Nat × List Char) := do
  let (value, rest) ← number 2 (Text.dropBlanks characters)
  if least ≤ value ∧ value ≤ greatest then return (value, rest) else throw .outOfRange

/-- Reads a separator, before which blanks may stand. -/
def separator (wanted : Char) (characters : List Char) : Except Fault (List Char) :=
  match Text.dropBlanks characters with
  | [] => .error .tooShort
  | first :: rest => if first = wanted then .ok rest else .error .invalid

def checkedYear (year : Int) : Except Fault Int :=
  if -2147483648 ≤ year ∧ year ≤ 2147483647 then .ok year else .error .outOfRange

/-- Reads a year: four digits at most, or any number of them after a sign. -/
def year (characters : List Char) : Except Fault (Int × List Char) :=
  match Text.dropBlanks characters with
  | '-' :: rest => do
    let (value, following) ← number rest.length rest
    return (← checkedYear (-(value : Int)), following)
  | '+' :: rest => do
    let (value, following) ← number rest.length rest
    return (← checkedYear value, following)
  | unsigned => do
    let (value, following) ← number 4 unsigned
    return (← checkedYear value, following)

/-- Reads a fraction of a second in nanoseconds, where one is written; digits past the
ninth are passed over. -/
def fraction (characters : List Char) : Except Fault (Nat × List Char) :=
  match characters with
  | '.' :: digits => do
    let (value, rest) ← number 9 digits
    let used := digits.length - rest.length
    return (value * Nat.pow 10 (9 - used), rest.dropWhile Char.isDigit)
  | _ => .ok (0, characters)

/-- Whether fewer than two octets are left. -/
def isShort : List Char → Bool
  | [] => true
  | [only] => only.toNat < 0x80
  | _ => false

def offsetHours (characters : List Char) : Except Fault (Nat × List Char) :=
  if isShort characters then .error .tooShort
  else
    match characters with
    | tens :: ones :: rest =>
      if tens.isDigit && ones.isDigit then .ok (Nat.ofDigitChars 10 [tens, ones] 0, rest)
      else .error .invalid
    | _ => .error .invalid

def offsetMinutes (characters : List Char) : Except Fault (Nat × List Char) := do
  let (minutes, rest) ← offsetHours characters
  if minutes < 60 then return (minutes, rest) else throw .outOfRange

def offset (characters : List Char) : Except Fault (Int × List Char) :=
  let signed (negative : Bool) (unsigned : List Char) : Except Fault (Int × List Char) := do
    let (hours, afterHours) ← offsetHours unsigned
    let minutesStart := afterHours.dropWhile (fun c => c == ':' || Text.isBlank c)
    let (minutes, rest) ← offsetMinutes minutesStart
    let seconds : Int := hours * 3600 + minutes * 60
    return (if negative then -seconds else seconds, rest)
  match characters with
  | [] => .error .tooShort
  | 'Z' :: rest => .ok (0, rest)
  | 'z' :: rest => .ok (0, rest)
  | '+' :: rest => signed false rest
  | '-' :: rest => signed true rest
  | '\u2212' :: rest => signed true rest
  | _ => .error .invalid

/-- Reads the name of universal time in any case, or an offset from it. -/
def zone (characters : List Char) : Except Fault (Int × List Char) :=
  if (characters.take 3).map Char.toUpper = ['U', 'T', 'C'] then .ok (0, characters.drop 3)
  else offset characters

/-- The second and the nanoseconds past it, where second sixty is a leap second. -/
def secondAndNanoseconds (second nanoseconds : Nat) : Nat × Nat :=
  if second = 60 then (59, nanoseconds + Duration.nanosecondsPerSecond) else (second, nanoseconds)

def parse (text : String) : Except Fault Timestamp := do
  let (year, rest) ← year text.toList
  let (month, rest) ← field 1 12 (← separator '-' rest)
  let (day, rest) ← field 1 31 (← separator '-' rest)
  let rest ← match rest with
    | [] => throw .tooShort
    | first :: rest =>
      if first = 'T' ∨ first = 't' ∨ first = ' ' then pure rest else throw .invalid
  let (hour, rest) ← field 0 23 rest
  let (minute, rest) ← field 0 59 (← separator ':' rest)
  let (second, rest) ← field 0 60 (← separator ':' rest)
  let (nanoseconds, rest) ← fraction rest
  let (offset, rest) ← zone (Text.dropBlanks rest)
  if !(Text.dropBlanks rest).isEmpty then throw .tooLong
  let date : CalendarDate := { year, month, day }
  if !date.isValid then throw .outOfRange
  if offset.natAbs ≥ 86400 then throw .outOfRange
  let (second, nanoseconds) := secondAndNanoseconds second nanoseconds
  let secondOfDay := hour * 3600 + minute * 60 + second
  let localSeconds := date.toDays * Timestamp.secondsPerDay + secondOfDay
  let instant : Timestamp := { seconds := localSeconds - offset, nanoseconds }
  let universalDate := CalendarDate.ofDays (instant.seconds / Timestamp.secondsPerDay)
  if CalendarDate.hasYear universalDate.year then return instant
  else throw .impossible

end FlowTesting.Rfc3339
