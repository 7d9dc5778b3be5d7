import SignatureSearch.Log.Value
import SignatureSearch.Number.Layout

/-!
# Timestamps

Moments as log lines write them: the date and time of day at Greenwich, with microseconds when there
are any.  A moment is counted in seconds from the beginning of 1970 and rounded to a microsecond.
-/

namespace SignatureSearch
namespace Log

/-- A day of the calendar. -/
structure Date where
  /-- The year. -/
  year : Int
  /-- The month, from one. -/
  month : Nat
  /-- The day of the month, from one. -/
  day : Nat
  deriving DecidableEq, Repr

namespace Date

/-- The days of the years of an era before a year of it, counted from March. -/
def daysBefore (yearOfEra : Nat) : Nat :=
  365 * yearOfEra + yearOfEra / 4 - yearOfEra / 100

/-- The day that comes so many days after the first of 1970.  Eras of four hundred years start with
March, so that a leap day is the last day of its year. -/
def ofDays (days : Int) : Date :=
  let shifted := days + 719468
  let era := shifted.fdiv 146097
  let dayOfEra := (shifted - era * 146097).toNat
  let yearOfEra := (dayOfEra - dayOfEra / 1460 + dayOfEra / 36524 - dayOfEra / 146096) / 365
  let dayOfYear := dayOfEra - daysBefore yearOfEra
  let shiftedMonth := (5 * dayOfYear + 2) / 153
  let month := if shiftedMonth < 10 then shiftedMonth + 3 else shiftedMonth - 9
  { year := era * 400 + yearOfEra + (if month ≤ 2 then 1 else 0)
    month
    day := dayOfYear - (153 * shiftedMonth + 2) / 5 + 1 }

end Date

/-- The microseconds in a second. -/
def microsPerSecond : Nat := 1000000

/-- The seconds in a day. -/
def secondsPerDay : Nat := 86400

/-- The places of a number rounded to a microsecond, the product with a million being rounded to the
double format first. -/
def microsOf (x : Binary) : Nat :=
  let places := (x.fraction.1 % x.fraction.2, x.fraction.2)
  let product := Binary.nearest false (places.1 * microsPerSecond, places.2)
  nearestWhole product.fraction.1 product.fraction.2

/-- The microseconds of a moment that a number of seconds stands for. -/
def momentOf? : Value → Option Int
  | .int seconds => some (seconds * microsPerSecond)
  | .bool value => some (if value then microsPerSecond else 0)
  | .real seconds =>
      let x := Binary.ofDecimal seconds
      let micros : Int := x.wholePart * microsPerSecond + microsOf x
      some (if x.negative then -micros else micros)
  | _ => none

/-- A number with zeros in front up to a width. -/
def padded (width n : Nat) : List Char :=
  Number.padZeros width (Number.digitsOf n)

/-- Why a moment cannot be written. -/
inductive MomentError where
  /-- It is no number. -/
  | notNumber (found : String)
  /-- Its seconds are more than a clock of 64 bits counts. -/
  | beyondClock
  /-- Its year is more than a calendar of 32 bits counts. -/
  | beyondCalendar
  /-- Its year cannot be written in four digits. -/
  | yearOutOfRange (year : Int)
  deriving DecidableEq, Repr

namespace MomentError

/-- The error in words. -/
def message : MomentError → String
  | notNumber found => "'" ++ found ++ "' object cannot be interpreted as an integer"
  | beyondClock => "timestamp out of range for platform time_t"
  | beyondCalendar => "[Errno 75] Value too large for defined data type"
  | yearOutOfRange year => "year " ++ toString year ++ " is out of range"

end MomentError

/-- The years that a calendar counts: those from 1900 on as a word of 32 bits with a sign. -/
def isCalendarYear (year : Int) : Bool :=
  1900 - (Number.twoTo 31 : Int) ≤ year && year < 1900 + Number.twoTo 31

/-- Whether a clock of 64 bits counts so many seconds. -/
def isClockTime (seconds : Int) : Bool :=
  -(Number.twoTo 63 : Int) ≤ seconds && seconds < Number.twoTo 63

/-- The year of a calendar as a word of 32 bits: those beyond the greatest begin anew. -/
def wrappedYear (year : Int) : Int :=
  Int.bmod year (Number.twoTo 32)

/-- A moment as a log line writes it. -/
def timestamp (created : Value) : Except MomentError String :=
  match momentOf? created with
  | none => .error (.notNumber created.typeName)
  | some moment =>
      let micros := (moment.fmod microsPerSecond).toNat
      let seconds := moment.fdiv microsPerSecond
      let date := Date.ofDays (seconds.fdiv secondsPerDay)
      let second := (seconds.fmod secondsPerDay).toNat
      if !isClockTime seconds then .error .beyondClock
      else if !isCalendarYear date.year then .error .beyondCalendar
      else if date.year < 1 ∨ 9999 < date.year then .error (.yearOutOfRange (wrappedYear date.year))
      else
        let day := padded 4 date.year.toNat ++ '-' :: padded 2 date.month
          ++ '-' :: padded 2 date.day
        let time := padded 2 (second / 3600) ++ ':' :: padded 2 (second / 60 % 60)
          ++ ':' :: padded 2 (second % 60)
        let places := if micros = 0 then [] else '.' :: padded 6 micros
        .ok (String.ofList (day ++ 'T' :: time ++ places ++ "+00:00".toList))

end Log
end SignatureSearch
