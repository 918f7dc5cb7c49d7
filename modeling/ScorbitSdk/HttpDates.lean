import ScorbitSdk.ByteArrays
import ScorbitSdk.CalendarTimes
import Mathlib.Data.List.GetD
import Mathlib.Data.List.TakeWhile
import Mathlib.Tactic.IntervalCases

/-!
# Dates of HTTP

`std::get_time` reads names in either length and either case and numbers of at
most so many digits, with any white space where its format has a space.  The
time that is read need not be one of the calendar, and `timegm` counts on.
-/

namespace ScorbitSdk.HttpDates

open ByteArrays CalendarTimes

/-! ## Reading with a format -/

def weekdays : List (List Char) :=
  ["sunday", "monday", "tuesday", "wednesday", "thursday", "friday",
    "saturday"].map String.toList

def months : List (List Char) :=
  ["january", "february", "march", "april", "may", "june", "july", "august",
    "september", "october", "november", "december"].map String.toList

def lowered (text : List Char) : List Char :=
  text.map Char.toLower

def startsWith (text name : List Char) : Bool :=
  lowered (text.take name.length) = name

/-- The place of the name that the text starts with, in full or abbreviated. -/
def readName (names : List (List Char)) (text : List Char) :
    Option (Nat × List Char) :=
  match names.findIdx? (startsWith text ·) with
  | some place => some (place, text.drop (names.getD place []).length)
  | none =>
      (names.findIdx? fun name => startsWith text (name.take 3)).map
        fun place => (place, text.drop ((names.getD place []).take 3).length)

def readChar (expected : Char) : List Char → Option (List Char)
  | [] => none
  | c :: text => if c = expected then some text else none

def skipSpaces (text : List Char) : List Char :=
  text.dropWhile isSpace

/-- A number of at most `count` digits, leading zeros permitted. -/
def readNumber (count low high : Nat) (text : List Char) :
    Option (Nat × List Char) :=
  let digits := (text.take count).takeWhile Char.isDigit
  let number := Nat.ofDigitChars 10 digits 0
  if digits ≠ [] ∧ low ≤ number ∧ number ≤ high then
    some (number, text.drop digits.length)
  else none

/-- The fields of `std::tm` that are read; the year is counted from 0 and the
month from 0. -/
structure Tm where
  mday : Nat
  mon : Nat
  year : Nat
  hour : Nat
  min : Nat
  sec : Nat
deriving DecidableEq

/-- `std::get_time` with the format `%a, %d %b %Y %H:%M:%S`. -/
def getTime (text : List Char) : Option Tm := do
  let (_, text) ← readName weekdays (skipSpaces text)
  let text ← readChar ',' text
  let (mday, text) ← readNumber 2 1 31 (skipSpaces text)
  let (mon, text) ← readName months (skipSpaces text)
  let (year, text) ← readNumber 4 0 9999 (skipSpaces text)
  let (hour, text) ← readNumber 2 0 23 (skipSpaces text)
  let text ← readChar ':' text
  let (min, text) ← readNumber 2 0 59 text
  let text ← readChar ':' text
  let (sec, _) ← readNumber 2 0 60 text
  some { mday, mon, year, hour, min, sec }

/-- The days from the year 0 to 1970. -/
def epochDay : Nat := 719528

/-- The days before the day, from the year 0 on; a day that the month has not
counts on into the next one. -/
def Tm.dayNumber (tm : Tm) : Nat :=
  ∑ year ∈ Finset.range tm.year, daysInYear year +
    (∑ month ∈ Finset.range tm.mon, daysInMonth tm.year (month + 1) +
      (tm.mday - 1))

def timegm (tm : Tm) : Int :=
  ((((tm.dayNumber : Int) - epochDay) * 24 + tm.hour) * 60 + tm.min) * 60 + tm.sec

/-- A time that cannot be read is the second before 1970. -/
def parseHttpDateToUnixTimestamp (httpDate : List Char) : Int :=
  match getTime httpDate with
  | none => -1
  | some tm => timegm tm

/-! ## Writing -/

/-- The lowest `count` decimal digits of a number. -/
def digits : Nat → Nat → List Char
  | 0, _ => []
  | count + 1, number =>
      digits count (number / 10) ++ [Nat.digitChar (number % 10)]

theorem not_isSpace_of_isDigit {c : Char} (isDigit : c.isDigit = true) :
    isSpace c = false := by
  have bounds : 48 ≤ c.toNat ∧ c.toNat ≤ 57 := Char.isDigit_iff_toNat.mp isDigit
  have notBlank : c ≠ ' ' := by
    rintro rfl
    exact absurd bounds.1 (by decide)
  have notControl : ¬(9 ≤ c.toNat ∧ c.toNat ≤ 13) := by omega
  simpa [isSpace, notBlank] using notControl

/-- The name at the place, in full or abbreviated, in whichever case. -/
def IsName (names : List (List Char)) (place : Nat) (written : List Char) : Prop :=
  place < names.length ∧
    (lowered written = names.getD place [] ∨
      lowered written = (names.getD place []).take 3)

/-- A number of at most `count` digits. -/
structure IsNumber (count low high : Nat) (number : Nat) (written : List Char) :
    Prop where
  nonempty : written ≠ []
  short : written.length ≤ count
  areDigits : ∀ c ∈ written, c.isDigit = true
  value : Nat.ofDigitChars 10 written 0 = number
  lower : low ≤ number
  upper : number ≤ high

def AreSpaces (written : List Char) : Prop :=
  ∀ c ∈ written, isSpace c = true

/-- The parts of a date as it is written, with the white space before them and
what is behind the date. -/
structure WrittenDate where
  beforeWeekday : List Char
  weekday : List Char
  beforeDay : List Char
  day : List Char
  beforeMonth : List Char
  month : List Char
  beforeYear : List Char
  year : List Char
  beforeHour : List Char
  hour : List Char
  minute : List Char
  second : List Char
  rest : List Char

namespace WrittenDate

def text (date : WrittenDate) : List Char :=
  date.beforeWeekday ++ date.weekday ++ ',' :: date.beforeDay ++ date.day ++
    date.beforeMonth ++ date.month ++ date.beforeYear ++ date.year ++
    date.beforeHour ++ date.hour ++ ':' :: date.minute ++ ':' :: date.second ++
    date.rest

/-- The parts are well-formed, and these are the fields that they denote. -/
structure Denotes (date : WrittenDate) (tm : Tm) : Prop where
  beforeWeekday : AreSpaces date.beforeWeekday
  weekday : ∃ place, IsName weekdays place date.weekday
  beforeDay : AreSpaces date.beforeDay
  day : IsNumber 2 1 31 tm.mday date.day
  beforeMonth : AreSpaces date.beforeMonth
  month : IsName months tm.mon date.month
  beforeYear : AreSpaces date.beforeYear
  year : IsNumber 4 0 9999 tm.year date.year
  beforeHour : AreSpaces date.beforeHour
  hour : IsNumber 2 0 23 tm.hour date.hour
  minute : IsNumber 2 0 59 tm.min date.minute
  second : IsNumber 2 0 60 tm.sec date.second

end WrittenDate

end ScorbitSdk.HttpDates
