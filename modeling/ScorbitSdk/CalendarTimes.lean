import Mathlib.Algebra.BigOperators.Intervals
import Mathlib.Algebra.Order.BigOperators.Group.Finset

/-!
# Times of the calendar

A time of the Gregorian calendar, counted in seconds and packed into decimal
digits.  Minutes come in the same order either way; only within a minute do the
digits count seconds.
-/

namespace ScorbitSdk.CalendarTimes

def isLeapYear (year : Nat) : Bool :=
  year % 4 = 0 && (year % 100 ≠ 0 || year % 400 = 0)

def daysInMonth (year month : Nat) : Nat :=
  if month = 2 then
    if isLeapYear year then 29 else 28
  else if month = 4 ∨ month = 6 ∨ month = 9 ∨ month = 11 then 30
  else 31

def daysInYear (year : Nat) : Nat :=
  ∑ month ∈ Finset.range 12, daysInMonth year (month + 1)

/-- A time of the calendar, without leap seconds. -/
structure CivilTime where
  year : Nat
  month : Nat
  day : Nat
  hour : Nat
  minute : Nat
  second : Nat
  month_pos : 0 < month
  month_le : month ≤ 12
  day_pos : 0 < day
  day_le : day ≤ daysInMonth year month
  hour_lt : hour < 24
  minute_lt : minute < 60
  second_lt : second < 60

namespace CivilTime

/-- The days of the year before the day. -/
def dayOfYear (time : CivilTime) : Nat :=
  ∑ month ∈ Finset.range (time.month - 1), daysInMonth time.year (month + 1) +
    (time.day - 1)

/-- The days before the day, from the year 0 on. -/
def dayNumber (time : CivilTime) : Nat :=
  ∑ year ∈ Finset.range time.year, daysInYear year + time.dayOfYear

def minuteNumber (time : CivilTime) : Nat :=
  (time.dayNumber * 24 + time.hour) * 60 + time.minute

/-- The seconds before the time, from the year 0 on. -/
def seconds (time : CivilTime) : Nat :=
  time.minuteNumber * 60 + time.second

/-- The digits of year, month, day, hour and minute, one behind the other. -/
def packedMinute (time : CivilTime) : Nat :=
  (((time.year * 100 + time.month) * 100 + time.day) * 100 + time.hour) * 100 +
    time.minute

/-- The digits with those of the second behind them. -/
def packed (time : CivilTime) : Nat :=
  time.packedMinute * 100 + time.second

end CivilTime

/-! ## The order of days -/

/-- A sum over more places has at least what comes at the next one. -/
theorem sum_range_add_le (count : Nat → Nat) {first second : Nat}
    (less : first < second) :
    ∑ i ∈ Finset.range first, count i + count first ≤
      ∑ i ∈ Finset.range second, count i := by
  rw [← Finset.sum_range_succ]
  exact Finset.sum_le_sum_of_subset (Finset.range_mono less)

theorem daysInMonth_le (year month : Nat) : daysInMonth year month ≤ 31 := by
  unfold daysInMonth
  split_ifs <;> decide

theorem CivilTime.seconds_eq {time : CivilTime} {days : Nat}
    (counted : time.dayNumber = days) :
    time.seconds =
      ((days * 24 + time.hour) * 60 + time.minute) * 60 + time.second := by
  rw [CivilTime.seconds, CivilTime.minuteNumber, counted]

variable {first second : CivilTime}

theorem dayOfYear_lt (time : CivilTime) : time.dayOfYear < daysInYear time.year := by
  obtain ⟨dayPos, dayLe⟩ := And.intro time.day_pos time.day_le
  have month : time.month - 1 + 1 = time.month := Nat.succ_pred_eq_of_pos time.month_pos
  have less : time.month - 1 < 12 := by
    have := time.month_le
    omega
  have before := sum_range_add_le
    (fun month => daysInMonth time.year (month + 1)) less
  simp only [month] at before
  unfold CivilTime.dayOfYear daysInYear
  omega

/-- The day is an earlier one. -/
def IsEarlierDay (first second : CivilTime) : Prop :=
  first.year < second.year ∨ first.year = second.year ∧
    (first.month < second.month ∨ first.month = second.month ∧
      first.day < second.day)

def SameDay (first second : CivilTime) : Prop :=
  first.year = second.year ∧ first.month = second.month ∧ first.day = second.day

theorem SameDay.dayNumber_eq (same : SameDay first second) :
    first.dayNumber = second.dayNumber := by
  obtain ⟨year, month, day⟩ := same
  simp only [CivilTime.dayNumber, CivilTime.dayOfYear, year, month, day]

/-- On one day the seconds are as far apart as hours, minutes and seconds are. -/
theorem SameDay.seconds_add (same : SameDay first second) :
    first.seconds + ((second.hour * 60 + second.minute) * 60 + second.second) =
      second.seconds + ((first.hour * 60 + first.minute) * 60 + first.second) := by
  simp only [CivilTime.seconds, CivilTime.minuteNumber, same.dayNumber_eq]
  omega

theorem IsEarlierDay.dayNumber_lt (earlier : IsEarlierDay first second) :
    first.dayNumber < second.dayNumber := by
  rcases earlier with year | ⟨year, month | ⟨month, day⟩⟩
  · have inside := dayOfYear_lt first
    have before := sum_range_add_le daysInYear year
    unfold CivilTime.dayNumber
    omega
  · have inside := first.day_le
    have positive := first.day_pos
    have current : first.month - 1 + 1 = first.month :=
      Nat.succ_pred_eq_of_pos first.month_pos
    have less : first.month - 1 < second.month - 1 := by
      have := first.month_pos
      omega
    have before := sum_range_add_le
      (fun month => daysInMonth first.year (month + 1)) less
    simp only [current] at before
    simp only [CivilTime.dayNumber, CivilTime.dayOfYear, ← year]
    omega
  · have positive := first.day_pos
    simp only [CivilTime.dayNumber, CivilTime.dayOfYear, ← year, ← month]
    omega

/-! ## The order of minutes -/

def SameMinute (first second : CivilTime) : Prop :=
  SameDay first second ∧ first.hour = second.hour ∧ first.minute = second.minute

def IsEarlierMinute (first second : CivilTime) : Prop :=
  IsEarlierDay first second ∨ SameDay first second ∧
    (first.hour < second.hour ∨ first.hour = second.hour ∧
      first.minute < second.minute)

theorem minute_trichotomy (first second : CivilTime) :
    IsEarlierMinute first second ∨ SameMinute first second ∨
      IsEarlierMinute second first := by
  unfold IsEarlierMinute SameMinute IsEarlierDay SameDay
  omega

theorem SameMinute.minuteNumber_eq (same : SameMinute first second) :
    first.minuteNumber = second.minuteNumber := by
  obtain ⟨day, hour, minute⟩ := same
  simp only [CivilTime.minuteNumber, day.dayNumber_eq, hour, minute]

theorem SameMinute.packedMinute_eq (same : SameMinute first second) :
    first.packedMinute = second.packedMinute := by
  obtain ⟨⟨year, month, day⟩, hour, minute⟩ := same
  simp only [CivilTime.packedMinute, year, month, day, hour, minute]

theorem IsEarlierMinute.minuteNumber_lt (earlier : IsEarlierMinute first second) :
    first.minuteNumber < second.minuteNumber := by
  have hourLt := first.hour_lt
  have minuteLt := first.minute_lt
  unfold CivilTime.minuteNumber
  rcases earlier with day | ⟨day, time⟩
  · have less := day.dayNumber_lt
    omega
  · have same := day.dayNumber_eq
    omega

theorem IsEarlierMinute.packedMinute_lt (earlier : IsEarlierMinute first second) :
    first.packedMinute < second.packedMinute := by
  have monthLe := first.month_le
  have dayLe := Nat.le_trans first.day_le (daysInMonth_le ..)
  have hourLt := first.hour_lt
  have minuteLt := first.minute_lt
  unfold IsEarlierMinute IsEarlierDay SameDay at earlier
  unfold CivilTime.packedMinute
  omega

/-- Within a minute the packed digits differ by the seconds between the times;
from one minute to a later one they differ by forty-one at least. -/
theorem packed_sub_packed (first second : CivilTime) :
    (SameMinute first second ∧
      (second.packed : Int) - first.packed = (second.seconds : Int) - first.seconds) ∨
    (IsEarlierMinute first second ∧ (41 : Int) ≤ second.packed - first.packed ∧
      first.seconds < second.seconds) ∨
    (IsEarlierMinute second first ∧ (second.packed : Int) - first.packed < 0 ∧
      second.seconds < first.seconds) := by
  have firstLt := first.second_lt
  have secondLt := second.second_lt
  unfold CivilTime.packed CivilTime.seconds
  rcases minute_trichotomy first second with earlier | same | later
  · have minutes := earlier.minuteNumber_lt
    have digits := earlier.packedMinute_lt
    exact .inr (.inl ⟨earlier, by omega, by omega⟩)
  · have minutes := same.minuteNumber_eq
    have digits := same.packedMinute_eq
    exact .inl ⟨same, by omega⟩
  · have minutes := later.minuteNumber_lt
    have digits := later.packedMinute_lt
    exact .inr (.inr ⟨later, by omega, by omega⟩)

end ScorbitSdk.CalendarTimes
