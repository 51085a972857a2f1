import Mathlib

namespace Go

/-!
# Instants and calendar dates as Go's `time` package computes them

An instant is a count of nanoseconds since 1970-01-01T00:00:00Z, the value
`UnixNano` returns.  Calendar arithmetic is in UTC, on the proleptic
Gregorian calendar: `daysFromCivil` and `civilFromDays` convert between a day
number and a date, and `AddDate` normalises an overflowing month or day the
way `time.Date` does (2021-02-29 is 2021-03-01).

Nothing in this module mentions the program being verified.
-/

/-- Nanoseconds in a second. -/
def nanosPerSecond : Int :=
  1000000000

/-- Nanoseconds in a day. -/
def nanosPerDay : Int :=
  86400 * nanosPerSecond

/-- `time.Unix(sec, nsec)`; an `nsec` outside `[0, 1e9)` moves the second. -/
def Unix (sec nsec : Int) : Int :=
  sec * nanosPerSecond + nsec

/-- `t.Nanosecond()`: the offset of `t` within its second. -/
def Nanosecond (t : Int) : Int :=
  t % nanosPerSecond

/-- The number of days from 1970-01-01 to the date `y-m-d`; a day past the end
of its month runs on into the next. -/
def daysFromCivil (y m d : Int) : Int :=
  let y := if m ≤ 2 then y - 1 else y
  let era := y / 400
  let yoe := y - era * 400
  let doy := (153 * ((m + 9) % 12) + 2) / 5 + d - 1
  let doe := yoe * 365 + yoe / 4 - yoe / 100 + doy
  era * 146097 + doe - 719468

/-- The date (year, month, day) of a day number. -/
def civilFromDays (z : Int) : Int × Int × Int :=
  let z := z + 719468
  let era := z / 146097
  let doe := z - era * 146097
  let yoe := (doe - doe / 1460 + doe / 36524 - doe / 146096) / 365
  let doy := doe - (365 * yoe + yoe / 4 - yoe / 100)
  let mp := (5 * doy + 2) / 153
  let d := doy - (153 * mp + 2) / 5 + 1
  let m := if mp < 10 then mp + 3 else mp - 9
  (if m ≤ 2 then yoe + era * 400 + 1 else yoe + era * 400, m, d)

/-- `t.AddDate(years, months, days)` in UTC: the date moves, the clock stays. -/
def AddDate (t : Int) (years months days : Int) : Int :=
  let (y, m, d) := civilFromDays (t / nanosPerDay)
  let month := m - 1 + months
  daysFromCivil (y + years + month / 12) (month % 12 + 1) (d + days) * nanosPerDay +
    t % nanosPerDay

example : civilFromDays 0 = (1970, 1, 1) ∧ daysFromCivil 2021 2 29 = daysFromCivil 2021 3 1 := by
  decide

/-- Adding to the date of an instant keeps its time of day. -/
theorem AddDate_add_clock
    (day : Int)
    {clock : Int}
    (clockInDay : 0 ≤ clock ∧ clock < nanosPerDay)
    (years months days : Int) :
    AddDate (day * nanosPerDay + clock) years months days =
      AddDate (day * nanosPerDay) years months days + clock := by
  have dayPositive : 0 < nanosPerDay := by decide
  have sameDay : (day * nanosPerDay + clock) / nanosPerDay = day := by
    rw [Int.add_comm, Int.add_mul_ediv_right _ _ dayPositive.ne',
      Int.ediv_eq_zero_of_lt clockInDay.1 clockInDay.2, zero_add]
  have startOfDay : (day * nanosPerDay) / nanosPerDay = day :=
    Int.mul_ediv_cancel _ dayPositive.ne'
  have clockPart : (day * nanosPerDay + clock) % nanosPerDay = clock := by
    rw [Int.add_comm, Int.add_mul_emod_self_right, Int.emod_eq_of_lt clockInDay.1 clockInDay.2]
  unfold AddDate
  rw [sameDay, startOfDay, clockPart, Int.mul_emod_left]
  rcases civilFromDays day with ⟨y, m, d⟩
  ring

end Go
