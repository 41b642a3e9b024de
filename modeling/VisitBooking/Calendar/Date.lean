/-!
# Calendar dates

Dates of the proleptic Gregorian calendar: the present leap rule in every year, with a year zero
before the year one and negative years before it.

## Main definitions

* `Date`: year, month and day that name a day of the calendar.
* `Date.next`, `Date.previous`: the neighbouring days.
* `Date.dayNumber`: days since the first of January 1970.
-/

namespace VisitBooking.Calendar

/-- Every fourth year is a leap year, of the full centuries only every fourth. -/
def isLeapYear (year : Int) : Bool :=
  year % 4 == 0 && (year % 100 != 0 || year % 400 == 0)

/-- The number of days of a month; total, so a month that does not exist has 31. -/
def daysInMonth (year : Int) (month : Nat) : Nat :=
  match month with
  | 2 => if isLeapYear year then 29 else 28
  | 4 | 6 | 9 | 11 => 30
  | _ => 31

theorem daysInMonth_pos (year : Int) (month : Nat) : 1 ≤ daysInMonth year month := by
  unfold daysInMonth
  split
  · split <;> omega
  all_goals omega

/-- The numbers name a day of the calendar. -/
def ValidDate (year : Int) (month day : Nat) : Prop :=
  1 ≤ month ∧ month ≤ 12 ∧ 1 ≤ day ∧ day ≤ daysInMonth year month

instance (year : Int) (month day : Nat) : Decidable (ValidDate year month day) := by
  unfold ValidDate; infer_instance

/-- A day of the calendar. -/
structure Date where
  year : Int
  month : Nat
  day : Nat
  valid : ValidDate year month day
deriving DecidableEq

namespace Date

instance : Inhabited Date := ⟨⟨1970, 1, 1, by decide⟩⟩

/-- The date with the given numbers, if there is one. -/
def of? (year : Int) (month day : Nat) : Option Date :=
  if h : ValidDate year month day then some ⟨year, month, day, h⟩ else none

/-- The day after. -/
def next (d : Date) : Date :=
  if h : d.day < daysInMonth d.year d.month then
    ⟨d.year, d.month, d.day + 1, by
      obtain ⟨h1, h2, _, _⟩ := d.valid; exact ⟨h1, h2, by omega, by omega⟩⟩
  else if hm : d.month < 12 then
    ⟨d.year, d.month + 1, 1, ⟨by omega, by omega, by omega, daysInMonth_pos ..⟩⟩
  else ⟨d.year + 1, 1, 1, ⟨by omega, by omega, by omega, daysInMonth_pos ..⟩⟩

/-- The day before. -/
def previous (d : Date) : Date :=
  if h : 1 < d.day then
    ⟨d.year, d.month, d.day - 1, by
      obtain ⟨h1, h2, _, h4⟩ := d.valid; exact ⟨h1, h2, by omega, by omega⟩⟩
  else if hm : 1 < d.month then
    ⟨d.year, d.month - 1, daysInMonth d.year (d.month - 1), by
      obtain ⟨_, h2, _, _⟩ := d.valid
      exact ⟨by omega, by omega, daysInMonth_pos .., Nat.le_refl _⟩⟩
  else ⟨d.year - 1, 12, 31, ⟨by omega, by omega, by omega, by simp [daysInMonth]⟩⟩

/-! ### Counting days -/

/-- The number of days from the first of January of year one to that of `year`. -/
def daysBeforeYear (year : Int) : Int :=
  let passed := year - 1
  365 * passed + passed / 4 - passed / 100 + passed / 400

/-- The number of days of a year before a month. -/
def daysBeforeMonth (year : Int) (month : Nat) : Nat :=
  (List.range (month - 1)).foldl (fun days m => days + daysInMonth year (m + 1)) 0

/-- The number of days from the first of January 1970 to the given day of the given month; the day
may also lie outside the month, and is then counted on from it. -/
def numberOf (year : Int) (month : Nat) (day : Int) : Int :=
  daysBeforeYear year + daysBeforeMonth year month + (day - 1) - 719162

/-- The number of days since the first of January 1970. -/
def dayNumber (d : Date) : Int := numberOf d.year d.month d.day

end Date

end VisitBooking.Calendar
