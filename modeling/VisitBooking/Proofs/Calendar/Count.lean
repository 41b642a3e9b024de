import VisitBooking.Proofs.Calendar.Order
import VisitBooking.Proofs.Calendar.Shift

/-!
# Date-times are counted

Date-times are compared part by part, and a clock is put forward or back by seconds. To tell how the
two go together, date-times are counted: the days since 1970, of each day the seconds since
midnight, and of each second the nanoseconds. A leap second is counted as the second before it, so a
second has room for twice as many nanoseconds as it has itself. In this count the order of
date-times is that of numbers, and moving by an offset adds the offset.

Days are counted by years and months of different lengths. All that matters of these is that a month
ends where the next one begins, and the last month of a year where the next year does.

## Main definitions

* `Date.Before`: dates part by part.
* `DateTime.count`, `Instant.count`: nanoseconds since the beginning of 1970, with room for a leap
  second in each second.

## Main results

* `Date.dayNumber_lt_iff`, `Date.Follows.dayNumber_eq`: the days in order, one after the other.
* `DateTime.count_lt_iff`: the count orders as the date-times do.
* `DateTime.count_shift`: moving adds to the count.
-/

namespace VisitBooking.Calendar

/-! ### Months and years -/

namespace Date

theorem daysBeforeMonth_succ (year : Int) {month : Nat} (h : 1 ≤ month) :
    daysBeforeMonth year (month + 1) = daysBeforeMonth year month + daysInMonth year month := by
  obtain ⟨m, rfl⟩ := Nat.exists_eq_add_of_le' h
  rw [daysBeforeMonth, daysBeforeMonth, Nat.add_sub_cancel, Nat.add_sub_cancel, List.range_succ,
    List.foldl_append]
  rfl

theorem daysBeforeMonth_mono (year : Int) {m n : Nat} (hm : 1 ≤ m) (h : m ≤ n) :
    daysBeforeMonth year m ≤ daysBeforeMonth year n := by
  induction h with
  | refl => exact Nat.le_refl _
  | step hmn ih =>
    rw [daysBeforeMonth_succ year (Nat.le_trans hm hmn)]
    omega

/-- A year ends with its last month. -/
theorem daysBeforeYear_succ (year : Int) :
    daysBeforeYear (year + 1) = daysBeforeYear year + daysBeforeMonth year 13 := by
  have hmonths : daysBeforeMonth year 13 = 337 + daysInMonth year 2 := by
    simp only [daysBeforeMonth, List.range_succ, List.range_zero, List.nil_append,
      List.foldl_append, List.foldl_cons, List.foldl_nil, daysInMonth]
    omega
  have hleap : isLeapYear year ↔ year % 4 = 0 ∧ (year % 100 ≠ 0 ∨ year % 400 = 0) := by
    simp [isLeapYear]
  rw [hmonths, daysInMonth]
  simp only [daysBeforeYear, hleap]
  split <;> omega

theorem daysBeforeYear_mono {x y : Int} (h : x ≤ y) : daysBeforeYear x ≤ daysBeforeYear y := by
  simp only [daysBeforeYear]
  omega

/-! ### Days -/

variable {d e : Date}

/-- Dates are compared part by part. -/
def Before (d e : Date) : Prop :=
  d.year < e.year ∨ d.year = e.year ∧
    (d.month < e.month ∨ d.month = e.month ∧ d.day < e.day)

theorem before_or_eq_or_before (d e : Date) : d.Before e ∨ d = e ∨ e.Before d := by
  by_cases h : d.year = e.year ∧ d.month = e.month ∧ d.day = e.day
  · exact .inr (.inl (eq_of_parts h.1 h.2.1 h.2.2))
  · unfold Before
    omega

theorem dayNumber_eq (d : Date) :
    d.dayNumber =
      daysBeforeYear d.year + daysBeforeMonth d.year d.month + (d.day - 1) - 719162 := rfl

/-- A day is numbered within its month. -/
theorem day_le_end (d : Date) :
    daysBeforeMonth d.year d.month + d.day ≤ daysBeforeMonth d.year (d.month + 1) := by
  obtain ⟨hmonth, -, -, hday⟩ := d.valid
  rw [daysBeforeMonth_succ d.year hmonth]
  omega

/-- The day after has the next number. -/
theorem Follows.dayNumber_eq (h : d.Follows e) : e.dayNumber = d.dayNumber + 1 := by
  obtain ⟨hmonth, -, -, -⟩ := d.valid
  have hends := daysBeforeMonth_succ d.year hmonth
  rw [Date.dayNumber_eq, Date.dayNumber_eq]
  rcases h with ⟨-, hyear, hmonth', hday⟩ | ⟨hlast, -, hyear, hmonth', hday⟩ |
      ⟨hlast, hdecember, hyear, hmonth', hday⟩
  · rw [hyear, hmonth', hday]
    omega
  · rw [hyear, hmonth', hday, hends]
    omega
  · rw [hdecember] at hends
    rw [hyear, hmonth', hday, daysBeforeYear_succ, hends, hdecember,
      show daysBeforeMonth (d.year + 1) 1 = 0 from rfl]
    rw [hdecember] at hlast
    omega

@[simp] theorem dayNumber_next (d : Date) : d.next.dayNumber = d.dayNumber + 1 :=
  (follows_next d).dayNumber_eq

@[simp] theorem dayNumber_previous (d : Date) : d.previous.dayNumber = d.dayNumber - 1 := by
  rw [(follows_previous d).dayNumber_eq, Int.add_sub_cancel]

theorem Before.dayNumber_lt (h : d.Before e) : d.dayNumber < e.dayNumber := by
  obtain ⟨hmonth, hmonth', hday, -⟩ := d.valid
  obtain ⟨hmonth₁, hmonth₁', hday₁, -⟩ := e.valid
  have hend := d.day_le_end
  rw [dayNumber_eq, dayNumber_eq]
  rcases h with hyear | ⟨hyear, hmonths | ⟨hmonths, hdays⟩⟩
  · have hyears := daysBeforeYear_mono (Int.add_one_le_of_lt hyear)
    have hrest := daysBeforeMonth_mono d.year (by omega : 1 ≤ d.month + 1)
      (by omega : d.month + 1 ≤ 13)
    rw [daysBeforeYear_succ] at hyears
    omega
  · have hbetween := daysBeforeMonth_mono d.year (by omega) (by omega : d.month + 1 ≤ e.month)
    rw [← hyear]
    omega
  · rw [← hyear, ← hmonths]
    omega

/-- The numbers of days order as the days do. -/
theorem dayNumber_lt_iff : d.dayNumber < e.dayNumber ↔ d.Before e := by
  refine ⟨fun hlt => ?_, Before.dayNumber_lt⟩
  rcases before_or_eq_or_before d e with h | rfl | h
  · exact h
  · exact absurd hlt (Int.lt_irrefl _)
  · exact absurd h.dayNumber_lt (Int.lt_asymm hlt)

theorem dayNumber_inj : d.dayNumber = e.dayNumber ↔ d = e := by
  refine ⟨fun heq => ?_, congrArg dayNumber⟩
  rcases before_or_eq_or_before d e with h | h | h
  · exact absurd heq (Int.ne_of_lt h.dayNumber_lt)
  · exact h
  · exact absurd heq.symm (Int.ne_of_lt h.dayNumber_lt)

end Date

/-! ### Times of day -/

namespace TimeOfDay

/-- The nanoseconds that have passed since a second began; a leap second goes on where the second
before it ends. -/
def fraction (t : TimeOfDay) : Nat := (if t.second = 60 then 1000000000 else 0) + t.nano

/-- The nanoseconds since midnight, with room for a leap second in each second. -/
def count (t : TimeOfDay) : Nat := t.seconds * 2000000000 + t.fraction

variable {t u : TimeOfDay}

/-- Times of day are compared part by part. -/
def Before (t u : TimeOfDay) : Prop :=
  t.hour < u.hour ∨ t.hour = u.hour ∧ (t.minute < u.minute ∨ t.minute = u.minute ∧
    (t.second < u.second ∨ t.second = u.second ∧ t.nano < u.nano))

theorem fraction_lt (t : TimeOfDay) : t.fraction < 2000000000 := by
  obtain ⟨-, -, -, hnano⟩ := t.valid
  unfold fraction
  split <;> omega

theorem count_lt (t : TimeOfDay) : t.count < 86400 * 2000000000 := by
  have hseconds := t.seconds_lt
  have hfraction := t.fraction_lt
  unfold count
  omega

theorem count_lt_iff : t.count < u.count ↔ t.Before u := by
  obtain ⟨hhour, hminute, hsecond, hnano⟩ := t.valid
  obtain ⟨hhour', hminute', hsecond', hnano'⟩ := u.valid
  unfold count seconds fraction Before
  split <;> split <;> omega

end TimeOfDay

/-! ### Date-times -/

namespace DateTime

/-- The nanoseconds since the beginning of 1970, with room for a leap second in each second. -/
def count (t : DateTime) : Int := t.date.dayNumber * (86400 * 2000000000) + t.time.count

variable {t u : DateTime}

/-- First the dates are compared, and then the times of day. -/
theorem lt_iff_before : t < u ↔ t.date.Before u.date ∨ t.date = u.date ∧ t.time.Before u.time := by
  have hdate : t.date = u.date ↔
      t.date.year = u.date.year ∧ t.date.month = u.date.month ∧ t.date.day = u.date.day :=
    ⟨fun h => by rw [h]; exact ⟨rfl, rfl, rfl⟩, fun h => Date.eq_of_parts h.1 h.2.1 h.2.2⟩
  rw [lt_iff, hdate, PartsBefore, Date.Before, TimeOfDay.Before]
  omega

/-- The count orders as the date-times do. -/
theorem count_lt_iff : t.count < u.count ↔ t < u := by
  have ht := t.time.count_lt
  have hu := u.time.count_lt
  rw [lt_iff_before, ← Date.dayNumber_lt_iff, ← Date.dayNumber_inj, ← TimeOfDay.count_lt_iff]
  unfold count
  omega

/-! ### Moving -/

variable {offset : Int}

/-- Moved by less than a day, a day may be the one before or the one after. -/
theorem dayNumber_shift (hday : offset.natAbs < 86400) :
    (t.shift offset).date.dayNumber =
      t.date.dayNumber + (t.time.seconds + offset) / 86400 := by
  have hlt := t.time.seconds_lt
  rw [date_shift]
  split
  · rw [Date.dayNumber_previous]
    omega
  · split
    · omega
    · rw [Date.dayNumber_next]
      omega

/-- Moving by an offset adds it to the count. The offset is less than a day, and in whole minutes
where there is a leap second. -/
theorem count_shift (hday : offset.natAbs < 86400)
    (hleap : t.time.second = 60 → offset % 60 = 0) :
    (t.shift offset).count = t.count + offset * 2000000000 := by
  have hminute := t.time.seconds_mod_minute
  have hmoved : (t.shift offset).time.seconds =
      ((t.time.seconds + offset : Int) % 86400).toNat :=
    TimeOfDay.seconds_withSeconds (by omega) (by omega)
  have hsecond : (t.shift offset).time.second = 60 ↔ t.time.second = 60 :=
    TimeOfDay.second_withSeconds_iff (by omega) (by omega)
  have hfraction : (t.shift offset).time.fraction = t.time.fraction := by
    simp only [TimeOfDay.fraction, hsecond]
    rfl
  unfold count TimeOfDay.count
  rw [dayNumber_shift hday, hmoved, hfraction]
  omega

end DateTime

/-! ### Instants -/

namespace Instant

variable {t u : Instant}

/-- The count of the date-time in universal time. -/
def count (t : Instant) : Int := t.utc.toDateTime.count

theorem count_lt_iff : t.count < u.count ↔ t < u := DateTime.count_lt_iff

/-- The Unix time leaves out the fraction. -/
theorem seconds_eq_count_div (t : Instant) : t.seconds = t.count / 2000000000 := by
  have hfraction := t.utc.time.fraction_lt
  unfold count seconds DateTime.count TimeOfDay.count
  omega

end Instant

end VisitBooking.Calendar
