import VisitBooking.Calendar.Date

/-!
# Dates with a time of day

A time of day has hours, minutes, seconds and nanoseconds. Its seconds run up to 60, so that a
leap second has a place of its own after the last ordinary second of a minute. A `DateTime` joins
a date and a time of day and says nothing about a zone. A `LocalTime` is one within the range of
years that a visit can be booked for; an `Instant` is one read as universal time.

## Main definitions

* `TimeOfDay`, `DateTime`, `LocalTime`, `Instant`.
* `DateTime.rank`: date-times in order, counted in a mixed base.
* `DateTime.shift`: a date-time moved by an offset of less than a day.
* `Instant.seconds`: the Unix time of an instant.
-/

namespace VisitBooking.Calendar

/-- The numbers name a time of day. -/
def ValidTime (hour minute second nano : Nat) : Prop :=
  hour < 24 ∧ minute < 60 ∧ second ≤ 60 ∧ nano < 1000000000

instance (hour minute second nano : Nat) : Decidable (ValidTime hour minute second nano) := by
  unfold ValidTime; infer_instance

/-- A time of day. Second 60 is a leap second. -/
@[ext] structure TimeOfDay where
  hour : Nat
  minute : Nat
  second : Nat
  nano : Nat
  valid : ValidTime hour minute second nano
deriving DecidableEq

instance : Inhabited TimeOfDay := ⟨⟨0, 0, 0, 0, by decide⟩⟩

namespace TimeOfDay

/-- The time of day with the given numbers, if there is one. -/
def of? (hour minute second nano : Nat) : Option TimeOfDay :=
  if h : ValidTime hour minute second nano then some ⟨hour, minute, second, nano, h⟩ else none

/-- The seconds since midnight; a leap second counts as the second before it. -/
def seconds (t : TimeOfDay) : Nat := t.hour * 3600 + t.minute * 60 + min t.second 59

/-- The time of day with the given seconds since midnight and the fraction of `t`. It is one
second later on the clock if `t` is a leap second: that second follows the one it is counted
as. -/
def withSeconds (t : TimeOfDay) (s : Nat) (h : s < 86400) : TimeOfDay where
  hour := s / 3600
  minute := s / 60 % 60
  second := s % 60 + (if t.second = 60 then 1 else 0)
  nano := t.nano
  valid := by
    refine ⟨by omega, by omega, ?_, t.valid.2.2.2⟩
    split <;> omega

end TimeOfDay

/-- A date and a time of day, in no particular zone. -/
structure DateTime where
  date : Date
  time : TimeOfDay
deriving DecidableEq, Inhabited

namespace DateTime

/-- The place of a date-time among all, counted in a mixed base of days in a month, hours,
minutes, seconds and nanoseconds. Ranks order date-times as time does. -/
def rank (t : DateTime) : Int :=
  (((((t.date.year * 13 + t.date.month) * 32 + t.date.day) * 24 + t.time.hour) * 60
    + t.time.minute) * 61 + t.time.second) * 1000000000 + t.time.nano

instance : LT DateTime := ⟨fun a b => a.rank < b.rank⟩
instance : LE DateTime := ⟨fun a b => a.rank ≤ b.rank⟩
instance (a b : DateTime) : Decidable (a < b) := inferInstanceAs (Decidable (a.rank < b.rank))
instance (a b : DateTime) : Decidable (a ≤ b) := inferInstanceAs (Decidable (a.rank ≤ b.rank))

/-- The date-time `offset` seconds later, for an offset of less than a day. The fraction of the
second, and being a leap second, stay. -/
def shift (t : DateTime) (offset : Int) : DateTime :=
  let s : Int := t.time.seconds + offset
  let date := if s < 0 then t.date.previous else if s < 86400 then t.date else t.date.next
  ⟨date, t.time.withSeconds (s % 86400).toNat (by omega)⟩

end DateTime

/-- The years that a date-time of the system may have. -/
def RepresentableYear (year : Int) : Prop := -262143 ≤ year ∧ year ≤ 262142

instance (year : Int) : Decidable (RepresentableYear year) := by
  unfold RepresentableYear; infer_instance

/-- A date-time on the wall clock of the visiting room. -/
structure LocalTime extends DateTime where
  representable : RepresentableYear date.year
deriving DecidableEq

instance : Inhabited LocalTime := ⟨⟨default, by decide⟩⟩

namespace LocalTime

/-- The date-time, if its year is in range. -/
def of? (t : DateTime) : Option LocalTime :=
  if h : RepresentableYear t.date.year then some ⟨t, h⟩ else none

instance : LT LocalTime := ⟨fun a b => a.toDateTime < b.toDateTime⟩
instance (a b : LocalTime) : Decidable (a < b) :=
  inferInstanceAs (Decidable (a.toDateTime < b.toDateTime))

end LocalTime

/-- A point in time, given by its date-time in universal time. -/
structure Instant where
  utc : LocalTime
deriving DecidableEq, Inhabited

namespace Instant

/-- The instant that a clock `offset` seconds ahead of universal time shows as `t`, if its year in
universal time is in range too. -/
def ofOffset? (t : LocalTime) (offset : Int) : Option Instant :=
  (LocalTime.of? (t.toDateTime.shift (-offset))).map Instant.mk

/-- Unix time: seconds since 1970, without the leap seconds. -/
def seconds (t : Instant) : Int := t.utc.date.dayNumber * 86400 + t.utc.time.seconds

instance : LT Instant := ⟨fun a b => a.utc < b.utc⟩
instance (a b : Instant) : Decidable (a < b) := inferInstanceAs (Decidable (a.utc < b.utc))

end Instant

end VisitBooking.Calendar
