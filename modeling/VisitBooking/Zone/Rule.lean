import VisitBooking.Calendar.Date

/-!
# Rules of a time zone

The history of a zone is a list of eras. In an era the zone keeps one standard offset from
universal time, and its clocks are advanced either by a fixed amount or by a rule set that says
each year when the clocks change and by how much. An era ends at a moment written in its own clock;
the last one does not end.

## Main definitions

* `YearDay`: a day that a year's calendar determines, such as the last Sunday of March.
* `Rule`, `Era`: when clocks change, and how long they follow which rules.
* `YearMoment.seconds`: the Unix time of such a moment in a given year, for given offsets.
-/

namespace VisitBooking.Zone

open VisitBooking.Calendar

/-- A day of a month. Weekdays count from Sunday as zero. -/
inductive YearDay where
  /-- The day with this number. -/
  | exact (day : Nat)
  /-- The last such weekday of the month. -/
  | last (weekday : Nat)
  /-- The first such weekday on or after the day, which may be in the next month. -/
  | onOrAfter (weekday day : Nat)
  /-- The last such weekday on or before the day, which may be in the month before. -/
  | onOrBefore (weekday day : Nat)
deriving DecidableEq, Repr, Inhabited

/-- Which clock a time is read from. -/
inductive Clock where
  /-- The clock on the wall, advanced or not. -/
  | wall
  /-- The clock that is never advanced. -/
  | standard
  /-- Universal time. -/
  | universal
deriving DecidableEq, Repr, Inhabited

/-- A moment that recurs each year; the time may lie outside the day. -/
structure YearMoment where
  month : Nat
  day : YearDay
  /-- Seconds after midnight. -/
  time : Int
  clock : Clock
deriving DecidableEq, Repr, Inhabited

/-- From the given moment of each of these years on, clocks are advanced by `saving` seconds. -/
structure Rule where
  first : Int
  /-- The last year; none for a rule in force without end. -/
  final : Option Int
  change : YearMoment
  saving : Int
deriving DecidableEq, Repr, Inhabited

/-- How clocks are advanced during an era. -/
inductive Advance where
  /-- By the same number of seconds throughout. -/
  | fixed (saving : Int)
  /-- By a rule set. -/
  | ruled (rules : List Rule)
deriving DecidableEq, Repr, Inhabited

/-- A time during which a zone keeps one standard offset and one way of advancing clocks. -/
structure Era where
  /-- The standard offset in seconds, positive to the east. -/
  standard : Int
  advance : Advance
  /-- The year and the moment in it at which the era ends. -/
  ends : Option (Int × YearMoment)
deriving DecidableEq, Repr, Inhabited

/-! ### Moments of a given year -/

/-- The weekday of a day number, Sunday being zero. -/
def weekdayOf (day : Int) : Int := (day + 4) % 7

/-- The day number of the first `weekday` on or after `day`. -/
def firstFrom (weekday : Nat) (day : Int) : Int := day + (weekday - weekdayOf day) % 7

/-- The day number of the last `weekday` on or before `day`. -/
def lastUpTo (weekday : Nat) (day : Int) : Int := day - (weekdayOf day - weekday) % 7

/-- The day number of a day in a given year and month. -/
def YearDay.dayNumber (year : Int) (month : Nat) : YearDay → Int
  | .exact day => Date.numberOf year month day
  | .last weekday => lastUpTo weekday (Date.numberOf year month (daysInMonth year month))
  | .onOrAfter weekday day => firstFrom weekday (Date.numberOf year month day)
  | .onOrBefore weekday day => lastUpTo weekday (Date.numberOf year month day)

/-- The Unix time of a moment in a given year, where clocks have the standard offset `standard` and
are advanced by `saving`. -/
def YearMoment.seconds (year standard saving : Int) (m : YearMoment) : Int :=
  m.day.dayNumber year m.month * 86400 + m.time -
    match m.clock with
    | .wall => standard + saving
    | .standard => standard
    | .universal => 0

/-- The rule is in force in the year. -/
def Rule.coversYear (year : Int) (r : Rule) : Bool :=
  decide (r.first ≤ year) && match r.final with
    | none => true
    | some final => decide (year ≤ final)

end VisitBooking.Zone
