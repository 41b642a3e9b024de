import VisitBooking.Calendar.DateTime
import VisitBooking.Text.Decimal

/-!
# Written dates and times

A year of four digits stands alone; any other year has a sign and at least four digits. The
fraction of a second is written either with the fewest of 0, 3, 6 and 9 digits that say it
exactly, or always with nine digits.

A visit time has three written forms: in messages a blank separates date and time, on the wire and
in a column the letter T does, and only the column has the fixed fraction, so that columns of
four-digit years order as time does. An instant is written in universal time, with the letter Z on
the wire and with a numeric offset in a column.

## Main definitions

* `LocalTime.wire`, `LocalTime.display`, `LocalTime.column`.
* `Instant.wire`, `Instant.column`.
* `DateTime.withOffset`: a date-time followed by the offset of its zone.
-/

namespace VisitBooking.Calendar

open VisitBooking.Text

/-- A year: four digits, or a sign and at least four digits. -/
def yearText (year : Int) : List Char :=
  if 0 ≤ year ∧ year ≤ 9999 then padded 4 year.toNat
  else (if year < 0 then '-' else '+') :: padded 4 year.natAbs

/-- Year, month and day. -/
def Date.text (d : Date) : List Char :=
  yearText d.year ++ '-' :: padded 2 d.month ++ '-' :: padded 2 d.day

/-- Hours, minutes and seconds. -/
def TimeOfDay.clock (t : TimeOfDay) : List Char :=
  padded 2 t.hour ++ ':' :: padded 2 t.minute ++ ':' :: padded 2 t.second

/-- A fraction of a second with the fewest of 0, 3, 6 and 9 digits that say it exactly. -/
def shortFraction (nano : Nat) : List Char :=
  if nano = 0 then []
  else if nano % 1000000 = 0 then '.' :: padded 3 (nano / 1000000)
  else if nano % 1000 = 0 then '.' :: padded 6 (nano / 1000)
  else '.' :: padded 9 nano

/-- A fraction of a second with nine digits. -/
def fullFraction (nano : Nat) : List Char := '.' :: padded 9 nano

/-- The time of day with the short fraction. -/
def TimeOfDay.text (t : TimeOfDay) : List Char := t.clock ++ shortFraction t.nano

/-- Date and time with the letter T between them and the short fraction. -/
def DateTime.text (t : DateTime) : List Char := t.date.text ++ 'T' :: t.time.text

/-- An offset from universal time in hours and minutes, rounded to the nearest minute. -/
def offsetText (offset : Int) : List Char :=
  let minutes := (offset.natAbs + 30) / 60
  (if offset < 0 then '-' else '+') ::
    (padded 2 (minutes / 60) ++ ':' :: padded 2 (minutes % 60))

/-- Date and time followed by the offset of the zone they are read in. -/
def DateTime.withOffset (t : DateTime) (offset : Int) : String :=
  String.ofList (t.text ++ offsetText offset)

namespace LocalTime

/-- The form in requests and answers. -/
def wire (t : LocalTime) : String := String.ofList t.toDateTime.text

/-- The form in messages. -/
def display (t : LocalTime) : String := String.ofList (t.date.text ++ ' ' :: t.time.text)

/-- The form in a column of the store. -/
def column (t : LocalTime) : String :=
  String.ofList (t.date.text ++ 'T' :: t.time.clock ++ fullFraction t.time.nano)

end LocalTime

namespace Instant

/-- The form in requests and answers. -/
def wire (t : Instant) : String := String.ofList (t.utc.toDateTime.text ++ ['Z'])

/-- The form in a column of the store. -/
def column (t : Instant) : String := t.utc.toDateTime.withOffset 0

end Instant

end VisitBooking.Calendar
