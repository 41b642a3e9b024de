import VisitBooking.Calendar.DateTime
import VisitBooking.Text.Decimal
import VisitBooking.Text.Blank

/-!
# Reading dates and times

The readers take a part from the front of a text and hand back the rest. The readers of the wire
forms are lenient: white space may stand before any number and any separator of the date and the
clock, and numbers may lack leading zeros. An unsigned year has at most four digits, a signed one
any number. Digits of a fraction after the ninth are dropped. The reader of an instant's column
takes the strict form only, with every number of full width.

## Main definitions

* `LocalTime.ofWire?`, `LocalTime.ofColumn?`.
* `Instant.ofWire?`, `Instant.ofColumn?`.
-/

namespace VisitBooking.Calendar

open VisitBooking.Text

/-! ### Parts -/

/-- The character `c` at the front. -/
def takeChar? (c : Char) : List Char → Option (List Char)
  | x :: s => if x = c then some s else none
  | [] => none

/-- A year after white space: with a sign any number of digits, without one at most four. -/
def takeYear? (s : List Char) : Option (Int × List Char) :=
  match trimStart s with
  | '-' :: r => (takeNumber? 1 r.length r).map fun p => (-(p.1 : Int), p.2)
  | '+' :: r => (takeNumber? 1 r.length r).map fun p => ((p.1 : Int), p.2)
  | r => (takeNumber? 1 4 r).map fun p => ((p.1 : Int), p.2)

/-- A number of one or two digits after white space. -/
def takeShort? (s : List Char) : Option (Nat × List Char) := takeNumber? 1 2 (trimStart s)

/-- The separator `c`, with white space before it. -/
def takeSeparator? (c : Char) (s : List Char) : Option (List Char) := takeChar? c (trimStart s)

/-- One to nine digits as a fraction of a second in nanoseconds; further digits are dropped. -/
def takeNanos? (s : List Char) : Option (Nat × List Char) :=
  let ds := leadingDigits 9 s
  if ds = [] then none
  else some (value ds * Nat.pow 10 (9 - ds.length), (s.drop ds.length).dropWhile Char.isDigit)

/-- A fraction after a point, or nothing. -/
def takeFraction? : List Char → Option (Nat × List Char)
  | '.' :: s => takeNanos? s
  | s => some (0, s)

/-- A fraction of exactly nine digits after a point, or nothing. -/
def takeFullFraction? : List Char → Option (Nat × List Char)
  | '.' :: s => takeNumber? 9 9 s
  | s => some (0, s)

/-- A date, with white space allowed before its parts. -/
def takeDate? (s : List Char) : Option (Date × List Char) := do
  let (year, s) ← takeYear? s
  let s ← takeSeparator? '-' s
  let (month, s) ← takeShort? s
  let s ← takeSeparator? '-' s
  let (day, s) ← takeShort? s
  let date ← Date.of? year month day
  return (date, s)

/-- A time of day, with white space allowed before its parts, and a fraction. -/
def takeTime? (s : List Char) : Option (TimeOfDay × List Char) := do
  let (hour, s) ← takeShort? s
  let s ← takeSeparator? ':' s
  let (minute, s) ← takeShort? s
  let s ← takeSeparator? ':' s
  let (second, s) ← takeShort? s
  let (nano, s) ← takeFraction? s
  let time ← TimeOfDay.of? hour minute second nano
  return (time, s)

/-! ### Visit times -/

/-- Read the wire form of a visit time; white space may follow it. -/
def LocalTime.ofWire? (s : String) : Option LocalTime := do
  let (date, s) ← takeDate? s.toList
  let s ← takeSeparator? 'T' s
  let (time, s) ← takeTime? s
  if trimStart s = [] then LocalTime.of? ⟨date, time⟩ else none

/-- Read the column of a visit time: white space may stand before a number and nowhere else, and a
fraction has nine digits. -/
def LocalTime.ofColumn? (s : String) : Option LocalTime := do
  let (year, s) ← takeYear? s.toList
  let s ← takeChar? '-' s
  let (month, s) ← takeShort? s
  let s ← takeChar? '-' s
  let (day, s) ← takeShort? s
  let s ← takeChar? 'T' s
  let (hour, s) ← takeShort? s
  let s ← takeChar? ':' s
  let (minute, s) ← takeShort? s
  let s ← takeChar? ':' s
  let (second, s) ← takeShort? s
  let (nano, s) ← takeFullFraction? s
  let date ← Date.of? year month day
  let time ← TimeOfDay.of? hour minute second nano
  if s = [] then LocalTime.of? ⟨date, time⟩ else none

/-! ### Instants -/

/-- The letter or blank between the date and the time of an instant. -/
def takeDivider? : List Char → Option (List Char)
  | c :: s => if c = 't' ∨ c = 'T' ∨ c = ' ' then some s else none
  | [] => none

/-- An offset from universal time in seconds: the letter Z, or a sign, hours, the separator that
`between` takes, and minutes. The minus sign may also be the typographic one. -/
def takeOffset? (between : List Char → Option (List Char)) (s : List Char) :
    Option (Int × List Char) :=
  let amount (sign : Int) (s : List Char) : Option (Int × List Char) := do
    let (hours, s) ← takeNumber? 2 2 s
    let s ← between s
    let (minutes, s) ← takeNumber? 2 2 s
    if minutes < 60 then some (sign * (hours * 3600 + minutes * 60), s) else none
  match s with
  | 'Z' :: s => some (0, s)
  | 'z' :: s => some (0, s)
  | '+' :: s => amount 1 s
  | '-' :: s => amount (-1) s
  | '−' :: s => amount (-1) s
  | _ => none

/-- Colons and white space, as many as there are. -/
def skipColons (s : List Char) : List Char := s.dropWhile fun c => c = ':' || isBlank c

/-- The offset of an instant on the wire: the letters UTC in either case, or an offset in whose
middle any number of colons and blanks may stand. -/
def takeWireOffset? (s : List Char) : Option (Int × List Char) :=
  match s with
  | u :: t :: c :: r =>
    if [u.toUpper, t.toUpper, c.toUpper] = ['U', 'T', 'C'] then some (0, r)
    else takeOffset? (fun s => some (skipColons s)) s
  | _ => takeOffset? (fun s => some (skipColons s)) s

/-- Read the wire form of an instant; white space may follow it. -/
def Instant.ofWire? (s : String) : Option Instant := do
  let (date, s) ← takeDate? s.toList
  let s ← takeDivider? s
  let (time, s) ← takeTime? s
  let (offset, s) ← takeWireOffset? (trimStart s)
  let t ← LocalTime.of? ⟨date, time⟩
  if trimStart s = [] ∧ offset.natAbs < 86400 then Instant.ofOffset? t offset else none

/-- Read the column of an instant: four digits for the year, two for the other numbers, an
optional fraction, and an offset with a colon. -/
def Instant.ofColumn? (s : String) : Option Instant := do
  let (year, s) ← takeNumber? 4 4 s.toList
  let s ← takeChar? '-' s
  let (month, s) ← takeNumber? 2 2 s
  let s ← takeChar? '-' s
  let (day, s) ← takeNumber? 2 2 s
  let s ← takeDivider? s
  let (hour, s) ← takeNumber? 2 2 s
  let s ← takeChar? ':' s
  let (minute, s) ← takeNumber? 2 2 s
  let s ← takeChar? ':' s
  let (second, s) ← takeNumber? 2 2 s
  let (nano, s) ← takeFraction? s
  let date ← Date.of? year month day
  let time ← TimeOfDay.of? hour minute second nano
  let (offset, s) ← takeOffset? (takeChar? ':') s
  let t ← LocalTime.of? ⟨date, time⟩
  if s = [] ∧ offset.natAbs < 86400 then Instant.ofOffset? t offset else none

end VisitBooking.Calendar
