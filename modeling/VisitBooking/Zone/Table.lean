import VisitBooking.Zone.Rule
import VisitBooking.Text.Decimal
import VisitBooking.Text.Pieces

/-!
# Tables of eras and rules

Eras and rules are kept as text, one a line, with blanks between the fields.

* A rule: first year, last year (`max` for none), moment, saving.
* An era: standard offset, saving or name of a rule set, and, unless it is the last, the year and
  the moment of its end.
* A moment: month, day, and a time in seconds followed by the letter of the clock it is read from,
  `w` for the wall, `s` for standard time and `u` for universal time.
* A day: its number, `last0`, `0>=8` or `0<=25`, where the first digit is the weekday.

A line that cannot be read makes the whole table unreadable.
-/

namespace VisitBooking.Zone

open VisitBooking.Text

/-- A natural number without a sign. -/
def natural? (s : List Char) : Option Nat := (integer? s).map Int.toNat

/-- A weekday, Sunday being zero. -/
def weekday? (c : Char) : Option Nat := if c.isDigit then some (value [c]) else none

/-- Read a day. -/
def YearDay.ofText? (s : List Char) : Option YearDay :=
  match s with
  | ['l', 'a', 's', 't', c] => (weekday? c).map .last
  | c :: '>' :: '=' :: d => return .onOrAfter (← weekday? c) (← natural? d)
  | c :: '<' :: '=' :: d => return .onOrBefore (← weekday? c) (← natural? d)
  | d => (natural? d).map .exact

/-- Read a time and its clock. -/
def clockTime? (s : List Char) : Option (Int × Clock) := do
  let clock ← match s.getLast? with
    | some 'w' => some Clock.wall
    | some 's' => some Clock.standard
    | some 'u' => some Clock.universal
    | _ => none
  return (← integer? s.dropLast, clock)

/-- Read a moment from its three fields. -/
def YearMoment.ofFields? (month day time : List Char) : Option YearMoment := do
  let (seconds, clock) ← clockTime? time
  return ⟨← natural? month, ← YearDay.ofText? day, seconds, clock⟩

/-- Read a rule from the fields of its line. -/
def Rule.ofFields? : List (List Char) → Option Rule
  | [first, final, month, day, time, saving] => do
    let final ← if final = ['m', 'a', 'x'] then some none else (integer? final).map some
    return ⟨← integer? first, final, ← YearMoment.ofFields? month day time, ← integer? saving⟩
  | _ => none

/-- Read the end of an era, which the last era does not have. -/
def eraEnd? : List (List Char) → Option (Option (Int × YearMoment))
  | [] => some none
  | [year, month, day, time] => do
    return some (← integer? year, ← YearMoment.ofFields? month day time)
  | _ => none

/-- Read an era from the fields of its line; `rules?` gives the rule sets by name. -/
def Era.ofFields? (rules? : String → Option (List Rule)) : List (List Char) → Option Era
  | standard :: advance :: ends => do
    let advance ← match integer? advance with
      | some saving => some (Advance.fixed saving)
      | none => (rules? (String.ofList advance)).map .ruled
    return ⟨← integer? standard, advance, ← eraEnd? ends⟩
  | _ => none

/-- The fields of the lines of a table that are not blank. -/
def tableLines (text : String) : List (List (List Char)) :=
  ((pieces (· == '\n') text.toList).map words).filter (· ≠ [])

/-- Read a rule set. -/
def rulesOfText? (text : String) : Option (List Rule) := (tableLines text).mapM Rule.ofFields?

/-- Read the eras of a zone. -/
def erasOfText? (rules? : String → Option (List Rule)) (text : String) : Option (List Era) :=
  (tableLines text).mapM (Era.ofFields? rules?)

end VisitBooking.Zone
