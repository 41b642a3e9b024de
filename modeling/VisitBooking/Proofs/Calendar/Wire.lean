import VisitBooking.Proofs.Calendar.Column

/-!
# Times are read back from the wire

The readers of the wire forms allow more than is written: white space and numbers without leading
zeros. None of this is in the way of what is written. A number is written in full width, so the
reader of a number takes all of it, and no part of a date or of a time of day begins with white
space.

The date and the time of day are read back before anything that cannot go on with them, so both
serve visit times and instants. What follows an instant is the letter Z. It is no digit and no
point, and as an offset it leaves the date-time where it is, so an instant is read back in any year.

## Main results

* `takeDate?_text`, `takeTime?_text`.
* `LocalTime.ofWire?_wire`, `Instant.ofWire?_wire`.
-/

namespace VisitBooking.Calendar

open VisitBooking.Text

theorem takeSeparator?_cons {c : Char} (s : List Char) (hc : isBlank c = false) :
    takeSeparator? c (c :: s) = some s := by
  rw [takeSeparator?, trimStart_cons s hc, takeChar?_cons]

/-- A date is read back, whatever follows it. -/
theorem takeDate?_text (d : Date) (rest : List Char) :
    takeDate? (d.text ++ rest) = some (d, rest) := by
  obtain ⟨year, month, day, hdate⟩ := d
  have htext : (Date.text ⟨year, month, day, hdate⟩) ++ rest =
      yearText year ++ '-' :: (padded 2 month ++ '-' :: (padded 2 day ++ rest)) := by
    simp only [Date.text, List.append_assoc, List.cons_append]
  unfold takeDate?
  rw [htext]
  refine bind_eq_some_of (takeYear?_yearText year (noDigitFirst_cons _ (by decide))) ?_
  refine bind_eq_some_of (takeSeparator?_cons _ (by decide)) ?_
  refine bind_eq_some_of (takeShort?_padded _ hdate.lt_hundred.1) ?_
  refine bind_eq_some_of (takeSeparator?_cons _ (by decide)) ?_
  refine bind_eq_some_of (takeShort?_padded _ hdate.lt_hundred.2) ?_
  exact bind_eq_some_of (Date.of?_eq_some hdate) rfl

/-- A time of day is read back, if neither a digit nor a point follows it. -/
theorem takeTime?_text (t : TimeOfDay) {rest : List Char} (hrest : NoDigitFirst rest)
    (hpoint : rest.head? ≠ some '.') : takeTime? (t.text ++ rest) = some (t, rest) := by
  obtain ⟨hour, minute, second, nano, htime⟩ := t
  have htext : (TimeOfDay.text ⟨hour, minute, second, nano, htime⟩) ++ rest =
      padded 2 hour ++ ':' :: (padded 2 minute ++ ':' :: (padded 2 second ++
        (shortFraction nano ++ rest))) := by
    simp only [TimeOfDay.text, TimeOfDay.clock, List.append_assoc, List.cons_append]
  unfold takeTime?
  rw [htext]
  refine bind_eq_some_of (takeShort?_padded _ htime.lt_hundred.1) ?_
  refine bind_eq_some_of (takeSeparator?_cons _ (by decide)) ?_
  refine bind_eq_some_of (takeShort?_padded _ htime.lt_hundred.2.1) ?_
  refine bind_eq_some_of (takeSeparator?_cons _ (by decide)) ?_
  refine bind_eq_some_of (takeShort?_padded _ htime.lt_hundred.2.2) ?_
  refine bind_eq_some_of (takeFraction?_shortFraction htime.2.2.2 hrest hpoint) ?_
  exact bind_eq_some_of (TimeOfDay.of?_eq_some htime) rfl

/-- Every visit time is read back from its wire form. -/
theorem LocalTime.ofWire?_wire (t : LocalTime) : LocalTime.ofWire? t.wire = some t := by
  have htext : t.wire.toList = t.date.text ++ 'T' :: (t.time.text ++ []) := by
    rw [List.append_nil, wire, String.toList_ofList]
    rfl
  unfold ofWire?
  rw [htext]
  refine bind_eq_some_of (takeDate?_text t.date _) ?_
  refine bind_eq_some_of (takeSeparator?_cons _ (by decide)) ?_
  refine bind_eq_some_of (takeTime?_text t.time nofun nofun) ?_
  exact LocalTime.of?_toDateTime t

/-- Every instant is read back from its wire form. -/
theorem Instant.ofWire?_wire (t : Instant) : Instant.ofWire? t.wire = some t := by
  have htext : t.wire.toList = t.utc.date.text ++ 'T' :: (t.utc.time.text ++ ['Z']) := by
    simp only [wire, String.toList_ofList, DateTime.text, List.append_assoc, List.cons_append]
  have hdigit : NoDigitFirst ['Z'] := noDigitFirst_cons _ (by decide)
  have hoffset : takeWireOffset? (trimStart ['Z']) = some (0, []) := by decide
  unfold ofWire?
  rw [htext]
  refine bind_eq_some_of (takeDate?_text t.utc.date _) ?_
  refine bind_eq_some_of (takeDivider?_cons _) ?_
  refine bind_eq_some_of (takeTime?_text t.utc.time hdigit (by decide)) ?_
  refine bind_eq_some_of hoffset ?_
  refine bind_eq_some_of (LocalTime.of?_toDateTime t.utc) ?_
  exact Instant.ofOffset?_zero t.utc

end VisitBooking.Calendar
