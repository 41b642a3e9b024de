import VisitBooking.Event.Basic
import VisitBooking.Proofs.Calendar.Shift

/-!
# Times of events are read back

An event is told in the time of a zone. When clocks are put back, two instants are shown as one
date-time, and the offset beside it tells them apart: what is read back first is the date-time on
the wall and the offset, and the one moved back by the other is the instant. The zone is asked only
once, when the event is told. So nothing here depends on how the offsets of a zone follow each
other; which offset it is at the one instant is all that matters.

An offset is written in hours and minutes. One with seconds, such as an old local mean time, is
rounded, and then it is another instant that is read back. An offset of a day or more, which no
clock has, is not read.

## Main results

* `Zone.exists_stampOfText?_stamp`: what a zone tells.
* `Zone.ofOffset?_localTime`: the time on the wall moved back.
* `Notifier.occurredAt_read_back`: the same for an envelope.
-/

namespace VisitBooking

open Calendar

/-! ### A zone -/

namespace Zone

variable {z : Zone} {t : Instant}

/-- What a zone tells is the time on its wall and its offset. -/
theorem exists_stampOfText?_stamp
    (hplain : 0 ≤ (z.localTime t).date.year ∧ (z.localTime t).date.year ≤ 9999)
    (hday : (z.offsetAt t).natAbs < 86400) (hminutes : z.offsetAt t % 60 = 0) :
    ∃ wall : LocalTime, wall.toDateTime = z.localTime t ∧
      stampOfText? (z.stamp t) = some (wall, z.offsetAt t) := by
  have hyear : RepresentableYear (z.localTime t).date.year := by
    unfold RepresentableYear
    omega
  exact ⟨⟨z.localTime t, hyear⟩, rfl,
    stampOfText?_withOffset (t := ⟨z.localTime t, hyear⟩) hplain hday hminutes⟩

/-- The time on the wall, moved back by the offset, is the instant. -/
theorem ofOffset?_localTime {wall : LocalTime} (hwall : wall.toDateTime = z.localTime t)
    (hminutes : z.offsetAt t % 60 = 0) : Instant.ofOffset? wall (z.offsetAt t) = some t := by
  have hback : wall.toDateTime.shift (-z.offsetAt t) = t.utc.toDateTime := by
    rw [hwall, localTime, DateTime.shift_shift_neg _ hminutes]
  rw [Instant.ofOffset?, hback, LocalTime.of?_toDateTime, Option.map_some]

end Zone

/-! ### An envelope -/

/-- **The time of an event is read back.** Whichever zone an event is told in, if the offset of the
zone at the instant has whole minutes, and is less than a day as all offsets of clocks are, and the
year on the wall is one of 0 to 9999, then the text says what the wall clock shows, with the offset
that the zone has at the instant, and it is read as this very instant, with its fraction and as a
leap second if it is one. -/
theorem Notifier.occurredAt_read_back (n : Notifier) (k : EventKind) (v : Visit) (t : Instant)
    (hplain : 0 ≤ (n.zone.localTime t).date.year ∧ (n.zone.localTime t).date.year ≤ 9999)
    (hday : (n.zone.offsetAt t).natAbs < 86400) (hminutes : n.zone.offsetAt t % 60 = 0) :
    (∃ wall : LocalTime, wall.toDateTime = n.zone.localTime t ∧
      stampOfText? (n.envelope k v t).occurredAt = some (wall, n.zone.offsetAt t)) ∧
    Instant.ofColumn? (n.envelope k v t).occurredAt = some t := by
  have htext : (n.envelope k v t).occurredAt = n.zone.stamp t := rfl
  obtain ⟨wall, hwall, hstamp⟩ := Zone.exists_stampOfText?_stamp hplain hday hminutes
  rw [htext]
  refine ⟨⟨wall, hwall, hstamp⟩, ?_⟩
  rw [Instant.ofColumn?_eq_bind, hstamp, Option.bind_some]
  exact Zone.ofOffset?_localTime hwall hminutes

/-- An hour apart, before and after the clocks of London are put back, two instants are shown as
the same date-time. A leap second at the end of a year in universal time is shown in the next year
in Kolkata. -/
theorem Notifier.occurredAt_read_back_fold_and_leap :
    let london : Zone := ⟨"Europe/London", 3600, [(1792890000, 0)]⟩
    let kolkata : Zone := ⟨"Asia/Kolkata", 19800, []⟩
    let early : Instant := ⟨⟨⟨⟨2026, 10, 25, by decide⟩, ⟨0, 30, 0, 1, by decide⟩⟩, by decide⟩⟩
    let late : Instant := ⟨⟨⟨⟨2026, 10, 25, by decide⟩, ⟨1, 30, 0, 1, by decide⟩⟩, by decide⟩⟩
    let leap : Instant :=
      ⟨⟨⟨⟨2016, 12, 31, by decide⟩, ⟨23, 59, 60, 500000000, by decide⟩⟩, by decide⟩⟩
    let text (z : Zone) (t : Instant) : String :=
      ((⟨true, "", z⟩ : Notifier).envelope .booked default t).occurredAt
    (london.localTime early = london.localTime late ∧
      Instant.ofColumn? (text london early) = some early ∧
      Instant.ofColumn? (text london late) = some late) ∧
    ((kolkata.localTime leap).date.year = 2017 ∧
      Instant.ofColumn? (text kolkata leap) = some leap) := by
  intro london kolkata early late leap text
  refine ⟨⟨by decide, ?_, ?_⟩, by decide, ?_⟩
  · exact (Notifier.occurredAt_read_back _ .booked default early (by decide) (by decide)
      (by decide)).2
  · exact (Notifier.occurredAt_read_back _ .booked default late (by decide) (by decide)
      (by decide)).2
  · exact (Notifier.occurredAt_read_back _ .booked default leap (by decide) (by decide)
      (by decide)).2

end VisitBooking
