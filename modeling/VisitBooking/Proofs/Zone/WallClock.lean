import VisitBooking.Proofs.Calendar.Count
import VisitBooking.Zone.Transition

/-!
# What a wall clock shows, in order of time

Time goes forward, and the clock on the wall goes forward with it while the zone keeps its offset.
When clocks are put back, a later instant may be shown as an earlier date-time. How far the clock on
the wall is from universal time depends on the instant alone, so of two instants nothing matters but
the time between them and their two offsets: the later one is shown as an earlier date-time just if
its offset is smaller by more than the time that has passed.

No clock is a whole day away from universal time, so this never happens over two days.

## Main definitions

* `Zone.KeepsTime`: the offset at an instant is one that a clock can have.
* `Zone.PutsBack`: between two instants clocks are put back by more than the time that passes.

## Main results

* `Zone.localTime_lt_iff`: when an instant is shown as an earlier date-time than another one.
* `Zone.PutsBack.offset_lt`, `Zone.PutsBack.seconds_lt`: it takes a smaller offset, and no two days.
-/

namespace VisitBooking.Zone

open Calendar

/-- The offset at an instant is one that a clock can have: it is less than a day, and in whole
minutes if it is to show a leap second as the end of a minute. -/
structure KeepsTime (z : Zone) (t : Instant) : Prop where
  day : (z.offsetAt t).natAbs < 86400
  minutes : t.utc.time.second = 60 → z.offsetAt t % 60 = 0

/-- Between `t` and `u` clocks are put back by more than the time that passes. -/
def PutsBack (z : Zone) (t u : Instant) : Prop :=
  u.count - t.count < (z.offsetAt t - z.offsetAt u) * 2000000000

instance (z : Zone) (t u : Instant) : Decidable (z.PutsBack t u) := by
  unfold PutsBack; infer_instance

variable {z : Zone} {t u : Instant}

theorem count_localTime (h : z.KeepsTime t) :
    (z.localTime t).count = t.count + z.offsetAt t * 2000000000 :=
  DateTime.count_shift h.day h.minutes

/-- An instant is shown as an earlier date-time than another one just if clocks are put back by more
than the time from the other one to it. -/
theorem localTime_lt_iff (ht : z.KeepsTime t) (hu : z.KeepsTime u) :
    z.localTime u < z.localTime t ↔ z.PutsBack t u := by
  rw [← DateTime.count_lt_iff, count_localTime ht, count_localTime hu, PutsBack]
  omega

/-- Clocks that are put back have a smaller offset afterwards. -/
theorem PutsBack.offset_lt (h : z.PutsBack t u) (htu : ¬ u < t) : z.offsetAt u < z.offsetAt t := by
  rw [← Instant.count_lt_iff] at htu
  unfold PutsBack at h
  omega

/-- No clocks are put back by two days. -/
theorem PutsBack.seconds_lt (h : z.PutsBack t u) (ht : z.KeepsTime t) (hu : z.KeepsTime u) :
    u.seconds < t.seconds + 172800 := by
  have hday := ht.day
  have hday' := hu.day
  rw [Instant.seconds_eq_count_div, Instant.seconds_eq_count_div]
  unfold PutsBack at h
  omega

end VisitBooking.Zone
