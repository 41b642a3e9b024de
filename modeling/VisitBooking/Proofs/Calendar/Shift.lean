import VisitBooking.Proofs.Calendar.Column

/-!
# Date-times are moved and moved back

A date-time that is moved by an offset may come to the day before or to the day after, and with it
into another month or another year. Moving back by the same offset crosses the same midnight, so
what is left to show of the dates is that the day before and the day after are inverse to each
other: both say that one day follows the other, and of two days that follow each other either one
tells the other.

A leap second is the second 60 of a minute, whichever minute that is. So it stays one if the offset
is a number of whole minutes. By any other offset it would come to a second that looks like an
ordinary one, and it could not be told from that second any more.

## Main definitions

* `Date.Follows`: a day and the day after.

## Main results

* `Date.next_previous`, `Date.previous_next`.
* `DateTime.shift_shift_neg`: moved there and back.
-/

namespace VisitBooking.Calendar

/-! ### Neighbouring days -/

namespace Date

/-- The day `e` is the day after `d`: in the same month, as the first day of the next month, or as
the first day of the next year. -/
def Follows (d e : Date) : Prop :=
  (d.day < daysInMonth d.year d.month ∧
    e.year = d.year ∧ e.month = d.month ∧ e.day = d.day + 1) ∨
  (d.day = daysInMonth d.year d.month ∧ d.month < 12 ∧
    e.year = d.year ∧ e.month = d.month + 1 ∧ e.day = 1) ∨
  (d.day = daysInMonth d.year d.month ∧ d.month = 12 ∧
    e.year = d.year + 1 ∧ e.month = 1 ∧ e.day = 1)

variable {d d' e e' : Date}

theorem eq_of_parts (hyear : d.year = e.year) (hmonth : d.month = e.month)
    (hday : d.day = e.day) : d = e := by
  obtain ⟨year, month, day, hd⟩ := d
  obtain ⟨year', month', day', he⟩ := e
  obtain rfl : year = year' := hyear
  obtain rfl : month = month' := hmonth
  obtain rfl : day = day' := hday
  rfl

theorem follows_next (d : Date) : d.Follows d.next := by
  obtain ⟨-, hmonth, -, hday⟩ := d.valid
  unfold next
  split
  · rename_i hwithin
    exact .inl ⟨hwithin, rfl, rfl, rfl⟩
  · split
    · exact .inr (.inl ⟨by omega, by omega, rfl, rfl, rfl⟩)
    · exact .inr (.inr ⟨by omega, by omega, rfl, rfl, rfl⟩)

theorem follows_previous (d : Date) : d.previous.Follows d := by
  obtain ⟨hmonth, hmonth', hday, hlast⟩ := d.valid
  unfold previous
  split
  · refine .inl ⟨?_, rfl, rfl, ?_⟩
    · show d.day - 1 < daysInMonth d.year d.month
      omega
    · show d.day = d.day - 1 + 1
      omega
  · split
    · refine .inr (.inl ⟨rfl, ?_, rfl, ?_, by omega⟩)
      · show d.month - 1 < 12
        omega
      · show d.month = d.month - 1 + 1
        omega
    · refine .inr (.inr ⟨rfl, rfl, ?_, by omega, by omega⟩)
      show d.year = d.year - 1 + 1
      omega

theorem Follows.right_unique (h : d.Follows e) (h' : d.Follows e') : e = e' := by
  unfold Follows at h h'
  exact eq_of_parts (by omega) (by omega) (by omega)

theorem Follows.left_unique (h : d.Follows e) (h' : d'.Follows e) : d = d' := by
  obtain ⟨hmonth, -, hday, -⟩ := d.valid
  obtain ⟨hmonth', -, hday', -⟩ := d'.valid
  unfold Follows at h h'
  have hyear : d.year = d'.year := by omega
  have hmonth : d.month = d'.month := by omega
  -- The last days of one month are one day.
  rw [hyear, hmonth] at h
  exact eq_of_parts hyear hmonth (by omega)

@[simp] theorem next_previous (d : Date) : d.previous.next = d :=
  (follows_next d.previous).right_unique (follows_previous d)

@[simp] theorem previous_next (d : Date) : d.next.previous = d :=
  (follows_previous d.next).left_unique (follows_next d)

end Date

/-! ### Moving -/

namespace TimeOfDay

theorem seconds_mod_minute (t : TimeOfDay) : t.seconds % 60 = min t.second 59 := by
  unfold seconds
  omega

/-- The seconds of a time of day that is put together from seconds are these seconds, if the leap
second stays at the end of a minute. -/
theorem seconds_withSeconds {t : TimeOfDay} {s : Nat} (h : s < 86400)
    (hleap : t.second = 60 → s % 60 = 59) : (t.withSeconds s h).seconds = s := by
  simp only [withSeconds, seconds]
  split
  · have hs := hleap ‹_›
    omega
  · omega

/-- A leap second that stays at the end of a minute stays a leap second. -/
theorem second_withSeconds_iff {t : TimeOfDay} {s : Nat} (h : s < 86400)
    (hleap : t.second = 60 → s % 60 = 59) :
    (t.withSeconds s h).second = 60 ↔ t.second = 60 := by
  simp only [withSeconds]
  split
  · have hs := hleap ‹_›
    omega
  · omega

/-- Only the fraction and being a leap second are taken from the time of day. -/
theorem withSeconds_congr {t u : TimeOfDay} {s s' : Nat} (h : s < 86400) (h' : s' < 86400)
    (hs : s = s') (hnano : t.nano = u.nano) (hleap : t.second = 60 ↔ u.second = 60) :
    t.withSeconds s h = u.withSeconds s' h' := by
  subst hs
  simp only [withSeconds, hnano, hleap]

end TimeOfDay

namespace DateTime

variable {t : DateTime} {offset : Int}

theorem date_shift (t : DateTime) (offset : Int) :
    (t.shift offset).date =
      if (t.time.seconds : Int) + offset < 0 then t.date.previous
      else if (t.time.seconds : Int) + offset < 86400 then t.date
      else t.date.next :=
  rfl

/-- The seconds of the day are moved round the clock. -/
theorem seconds_shift (hminutes : offset % 60 = 0) :
    ((t.shift offset).time.seconds : Int) = (t.time.seconds + offset) % 86400 := by
  have hminute := t.time.seconds_mod_minute
  have hmoved : (t.shift offset).time.seconds = ((t.time.seconds + offset : Int) % 86400).toNat :=
    TimeOfDay.seconds_withSeconds (by omega) (by omega)
  omega

theorem second_shift_iff (hminutes : offset % 60 = 0) :
    (t.shift offset).time.second = 60 ↔ t.time.second = 60 := by
  have hminute := t.time.seconds_mod_minute
  exact TimeOfDay.second_withSeconds_iff (by omega) (by omega)

/-- A date-time that is moved by whole minutes is moved back by them. -/
theorem shift_shift_neg (t : DateTime) (hminutes : offset % 60 = 0) :
    (t.shift offset).shift (-offset) = t := by
  have hlt := t.time.seconds_lt
  have hseconds : ((t.shift offset).time.seconds : Int) = (t.time.seconds + offset) % 86400 :=
    seconds_shift hminutes
  have hdate : ((t.shift offset).shift (-offset)).date = t.date := by
    rw [date_shift _ (-offset)]
    -- Either no midnight is crossed, or the same one both times.
    by_cases hbefore : (t.time.seconds : Int) + offset < 0
    · have hmoved : (t.shift offset).date = t.date.previous := by
        rw [date_shift, if_pos hbefore]
      rw [hmoved, if_neg (by omega), if_neg (by omega), Date.next_previous]
    · by_cases hsame : (t.time.seconds : Int) + offset < 86400
      · have hmoved : (t.shift offset).date = t.date := by
          rw [date_shift, if_neg hbefore, if_pos hsame]
        rw [hmoved, if_neg (by omega), if_pos (by omega)]
      · have hmoved : (t.shift offset).date = t.date.next := by
          rw [date_shift, if_neg hbefore, if_neg hsame]
        rw [hmoved, if_pos (by omega), Date.previous_next]
  have htime : ((t.shift offset).shift (-offset)).time = t.time := by
    have hback : ((t.shift offset).time.seconds + -offset : Int) % 86400 = t.time.seconds := by
      omega
    calc ((t.shift offset).shift (-offset)).time
        = t.time.withSeconds t.time.seconds hlt :=
          TimeOfDay.withSeconds_congr (by omega) hlt (by omega) rfl (second_shift_iff hminutes)
      _ = t.time := t.time.withSeconds_seconds
  calc (t.shift offset).shift (-offset)
      = ⟨((t.shift offset).shift (-offset)).date, ((t.shift offset).shift (-offset)).time⟩ := rfl
    _ = t := by rw [hdate, htime]

end DateTime

end VisitBooking.Calendar
