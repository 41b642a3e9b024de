import VisitBooking.Calendar.Read
import VisitBooking.Calendar.Written
import VisitBooking.Proofs.Text.Decimal

/-!
# Times are read back from their columns

The column of a visit time is read back in every year that a visit can be booked for: a year that is
not written with four digits has a sign, and only then more digits are read. The column of an
instant is read strictly, with four digits for the year and no sign, so it is read back in the years
0 to 9999 only.

The column of an instant is a stamp: a date-time and the offset of the clock that shows it. What a
stamp says is read first, and which instant it is comes after. An offset is written in hours and
minutes, so it is read back if it has whole minutes and is less than a day.

## Main definitions

* `LocalTime.HasPlainYear`, `Instant.HasPlainYear`: the years 0 to 9999.
* `stampOfText?`: the date-time and the offset of a stamp.

## Main results

* `LocalTime.ofColumn?_column`.
* `stampOfText?_withOffset`, `Instant.ofColumn?_eq_bind`: what a stamp says, and which instant.
* `Instant.ofColumn?_column`, `Instant.ofColumn?_column_eq_none`.
-/

namespace VisitBooking.Calendar

open VisitBooking.Text

/-! ### Parts -/

/-- Readers one after the other: the first one is done. -/
theorem bind_eq_some_of {α β : Type} {o : Option α} {a : α} {f : α → Option β} {b : β}
    (h : o = some a) (hf : f a = some b) : (o >>= f) = some b :=
  h ▸ hf

/-- Two readers that begin in the same way, of which one has more to do at the end. -/
theorem bind_eq_bind_of {α β γ : Type} {o : Option α} {f : α → Option β} {g : α → Option γ}
    {k : γ → Option β} (h : ∀ a, f a = (g a).bind k) : (o >>= f) = (o >>= g).bind k := by
  cases o with
  | none => rfl
  | some a => exact h a

@[simp] theorem takeChar?_cons (c : Char) (s : List Char) : takeChar? c (c :: s) = some s := by
  simp [takeChar?]

@[simp] theorem takeDivider?_cons (s : List Char) : takeDivider? ('T' :: s) = some s := by
  simp [takeDivider?]

theorem takeShort?_padded {n : Nat} (rest : List Char) (hn : n < 100) :
    takeShort? (padded 2 n ++ rest) = some (n, rest) := by
  rw [takeShort?, trimStart_padded_append]
  exact takeNumber?_padded_width rest (by decide) (by decide) hn

theorem takeTwo?_padded {n : Nat} (rest : List Char) (hn : n < 100) :
    takeNumber? 2 2 (padded 2 n ++ rest) = some (n, rest) :=
  takeNumber?_padded_width rest (Nat.le_refl 2) (by decide) hn

/-- A year is read back if something else than a digit follows: with four digits it has no sign, and
otherwise the sign lets any number of digits be read. -/
theorem takeYear?_yearText (year : Int) {rest : List Char} (hrest : NoDigitFirst rest) :
    takeYear? (yearText year ++ rest) = some (year, rest) := by
  unfold yearText
  split
  case isTrue hfour =>
    have hlen : (padded 4 year.toNat).length ≤ 4 :=
      length_padded_le (by decide) (by decide) (by omega)
    have hnumber := takeNumber?_padded (by decide : 1 ≤ 4) hlen hrest
    unfold takeYear?
    rw [trimStart_padded_append]
    cases hp : padded 4 year.toNat with
    | nil => exact absurd hp (padded_ne_nil 4 year.toNat)
    | cons c ds =>
      have hc : c.isDigit := isDigit_of_mem_padded 4 year.toNat c (hp ▸ List.mem_cons_self ..)
      rw [hp] at hnumber
      -- The first character is a digit, hence no sign.
      split
      · rename_i heq
        obtain ⟨rfl, -⟩ := List.cons.inj heq
        exact absurd hc (by decide)
      · rename_i heq
        obtain ⟨rfl, -⟩ := List.cons.inj heq
        exact absurd hc (by decide)
      · rw [hnumber, Option.map_some, show (year.toNat : Int) = year by omega]
  case isFalse hsigned =>
    have hnumber : takeNumber? 1 (padded 4 year.natAbs ++ rest).length
        (padded 4 year.natAbs ++ rest) = some (year.natAbs, rest) :=
      takeNumber?_padded (by decide) (by simp) hrest
    by_cases hneg : year < 0
    · have hyear : -(year.natAbs : Int) = year := by omega
      rw [if_pos hneg, List.cons_append, takeYear?, trimStart_cons _ (by decide)]
      simp only [hnumber, Option.map_some, hyear]
    · have hyear : (year.natAbs : Int) = year := by omega
      rw [if_neg hneg, List.cons_append, takeYear?, trimStart_cons _ (by decide)]
      simp only [hnumber, Option.map_some, hyear]

theorem takeFullFraction?_fullFraction {nano : Nat} (h : nano < 10 ^ 9) :
    takeFullFraction? (fullFraction nano) = some (nano, []) := by
  have hnumber : takeNumber? 9 9 (padded 9 nano ++ []) = some (nano, []) :=
    takeNumber?_padded_width [] (Nat.le_refl 9) (by decide) h
  rw [List.append_nil] at hnumber
  exact hnumber

/-- The digits of a fraction count by their place, so zeros at its end are not missed. -/
theorem takeNanos?_padded {width n : Nat} {rest : List Char} (hw : 0 < width) (h9 : width ≤ 9)
    (hn : n < 10 ^ width) (hrest : NoDigitFirst rest) :
    takeNanos? (padded width n ++ rest) = some (n * 10 ^ (9 - width), rest) := by
  have hlen : (padded width n).length = width := length_padded hw hn
  have hdigits : leadingDigits 9 (padded width n ++ rest) = padded width n :=
    leadingDigits_append (isDigit_of_mem_padded width n) (by omega) (.inr hrest)
  have hstop : rest.dropWhile Char.isDigit = rest := by
    cases rest with
    | nil => rfl
    | cons c s => exact List.dropWhile_cons_of_neg (by simp [hrest c rfl])
  unfold takeNanos?
  rw [hdigits]
  simp [padded_ne_nil, hlen, hstop]

theorem takeFraction?_shortFraction {nano : Nat} {rest : List Char} (h : nano < 10 ^ 9)
    (hrest : NoDigitFirst rest) (hpoint : rest.head? ≠ some '.') :
    takeFraction? (shortFraction nano ++ rest) = some (nano, rest) := by
  unfold shortFraction
  split
  · rename_i hzero
    rw [List.nil_append, hzero]
    cases rest with
    | nil => rfl
    | cons c s =>
      have hc : c ≠ '.' := fun hc => hpoint (by simp [hc])
      simp [takeFraction?, hc]
  · split
    · have hnano : nano / 1000000 * 10 ^ (9 - 3) = nano := by omega
      rw [List.cons_append, takeFraction?,
        takeNanos?_padded (by decide) (by decide) (by omega) hrest, hnano]
    · split
      · have hnano : nano / 1000 * 10 ^ (9 - 6) = nano := by omega
        rw [List.cons_append, takeFraction?,
          takeNanos?_padded (by decide) (by decide) (by omega) hrest, hnano]
      · rw [List.cons_append, takeFraction?, takeNanos?_padded (by decide) (by decide) h hrest]
        simp

theorem Date.of?_eq_some {year : Int} {month day : Nat} (h : ValidDate year month day) :
    Date.of? year month day = some ⟨year, month, day, h⟩ := dif_pos h

theorem TimeOfDay.of?_eq_some {hour minute second nano : Nat}
    (h : ValidTime hour minute second nano) :
    TimeOfDay.of? hour minute second nano = some ⟨hour, minute, second, nano, h⟩ := dif_pos h

theorem LocalTime.of?_toDateTime (t : LocalTime) : LocalTime.of? t.toDateTime = some t :=
  dif_pos t.representable

theorem daysInMonth_le (year : Int) (month : Nat) : daysInMonth year month ≤ 31 := by
  unfold daysInMonth
  split
  · split <;> omega
  all_goals omega

theorem ValidDate.lt_hundred {year : Int} {month day : Nat} (h : ValidDate year month day) :
    month < 100 ∧ day < 100 := by
  obtain ⟨-, hm, -, hd⟩ := h
  have := daysInMonth_le year month
  omega

theorem ValidTime.lt_hundred {hour minute second nano : Nat}
    (h : ValidTime hour minute second nano) :
    hour < 100 ∧ minute < 100 ∧ second < 100 := by
  obtain ⟨hh, hm, hs, -⟩ := h
  omega

/-! ### Visit times -/

/-- Every visit time is read back from its column. -/
theorem LocalTime.ofColumn?_column (t : LocalTime) : LocalTime.ofColumn? t.column = some t := by
  obtain ⟨⟨⟨year, month, day, hdate⟩, ⟨hour, minute, second, nano, htime⟩⟩, hyear⟩ := t
  have htext :
      (column ⟨⟨⟨year, month, day, hdate⟩, ⟨hour, minute, second, nano, htime⟩⟩, hyear⟩).toList =
        yearText year ++ '-' :: (padded 2 month ++ '-' :: (padded 2 day ++ 'T' ::
        (padded 2 hour ++ ':' :: (padded 2 minute ++ ':' :: (padded 2 second ++
          fullFraction nano))))) := by
    simp only [column, String.toList_ofList, Date.text, TimeOfDay.clock, List.append_assoc,
      List.cons_append]
  unfold ofColumn?
  rw [htext]
  refine bind_eq_some_of (takeYear?_yearText year (noDigitFirst_cons _ (by decide))) ?_
  refine bind_eq_some_of (takeChar?_cons ..) ?_
  refine bind_eq_some_of (takeShort?_padded _ hdate.lt_hundred.1) ?_
  refine bind_eq_some_of (takeChar?_cons ..) ?_
  refine bind_eq_some_of (takeShort?_padded _ hdate.lt_hundred.2) ?_
  refine bind_eq_some_of (takeChar?_cons ..) ?_
  refine bind_eq_some_of (takeShort?_padded _ htime.lt_hundred.1) ?_
  refine bind_eq_some_of (takeChar?_cons ..) ?_
  refine bind_eq_some_of (takeShort?_padded _ htime.lt_hundred.2.1) ?_
  refine bind_eq_some_of (takeChar?_cons ..) ?_
  refine bind_eq_some_of (takeShort?_padded _ htime.lt_hundred.2.2) ?_
  refine bind_eq_some_of (takeFullFraction?_fullFraction htime.2.2.2) ?_
  refine bind_eq_some_of (Date.of?_eq_some hdate) ?_
  refine bind_eq_some_of (TimeOfDay.of?_eq_some htime) ?_
  exact LocalTime.of?_toDateTime ⟨_, hyear⟩

theorem LocalTime.column_injective {a b : LocalTime} (h : a.column = b.column) : a = b := by
  rw [← Option.some_inj, ← LocalTime.ofColumn?_column a, h, LocalTime.ofColumn?_column]

/-! ### Stamps -/

/-- The year is written with four digits and no sign. -/
def LocalTime.HasPlainYear (t : LocalTime) : Prop := 0 ≤ t.date.year ∧ t.date.year ≤ 9999

instance (t : LocalTime) : Decidable t.HasPlainYear := by
  unfold LocalTime.HasPlainYear; infer_instance

/-- What a text says that has the strict form of an instant's column: the date-time that it shows,
and the offset of the clock that shows it. -/
def stampOfText? (s : String) : Option (LocalTime × Int) := do
  let (year, s) ← takeNumber? 4 4 s.toList
  let s ← takeChar? '-' s
  let (month, s) ← takeNumber? 2 2 s
  let s ← takeChar? '-' s
  let (day, s) ← takeNumber? 2 2 s
  let s ← takeDivider? s
  let (hour, s) ← takeNumber? 2 2 s
  let s ← takeChar? ':' s
  let (minute, s) ← takeNumber? 2 2 s
  let s ← takeChar? ':' s
  let (second, s) ← takeNumber? 2 2 s
  let (nano, s) ← takeFraction? s
  let date ← Date.of? year month day
  let time ← TimeOfDay.of? hour minute second nano
  let (offset, s) ← takeOffset? (takeChar? ':') s
  let t ← LocalTime.of? ⟨date, time⟩
  if s = [] ∧ offset.natAbs < 86400 then some (t, offset) else none

/-- The instant of a stamp is the one at which a clock with its offset shows its date-time. -/
theorem Instant.ofColumn?_eq_bind (s : String) :
    Instant.ofColumn? s = (stampOfText? s).bind fun p => Instant.ofOffset? p.1 p.2 := by
  unfold Instant.ofColumn? stampOfText?
  -- Both take the same parts, and differ only in what they make of them.
  repeat refine bind_eq_bind_of fun _ => ?_
  split <;> rfl

/-- An offset of whole minutes is read back. -/
theorem takeOffset?_offsetText {offset : Int} (hday : offset.natAbs < 86400)
    (hminutes : offset % 60 = 0) :
    takeOffset? (takeChar? ':') (offsetText offset) = some (offset, []) := by
  obtain ⟨minutes, hrounded⟩ : ∃ minutes, minutes = (offset.natAbs + 30) / 60 := ⟨_, rfl⟩
  have hhours : takeNumber? 2 2 (padded 2 (minutes / 60) ++ ':' :: padded 2 (minutes % 60)) =
      some (minutes / 60, ':' :: padded 2 (minutes % 60)) :=
    takeTwo?_padded _ (by omega)
  have hrest : takeNumber? 2 2 (padded 2 (minutes % 60)) = some (minutes % 60, []) := by
    rw [← List.append_nil (padded 2 (minutes % 60))]
    exact takeTwo?_padded [] (by omega)
  have hlt : minutes % 60 < 60 := Nat.mod_lt _ (by decide)
  have hsum : (((minutes / 60 : Nat) : Int) * 3600 + ((minutes % 60 : Nat) : Int) * 60) =
      offset.natAbs := by
    omega
  rw [offsetText, ← hrounded]
  by_cases hneg : offset < 0
  · have hsigned : -1 * (offset.natAbs : Int) = offset := by omega
    simp only [if_pos hneg, takeOffset?]
    refine bind_eq_some_of hhours ?_
    refine bind_eq_some_of (takeChar?_cons ..) ?_
    refine bind_eq_some_of hrest ?_
    rw [if_pos hlt, hsum, hsigned]
  · have hsigned : 1 * (offset.natAbs : Int) = offset := by omega
    simp only [if_neg hneg, takeOffset?]
    refine bind_eq_some_of hhours ?_
    refine bind_eq_some_of (takeChar?_cons ..) ?_
    refine bind_eq_some_of hrest ?_
    rw [if_pos hlt, hsum, hsigned]

/-- What is written with an offset of whole minutes is read back in the years 0 to 9999. -/
theorem stampOfText?_withOffset {t : LocalTime} {offset : Int} (hplain : t.HasPlainYear)
    (hday : offset.natAbs < 86400) (hminutes : offset % 60 = 0) :
    stampOfText? (t.toDateTime.withOffset offset) = some (t, offset) := by
  obtain ⟨⟨⟨year, month, day, hdate⟩, ⟨hour, minute, second, nano, htime⟩⟩, hyear⟩ := t
  replace hplain : 0 ≤ year ∧ year ≤ 9999 := hplain
  have hyearText : yearText year = padded 4 year.toNat := if_pos hplain
  have htoNat : (year.toNat : Int) = year := by omega
  have takeYear (rest : List Char) :
      takeNumber? 4 4 (padded 4 year.toNat ++ rest) = some (year.toNat, rest) :=
    takeNumber?_padded_width rest (Nat.le_refl 4) (by decide) (by omega)
  have hdate' : Date.of? year.toNat month day = some ⟨year, month, day, hdate⟩ := by
    rw [htoNat, Date.of?_eq_some hdate]
  have htext :
      (DateTime.withOffset ⟨⟨year, month, day, hdate⟩, ⟨hour, minute, second, nano, htime⟩⟩
          offset).toList =
        padded 4 year.toNat ++ '-' :: (padded 2 month ++ '-' :: (padded 2 day ++ 'T' ::
        (padded 2 hour ++ ':' :: (padded 2 minute ++ ':' :: (padded 2 second ++
          (shortFraction nano ++ offsetText offset)))))) := by
    simp only [DateTime.withOffset, String.toList_ofList, DateTime.text, Date.text,
      TimeOfDay.text, TimeOfDay.clock, hyearText, List.append_assoc, List.cons_append]
  -- A sign follows the fraction.
  have hsign : NoDigitFirst (offsetText offset) ∧ (offsetText offset).head? ≠ some '.' := by
    unfold offsetText
    split
    · exact ⟨noDigitFirst_cons _ rfl, by simp⟩
    · exact ⟨noDigitFirst_cons _ rfl, by simp⟩
  unfold stampOfText?
  rw [htext]
  refine bind_eq_some_of (takeYear _) ?_
  refine bind_eq_some_of (takeChar?_cons ..) ?_
  refine bind_eq_some_of (takeTwo?_padded _ hdate.lt_hundred.1) ?_
  refine bind_eq_some_of (takeChar?_cons ..) ?_
  refine bind_eq_some_of (takeTwo?_padded _ hdate.lt_hundred.2) ?_
  refine bind_eq_some_of (takeDivider?_cons ..) ?_
  refine bind_eq_some_of (takeTwo?_padded _ htime.lt_hundred.1) ?_
  refine bind_eq_some_of (takeChar?_cons ..) ?_
  refine bind_eq_some_of (takeTwo?_padded _ htime.lt_hundred.2.1) ?_
  refine bind_eq_some_of (takeChar?_cons ..) ?_
  refine bind_eq_some_of (takeTwo?_padded _ htime.lt_hundred.2.2) ?_
  refine bind_eq_some_of (takeFraction?_shortFraction htime.2.2.2 hsign.1 hsign.2) ?_
  refine bind_eq_some_of hdate' ?_
  refine bind_eq_some_of (TimeOfDay.of?_eq_some htime) ?_
  refine bind_eq_some_of (takeOffset?_offsetText hday hminutes) ?_
  refine bind_eq_some_of (LocalTime.of?_toDateTime ⟨_, hyear⟩) ?_
  exact if_pos ⟨rfl, hday⟩

/-! ### Instants -/

theorem TimeOfDay.seconds_lt (t : TimeOfDay) : t.seconds < 86400 := by
  obtain ⟨hh, hm, -, -⟩ := t.valid
  unfold TimeOfDay.seconds
  omega

/-- The seconds since midnight and the fraction tell the time of day, a leap second included. -/
theorem TimeOfDay.withSeconds_seconds (t : TimeOfDay) :
    t.withSeconds t.seconds t.seconds_lt = t := by
  obtain ⟨hh, hm, hs, -⟩ := t.valid
  ext
  · simp only [TimeOfDay.withSeconds, TimeOfDay.seconds]
    omega
  · simp only [TimeOfDay.withSeconds, TimeOfDay.seconds]
    omega
  · simp only [TimeOfDay.withSeconds, TimeOfDay.seconds]
    split <;> omega
  · rfl

theorem DateTime.shift_zero (t : DateTime) : t.shift 0 = t := by
  have hlt := t.time.seconds_lt
  have h0 : ¬ (t.time.seconds : Int) < 0 := by omega
  have h1 : (t.time.seconds : Int) < 86400 := by omega
  have hmod : ((t.time.seconds : Int) % 86400).toNat = t.time.seconds := by omega
  simp only [DateTime.shift, Int.add_zero, if_neg h0, if_pos h1, hmod,
    TimeOfDay.withSeconds_seconds]

theorem Instant.ofOffset?_zero (t : LocalTime) : Instant.ofOffset? t 0 = some ⟨t⟩ := by
  rw [Instant.ofOffset?, Int.neg_zero, DateTime.shift_zero, LocalTime.of?_toDateTime,
    Option.map_some]

/-- The year of the instant is written with four digits and no sign. -/
def Instant.HasPlainYear (t : Instant) : Prop := 0 ≤ t.utc.date.year ∧ t.utc.date.year ≤ 9999

instance (t : Instant) : Decidable t.HasPlainYear := by
  unfold Instant.HasPlainYear; infer_instance

/-- An instant is read back from its column in the years 0 to 9999. -/
theorem Instant.ofColumn?_column {t : Instant} (h : t.HasPlainYear) :
    Instant.ofColumn? t.column = some t := by
  have hstamp : stampOfText? t.column = some (t.utc, 0) :=
    stampOfText?_withOffset (t := t.utc) h (by decide) (by decide)
  rw [Instant.ofColumn?_eq_bind, hstamp, Option.bind_some, Instant.ofOffset?_zero]

/-- An instant of any other year is not read back: its year has a sign. -/
theorem Instant.ofColumn?_column_eq_none {t : Instant} (h : ¬ t.HasPlainYear) :
    Instant.ofColumn? t.column = none := by
  have hyearText : yearText t.utc.date.year = _ := if_neg h
  have hsign : NoDigitFirst t.column.toList := by
    simp only [column, DateTime.withOffset, String.toList_ofList, DateTime.text, Date.text,
      hyearText, List.cons_append, List.append_assoc]
    refine noDigitFirst_cons _ ?_
    split <;> rfl
  rw [Instant.ofColumn?, takeNumber?_eq_none (by decide) hsign]
  rfl

end VisitBooking.Calendar
