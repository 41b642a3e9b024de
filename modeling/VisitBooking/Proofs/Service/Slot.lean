import VisitBooking.Proofs.Calendar.Order
import VisitBooking.Proofs.Service.Contents

/-!
# Two checks of one slot

That a visit begins before it ends is checked twice. The service compares the times, and the store
compares their columns when it writes the row. If the two do not agree, a request passes the rules
of the service and then ends in a fault of the store, or times that are in order only as texts would
be taken.

Which of it is the case depends on the two years alone. Everything after the year is written in a
fixed width, leap seconds and fractions included, so within a year the checks always agree; for
different years they agree just if the texts of the years sort. They do up to the year 9999 unless
both are negative. A slot over the end of the year 9999 is in order for the service and never for
the store, and so is one from a negative year of four digits to a later one.

## Main results

* `Service.slot_checks_agree_iff`: the headline.
* `Service.slot_over_the_end_of_9999`: a booking that the service takes and the store does not.
-/

namespace VisitBooking.Service

open Calendar

/-- **When the service and the store judge a slot alike.** The service takes a slot just if the
store finds its columns in order, for all times in two years whose texts sort and for no two other
years. A year sorts with itself, and all years up to 9999 sort unless both are negative. From a year
up to 9999 to one past it, and from one negative year to a later one, the service takes every slot
and the store none. Where the years sort, a slot that the service takes breaks no constraint of the
store: the row is refused only because of a person or a type of support that comes twice. -/
theorem slot_checks_agree_iff (d : Details) :
    let begins := d.starts.date.year
    let ends := d.ends.date.year
    ((checkSlot d = .ok () ↔ d.columns.starts < d.columns.ends) ↔ YearsSort begins ends) ∧
    (begins = ends ∨ begins ≤ 9999 ∧ ends ≤ 9999 ∧ (0 ≤ begins ∨ 0 ≤ ends) →
      YearsSort begins ends) ∧
    (begins ≤ 9999 ∧ 9999 < ends ∨ -9999 ≤ begins ∧ begins < ends ∧ ends < 0 →
      checkSlot d = .ok () ∧ ¬ d.columns.Valid) ∧
    (YearsSort begins ends → checkSlot d = .ok () →
      (d.columns.Valid ↔
        (d.visitors.map Visitor.person).Nodup ∧ (d.support.map SupportNeed.type).Nodup)) := by
  intro begins ends
  have hagree : (checkSlot d = .ok () ↔ d.columns.starts < d.columns.ends) ↔
      YearsSort begins ends := by
    rw [checkSlot_eq_ok_iff, ← LocalTime.column_agrees_iff]
    exact iff_comm
  have hrefused (hlt : begins < ends) (hsort : ¬ YearsSort begins ends) :
      checkSlot d = .ok () ∧ ¬ d.columns.Valid := by
    have hslot : checkSlot d = .ok () :=
      checkSlot_eq_ok_iff.2 ((DateTime.lt_iff _ _).2 (.inl hlt))
    exact ⟨hslot, fun hvalid => hsort (hagree.1 (iff_of_true hslot hvalid.1))⟩
  refine ⟨hagree, ?_, ?_, fun hsort hslot => ?_⟩
  · rintro (heq | ⟨hbegins, hends, hsign⟩)
    · exact heq ▸ yearsSort_self begins
    · exact yearsSort_of_le hbegins hends hsign
  · rintro (⟨hbegins, hends⟩ | ⟨hbegins, hlt, hends⟩)
    · exact hrefused (by omega) (not_yearsSort_of_past hbegins hends)
    · exact hrefused hlt (not_yearsSort_of_neg hbegins hlt hends)
  · have hcolumns : d.starts.column < d.ends.column := (hagree.2 hsort).1 hslot
    rw [Details.valid_columns_iff]
    exact and_iff_right hcolumns

/-- From the leap second before the year zero to its first moment. -/
theorem slot_checks_agree_iff_leap_second :
    let starts : LocalTime :=
      ⟨⟨⟨-1, 12, 31, by decide⟩, ⟨23, 59, 60, 999999999, by decide⟩⟩, by decide⟩
    let ends : LocalTime := ⟨⟨⟨0, 1, 1, by decide⟩, default⟩, by decide⟩
    let d : Details := { (default : Details) with starts, ends }
    YearsSort (-1) 0 ∧ checkSlot d = .ok () ∧ d.columns.Valid := by
  intro starts ends d
  obtain ⟨hagree, hsort, -, hvalid⟩ := slot_checks_agree_iff d
  have hyears : YearsSort (-1) 0 := hsort (.inr (by decide))
  have hslot : checkSlot d = .ok () := (hagree.2 hyears).2 (by decide +kernel)
  exact ⟨hyears, hslot, (hvalid hyears hslot).2 (by decide)⟩

/-- A booking from the last hour of the year 9999 into the year 10000 passes all checks of the
service and ends in a fault of the store. -/
theorem slot_over_the_end_of_9999 :
    let starts : LocalTime := ⟨⟨⟨9999, 12, 31, by decide⟩, ⟨23, 0, 0, 0, by decide⟩⟩, by decide⟩
    let ends : LocalTime := ⟨⟨⟨10000, 1, 1, by decide⟩, ⟨1, 0, 0, 0, by decide⟩⟩, by decide⟩
    let r : CreateRequest := { (default : CreateRequest) with starts, ends }
    let svc : Service := default
    checkCreate r = .ok () ∧ ¬ r.details.columns.starts < r.details.columns.ends ∧
      (svc.report ⟨default, .refused, .create r⟩ .empty).result = .error (.store .constraint) := by
  decide +kernel

end VisitBooking.Service
