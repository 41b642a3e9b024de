import VisitBooking.Proofs.Calendar.Column

/-!
# Columns of visit times order as the times do

The store compares times by their texts. A column of a visit time has a part of fixed width for each
of month, day, hour, minute, second and nanosecond, the greater ones first, so two columns of one
year differ first where the times do. What has no fixed width is the year before these parts. A
hyphen follows it, which comes before every digit, so that also the years are compared as texts on
their own: two columns of different years order as the texts of the years do.

These texts order as the years as long as they are written in the same way. A year that is not
written with four digits has a sign, and a sign comes before every digit: the plus sign of the years
past 9999 puts them before all others.

## Main definitions

* `YearsSort`: the texts of two years order as the years.

## Main results

* `DateTime.lt_iff`: date-times are compared part by part.
* `LocalTime.column_lt_column_iff_yearText`: so are their columns, but for the year.
* `LocalTime.column_agrees_iff`: columns order as the times just if the texts of the years do.
* `LocalTime.column_lt_column_iff`: they do in the years 0 to 9999.
-/

namespace VisitBooking.Calendar

open VisitBooking.Text

/-! ### Part by part -/

theorem DateTime.parts_lt (t : DateTime) :
    t.date.month < 13 ∧ t.date.day < 32 ∧ t.time.hour < 24 ∧ t.time.minute < 60 ∧
      t.time.second < 61 ∧ t.time.nano < 1000000000 := by
  obtain ⟨-, hmonth, -, hday⟩ := t.date.valid
  obtain ⟨hhour, hminute, hsecond, hnano⟩ := t.time.valid
  have hdays := daysInMonth_le t.date.year t.date.month
  omega

/-- The parts of `a` after the year are before those of `b`. -/
def DateTime.PartsBefore (a b : DateTime) : Prop :=
  a.date.month < b.date.month ∨ a.date.month = b.date.month ∧
    (a.date.day < b.date.day ∨ a.date.day = b.date.day ∧
    (a.time.hour < b.time.hour ∨ a.time.hour = b.time.hour ∧
    (a.time.minute < b.time.minute ∨ a.time.minute = b.time.minute ∧
    (a.time.second < b.time.second ∨ a.time.second = b.time.second ∧
      a.time.nano < b.time.nano))))

/-- Date-times are compared part by part. -/
theorem DateTime.lt_iff (a b : DateTime) :
    a < b ↔ a.date.year < b.date.year ∨ a.date.year = b.date.year ∧ a.PartsBefore b := by
  have hlt : a < b ↔ a.rank < b.rank := Iff.rfl
  have ha := a.parts_lt
  have hb := b.parts_lt
  rw [hlt, rank, rank, PartsBefore]
  omega

/-! ### Years -/

theorem hyphen_lt_of_isDigit {c : Char} (h : c.isDigit) : '-' < c := by
  rw [Char.lt_def, UInt32.lt_iff_toNat_lt]
  exact Nat.lt_of_lt_of_le (by decide : '-'.toNat < 48) (toNat_of_isDigit h).1

/-- Runs of digits that a hyphen ends are compared first, the shorter one first if the longer one
goes on where it ends. -/
theorem digits_append_lt_iff {ds es s t : List Char} (hds : ∀ c ∈ ds, c.isDigit)
    (hes : ∀ c ∈ es, c.isDigit) :
    ds ++ '-' :: s < es ++ '-' :: t ↔ ds < es ∨ ds = es ∧ s < t := by
  induction ds generalizing es with
  | nil =>
    cases es with
    | nil => simp
    | cons e es =>
      have he : '-' < e := hyphen_lt_of_isDigit (hes e (List.mem_cons_self ..))
      simp [List.cons_lt_cons_iff, he]
  | cons d ds ih =>
    cases es with
    | nil =>
      have hd : '-' < d := hyphen_lt_of_isDigit (hds d (List.mem_cons_self ..))
      have hne : d ≠ '-' := fun h => absurd (h ▸ hd) (by decide)
      have hnot : ¬ d < '-' := Nat.lt_asymm hd
      rw [List.cons_append, List.nil_append, List.cons_lt_cons_iff]
      simp [hne, hnot]
    | cons e es =>
      rw [List.cons_append, List.cons_append, List.cons_lt_cons_iff, List.cons_lt_cons_iff,
        ih (fun c hc => hds c (List.mem_cons_of_mem d hc))
          (fun c hc => hes c (List.mem_cons_of_mem e hc)),
        List.cons.injEq, and_or_left, or_assoc, and_assoc]

/-- A year is a digit or a sign and then digits. -/
theorem exists_yearText (year : Int) :
    ∃ c ds, yearText year = c :: ds ∧ ∀ d ∈ ds, d.isDigit := by
  unfold yearText
  split
  · cases h : padded 4 year.toNat with
    | nil => exact absurd h (padded_ne_nil 4 year.toNat)
    | cons c ds =>
      refine ⟨c, ds, rfl, fun d hd => isDigit_of_mem_padded 4 year.toNat d ?_⟩
      exact h ▸ List.mem_cons_of_mem c hd
  · exact ⟨_, _, rfl, isDigit_of_mem_padded 4 year.natAbs⟩

theorem yearText_injective {x y : Int} (h : yearText x = yearText y) : x = y := by
  have hnil : NoDigitFirst [] := fun _ hc => nomatch hc
  have hx := takeYear?_yearText x hnil
  rw [h, takeYear?_yearText y hnil] at hx
  exact (congrArg Prod.fst (Option.some.inj hx)).symm

/-- The texts of years are compared first, and then what follows the hyphen. -/
theorem yearText_append_lt_iff (x y : Int) (s t : List Char) :
    yearText x ++ '-' :: s < yearText y ++ '-' :: t ↔
      yearText x < yearText y ∨ x = y ∧ s < t := by
  obtain ⟨c, ds, hx, hds⟩ := exists_yearText x
  obtain ⟨e, es, hy, hes⟩ := exists_yearText y
  have heq : x = y ↔ c = e ∧ ds = es := by
    rw [← List.cons.injEq, ← hx, ← hy]
    exact ⟨congrArg yearText, yearText_injective⟩
  rw [heq, hx, hy, List.cons_append, List.cons_append, List.cons_lt_cons_iff,
    List.cons_lt_cons_iff, digits_append_lt_iff hds hes, and_or_left, or_assoc, and_assoc]

/-- The texts of two years order as the years do. -/
def YearsSort (x y : Int) : Prop := yearText x < yearText y ↔ x < y

instance (x y : Int) : Decidable (YearsSort x y) := by
  unfold YearsSort; infer_instance

section

variable {x y : Int}

theorem yearText_of_plain (h : 0 ≤ x) (h' : x ≤ 9999) : yearText x = padded 4 x.toNat :=
  if_pos ⟨h, h'⟩

theorem yearText_of_neg (h : x < 0) : yearText x = '-' :: padded 4 x.natAbs := by
  rw [yearText, if_neg (by omega), if_pos h]

theorem yearText_of_past (h : 9999 < x) : yearText x = '+' :: padded 4 x.natAbs := by
  rw [yearText, if_neg (by omega), if_neg (by omega)]

/-- A sign comes before every digit. -/
theorem sign_lt_padded {c : Char} (hc : c ≤ '-') (s : List Char) (n : Nat) :
    c :: s < padded 4 n := by
  cases h : padded 4 n with
  | nil => exact absurd h (padded_ne_nil 4 n)
  | cons d ds =>
    have hd : d.isDigit := isDigit_of_mem_padded 4 n d (h ▸ List.mem_cons_self ..)
    exact List.cons_lt_cons_iff.2 (.inl (Nat.lt_of_le_of_lt hc (hyphen_lt_of_isDigit hd)))

theorem yearsSort_self (x : Int) : YearsSort x x :=
  iff_of_false (List.lt_irrefl _) (Int.lt_irrefl x)

/-- Years up to 9999 sort, unless both are negative. -/
theorem yearsSort_of_le (hx : x ≤ 9999) (hy : y ≤ 9999) (h : 0 ≤ x ∨ 0 ≤ y) :
    YearsSort x y := by
  unfold YearsSort
  by_cases hxneg : x < 0
  · rw [yearText_of_neg hxneg, yearText_of_plain (by omega) hy]
    exact iff_of_true (sign_lt_padded (Nat.le_refl _) ..) (by omega)
  · by_cases hyneg : y < 0
    · rw [yearText_of_neg hyneg, yearText_of_plain (by omega) hx]
      have hlt := sign_lt_padded (Nat.le_refl '-'.toNat) (padded 4 y.natAbs) x.toNat
      exact iff_of_false (List.lt_asymm hlt) (by omega)
    · rw [yearText_of_plain (by omega) hx, yearText_of_plain (by omega) hy,
        padded_lt_padded_iff (by decide) (by omega) (by omega)]
      omega

/-- The plus sign of a year past 9999 puts it before all years that have none. -/
theorem not_yearsSort_of_past (hx : x ≤ 9999) (hy : 9999 < y) : ¬ YearsSort x y := by
  have hlt : yearText y < yearText x := by
    rw [yearText_of_past hy]
    by_cases hneg : x < 0
    · rw [yearText_of_neg hneg]
      exact List.cons_lt_cons_iff.2 (.inl (by decide))
    · rw [yearText_of_plain (by omega) hx]
      exact sign_lt_padded (by decide) ..
  intro hsort
  exact List.lt_asymm hlt (hsort.2 (by omega))

/-- Negative years of four digits order the wrong way round: the later one has the smaller
number. -/
theorem not_yearsSort_of_neg (hx : -9999 ≤ x) (hlt : x < y) (hy : y < 0) : ¬ YearsSort x y := by
  have hfalse : ¬ yearText x < yearText y := by
    rw [yearText_of_neg (by omega), yearText_of_neg hy, List.cons_lt_cons_iff,
      padded_lt_padded_iff (by decide) (by omega) (by omega)]
    simp only [Char.lt_irrefl, true_and, false_or]
    omega
  exact fun hsort => hfalse (hsort.2 hlt)

end

/-! ### Columns -/

theorem LocalTime.toList_column (t : LocalTime) :
    t.column.toList = yearText t.date.year ++ '-' :: (padded 2 t.date.month ++ '-' ::
      (padded 2 t.date.day ++ 'T' :: (padded 2 t.time.hour ++ ':' :: (padded 2 t.time.minute ++
        ':' :: (padded 2 t.time.second ++ '.' :: (padded 9 t.time.nano ++ [])))))) := by
  simp only [column, String.toList_ofList, Date.text, TimeOfDay.clock, fullFraction,
    List.append_assoc, List.cons_append, List.append_nil]

/-- Columns are compared by the texts of the years and then part by part. -/
theorem LocalTime.column_lt_column_iff_yearText (a b : LocalTime) :
    a.column < b.column ↔ yearText a.date.year < yearText b.date.year ∨
      a.date.year = b.date.year ∧ a.toDateTime.PartsBefore b.toDateTime := by
  have hcons : ∀ (c : Char) (s t : List Char), c :: s < c :: t ↔ s < t := fun c s t => by
    simp
  obtain ⟨hmonth, hday, hhour, hminute, hsecond, hnano⟩ := a.toDateTime.parts_lt
  obtain ⟨hmonth', hday', hhour', hminute', hsecond', hnano'⟩ := b.toDateTime.parts_lt
  rw [String.lt_iff, toList_column, toList_column, yearText_append_lt_iff,
    padded_append_lt_iff (by decide) (by omega) (by omega), hcons,
    padded_append_lt_iff (by decide) (by omega) (by omega), hcons,
    padded_append_lt_iff (by decide) (by omega) (by omega), hcons,
    padded_append_lt_iff (by decide) (by omega) (by omega), hcons,
    padded_append_lt_iff (by decide) (by omega) (by omega), hcons,
    padded_append_lt_iff (by decide) (by omega) (by omega)]
  simp only [DateTime.PartsBefore, List.not_lt_nil, and_false, or_false]

/-- Two columns order as the times just if the texts of the years order as the years do. -/
theorem LocalTime.column_agrees_iff (a b : LocalTime) :
    (a.column < b.column ↔ a < b) ↔ YearsSort a.date.year b.date.year := by
  have hlt : a < b ↔ a.toDateTime < b.toDateTime := Iff.rfl
  rw [hlt, DateTime.lt_iff, column_lt_column_iff_yearText, YearsSort]
  by_cases hyear : a.date.year = b.date.year
  · have htexts : ¬ yearText a.date.year < yearText b.date.year := hyear ▸ List.lt_irrefl _
    have hyears : ¬ a.date.year < b.date.year := by omega
    simp only [htexts, hyears, false_or]
  · simp only [hyear, false_and, or_false]

/-- The columns of visit times in the years 0 to 9999 order as the times do. -/
theorem LocalTime.column_lt_column_iff {a b : LocalTime} (ha : a.HasPlainYear)
    (hb : b.HasPlainYear) : a.column < b.column ↔ a < b :=
  (column_agrees_iff a b).2 (yearsSort_of_le ha.2 hb.2 (.inl ha.1))

end VisitBooking.Calendar
