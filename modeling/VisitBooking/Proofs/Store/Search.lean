import VisitBooking.Proofs.Calendar.Order
import VisitBooking.Proofs.Store.Command

/-!
# Searching

A search filters and sorts the rows by their columns, where times are texts. What it finds is told
here by the visits: a filter matches the details of a visit, and visits are in order by when they
begin and then by identity. Both are said with respect to a key of times. With the column as the key
this is what a search does in every case; with the time itself as the key it is what a caller wants,
and it is the same in the years 0 to 9999.

## Main definitions

* `VisitFilter.Matches`, `Visit.Precedes`: filter and order, by a key of times.

## Main results

* `Store.matchesRow_row_iff`, `Store.pairwise_precedes`: how the columns are filtered and sorted.
* `Store.search_of_run`: the headline.
-/

namespace VisitBooking

open Calendar Reference

section Keys

variable {κ : Type} (key : LocalTime → κ)

/-- The visit has everything that the filter asks for. -/
structure VisitFilter.Matches [LE κ] (f : VisitFilter) (d : Details) : Prop where
  prisoner : ∀ p ∈ f.prisoner, d.prisoner = p
  prison : ∀ p ∈ f.prison, d.prison = p
  room : ∀ p ∈ f.room, d.room = p
  starts : ∀ t ∈ f.starts, key t ≤ key d.starts
  ends : ∀ t ∈ f.ends, key d.starts ≤ key t
  status : ∀ st ∈ f.status, d.status = st
  person : ∀ p ∈ f.person, ⟨p⟩ ∈ d.visitors

/-- The visit begins earlier, or at the same time and has the smaller identity. -/
def Visit.Precedes [LT κ] (a b : Visit) : Prop :=
  key a.details.starts < key b.details.starts ∨
    key a.details.starts = key b.details.starts ∧ a.id < b.id

end Keys

theorem Enumeration.name_injective {α : Type} [Enumeration α] :
    Function.Injective (Enumeration.name : α → String) := fun a b h => by
  rw [← Option.some_inj, ← Enumeration.named?_name a, h, Enumeration.named?_name]

namespace Store

variable {s : Store} {v : Visit}

/-! ### The columns -/

theorem givenThen_iff {α : Type} {p : α → Bool} {o : Option α} :
    givenThen p o = true ↔ ∀ a ∈ o, p a = true := by
  cases o <;> simp [givenThen]

/-- Times are compared by their columns. -/
theorem matchesRow_row_iff {f : VisitFilter} {v : Visit} :
    matchesRow f v.row = true ↔ f.Matches LocalTime.column v.details := by
  have hstatus : ∀ st : VisitStatus,
      (v.row.columns.status == Enumeration.name st) = true ↔ v.details.status = st := fun st => by
    rw [beq_iff_eq]
    exact Enumeration.name_injective.eq_iff
  have hperson : ∀ p : Int64,
      v.row.columns.visitors.contains p = true ↔ ⟨p⟩ ∈ v.details.visitors := fun p => by
    rw [List.contains_iff_mem]
    exact ⟨fun h => by obtain ⟨⟨q⟩, hq, rfl⟩ := List.mem_map.1 h; exact hq,
      fun h => List.mem_map.2 ⟨_, h, rfl⟩⟩
  simp only [matchesRow, Bool.and_eq_true, givenThen_iff, hstatus, hperson, beq_iff_eq,
    decide_eq_true_eq]
  constructor
  · rintro ⟨⟨⟨⟨⟨⟨hprisoner, hprison⟩, hroom⟩, hstarts⟩, hends⟩, hst⟩, hvisitor⟩
    exact ⟨hprisoner, hprison, hroom, hstarts, hends, hst, hvisitor⟩
  · rintro ⟨hprisoner, hprison, hroom, hstarts, hends, hst, hvisitor⟩
    exact ⟨⟨⟨⟨⟨⟨hprisoner, hprison⟩, hroom⟩, hstarts⟩, hends⟩, hst⟩, hvisitor⟩

theorem rowLE_iff {a b : Row} : rowLE a b = true ↔
    a.columns.starts < b.columns.starts ∨ a.columns.starts = b.columns.starts ∧ a.id ≤ b.id := by
  simp [rowLE]

theorem rowLE_trans (a b c : Row) (hab : rowLE a b = true) (hbc : rowLE b c = true) :
    rowLE a c = true := by
  rw [rowLE_iff] at hab hbc ⊢
  rcases hab with hab | ⟨hab, hid⟩
  · rcases hbc with hbc | ⟨hbc, -⟩
    · exact .inl (String.lt_trans hab hbc)
    · exact .inl (hbc ▸ hab)
  · rcases hbc with hbc | ⟨hbc, hid'⟩
    · exact .inl (hab ▸ hbc)
    · exact .inr ⟨hab.trans hbc, Int.le_trans hid hid'⟩

theorem rowLE_total (a b : Row) : (rowLE a b || rowLE b a) = true := by
  rw [Bool.or_eq_true, rowLE_iff, rowLE_iff]
  rcases Std.lt_trichotomy a.columns.starts b.columns.starts with hlt | heq | hlt
  · exact .inl (.inl hlt)
  · rcases Int.le_total a.id b.id with hle | hle
    · exact .inl (.inr ⟨heq, hle⟩)
    · exact .inr (.inr ⟨heq.symm, hle⟩)
  · exact .inr (.inl hlt)

/-- Identities differ, so that the order is strict. -/
theorem pairwise_precedes (wf : s.WellFormed) {f : VisitFilter} {vs : List Visit}
    (hrows : vs.map Visit.row = (s.rows.filter (matchesRow f)).mergeSort rowLE) :
    vs.Pairwise (Visit.Precedes LocalTime.column) := by
  have hsorted : (vs.map Visit.row).Pairwise fun a b => rowLE a b = true :=
    hrows ▸ List.pairwise_mergeSort rowLE_trans rowLE_total _
  have hids : ((vs.map Visit.row).map Row.id).Nodup := by
    rw [hrows, ((List.mergeSort_perm ..).map Row.id).nodup_iff]
    exact wf.ids_nodup.sublist (List.filter_sublist.map _)
  have hboth := (List.pairwise_map.1 hsorted).and (List.pairwise_map.1 (List.pairwise_map.1 hids))
  refine hboth.imp fun {a b} h => ?_
  obtain ⟨hle, hne⟩ := h
  rcases rowLE_iff.1 hle with hlt | ⟨heq, hid⟩
  · exact .inl hlt
  · exact .inr ⟨heq, Int.lt_iff_le_and_ne.2 ⟨hid, hne⟩⟩

/-! ### The years 0 to 9999 -/

theorem column_le_column_iff {a b : LocalTime} (ha : a.HasPlainYear) (hb : b.HasPlainYear) :
    a.column ≤ b.column ↔ a.toDateTime ≤ b.toDateTime := by
  have hle : a.toDateTime ≤ b.toDateTime ↔ ¬ b < a := Int.not_lt.symm
  rw [hle, ← LocalTime.column_lt_column_iff hb ha, String.not_lt]

theorem matches_column_iff {f : VisitFilter} {d : Details} (hd : d.starts.HasPlainYear)
    (hstarts : ∀ t ∈ f.starts, t.HasPlainYear) (hends : ∀ t ∈ f.ends, t.HasPlainYear) :
    f.Matches LocalTime.column d ↔ f.Matches LocalTime.toDateTime d := by
  constructor
  · rintro ⟨hprisoner, hprison, hroom, hafter, hbefore, hst, hvisitor⟩
    exact ⟨hprisoner, hprison, hroom,
      fun t ht => (column_le_column_iff (hstarts t ht) hd).1 (hafter t ht),
      fun t ht => (column_le_column_iff hd (hends t ht)).1 (hbefore t ht), hst, hvisitor⟩
  · rintro ⟨hprisoner, hprison, hroom, hafter, hbefore, hst, hvisitor⟩
    exact ⟨hprisoner, hprison, hroom,
      fun t ht => (column_le_column_iff (hstarts t ht) hd).2 (hafter t ht),
      fun t ht => (column_le_column_iff hd (hends t ht)).2 (hbefore t ht), hst, hvisitor⟩

theorem precedes_column_iff {a b : Visit} (ha : a.details.starts.HasPlainYear)
    (hb : b.details.starts.HasPlainYear) :
    Visit.Precedes LocalTime.column a b ↔ Visit.Precedes LocalTime.toDateTime a b := by
  have heq : a.details.starts.column = b.details.starts.column ↔
      a.details.starts.toDateTime = b.details.starts.toDateTime :=
    ⟨fun h => congrArg _ (LocalTime.column_injective h),
      fun h => by simp only [LocalTime.column, h]⟩
  rw [Visit.Precedes, LocalTime.column_lt_column_iff ha hb, heq]
  exact Iff.rfl

/-! ### The headline -/

/-- **What a search finds**, in any store that was written in years of four digits: the stored
visits that have all that is asked for, each of them once and as its reference finds it, in order of
the texts of their beginnings and then of the identities. If the beginnings of the stored visits and
the bounds are in the years 0 to 9999, then bounds and order are those of time. -/
theorem search_of_run (commands : List Command) (hplain : ∀ t ∈ clocks commands, t.HasPlainYear)
    (f : VisitFilter) :
    let s := run commands .empty
    (∀ r ∈ s.rows, ∃ v ∈ s, v.row = r) ∧
    ∃ vs, s.findAll f = .ok vs ∧
      (∀ v, v ∈ vs ↔ v ∈ s ∧ f.Matches LocalTime.column v.details) ∧
      vs.Nodup ∧ vs.Pairwise (Visit.Precedes LocalTime.column) ∧
      (∀ v ∈ vs, v.row ∈ s.rows ∧ s.findByReference v.reference = .ok (some v)) ∧
      ((∀ v ∈ s, v.details.starts.HasPlainYear) → (∀ t ∈ f.starts, t.HasPlainYear) →
        (∀ t ∈ f.ends, t.HasPlainYear) →
        (∀ v, v ∈ vs ↔ v ∈ s ∧ f.Matches LocalTime.toDateTime v.details) ∧
          vs.Pairwise (Visit.Precedes LocalTime.toDateTime)) := by
  intro s
  have hs : s.Readable := readable_run hplain
  obtain ⟨vs, hvs, hyears, hrows⟩ := hs.findAll_eq_ok f
  have hmem : ∀ v, v ∈ vs ↔ v ∈ s ∧ f.Matches LocalTime.column v.details := by
    intro v
    have hrow : v.row ∈ vs.map Visit.row ↔ v.row ∈ s.rows ∧ matchesRow f v.row = true := by
      rw [hrows, List.mem_mergeSort, List.mem_filter]
    rw [← matchesRow_row_iff]
    constructor
    · intro hv
      obtain ⟨hstored, hmatches⟩ := hrow.1 (List.mem_map_of_mem hv)
      exact ⟨hs.mem_iff.2 ⟨hyears v hv, hstored⟩, hmatches⟩
    · rintro ⟨hv, hmatches⟩
      obtain ⟨w, hw, hwv⟩ := List.mem_map.1 (hrow.2 ⟨hs.row_mem hv, hmatches⟩)
      exact Visit.eq_of_row_eq (hyears w hw) (hs.hasPlainYears hv) hwv ▸ hw
  have hordered : vs.Pairwise (Visit.Precedes LocalTime.column) :=
    pairwise_precedes hs.toWellFormed hrows
  refine ⟨fun r hr => ?_, vs, hvs, hmem, ?_, hordered, fun v hv => ?_,
    fun hstored hstarts hends => ?_⟩
  · obtain ⟨v, hv, rfl⟩ := hs.holds r hr
    exact ⟨v, hs.mem_iff.2 ⟨hv, hr⟩, rfl⟩
  · refine hordered.imp fun {a b} hab heq => ?_
    subst heq
    rcases hab with hlt | ⟨-, hlt⟩
    · exact String.lt_irrefl _ hlt
    · exact Int.lt_irrefl _ hlt
  · have hvs : v ∈ s := ((hmem v).1 hv).1
    exact ⟨hs.row_mem hvs, hs.findByReference_eq_ok_some_iff.2 ⟨hvs, rfl⟩⟩
  · refine ⟨fun v => ?_, ?_⟩
    · rw [hmem]
      exact and_congr_right fun hv => matches_column_iff (hstored v hv) hstarts hends
    · exact hordered.imp_of_mem fun {a b} ha hb hab =>
        (precedes_column_iff (hstored a ((hmem a).1 ha).1) (hstored b ((hmem b).1 hb).1)).1 hab

/-- Of two visits of one person, the one that was put in first begins a second later, at a leap
second. -/
theorem search_of_run_leap_second :
    let leap : LocalTime := ⟨⟨⟨1972, 6, 30, by decide⟩, ⟨23, 59, 60, 5, by decide⟩⟩, by decide⟩
    let before : LocalTime := ⟨⟨⟨1972, 6, 30, by decide⟩, ⟨23, 59, 59, 7, by decide⟩⟩, by decide⟩
    let ends : LocalTime := ⟨⟨⟨1972, 7, 1, by decide⟩, default⟩, by decide⟩
    let first : Details := { (default : Details) with starts := leap, ends, visitors := [⟨1⟩, ⟨2⟩] }
    let second : Details := { (default : Details) with starts := before, ends, visitors := [⟨2⟩] }
    let commands : List Command :=
      [.insert .standard default first, .insert .standard default second]
    let filter : VisitFilter := { starts := some before, ends := some leap, person := some 2 }
    let s := run commands .empty
    (∀ t ∈ clocks commands, t.HasPlainYear) ∧
      ∃ vs, s.findAll filter = .ok vs ∧
        ⟨1, Codec.standard.encode 1, first, default, default⟩ ∈ vs ∧
        ⟨2, Codec.standard.encode 2, second, default, default⟩ ∈ vs ∧
        vs.Pairwise (Visit.Precedes LocalTime.toDateTime) := by
  intro leap before ends first second commands filter s
  have hplain : ∀ t ∈ clocks commands, t.HasPlainYear := by decide +kernel
  have hcolumns : ∀ r ∈ s.rows,
      r.columns.starts = leap.column ∨ r.columns.starts = before.column := by
    decide +kernel
  have hstored : ∀ v ∈ s, v.details.starts.HasPlainYear := by
    intro v hv
    rcases hcolumns v.row ((readable_run hplain).row_mem hv) with h | h
    · exact LocalTime.column_injective h ▸ (by decide : leap.HasPlainYear)
    · exact LocalTime.column_injective h ▸ (by decide : before.HasPlainYear)
  obtain ⟨-, vs, hvs, hmem, -, -, -, htimes⟩ := search_of_run commands hplain filter
  exact ⟨hplain, vs, hvs,
    (hmem _).2 ⟨by decide +kernel, matchesRow_row_iff.1 (by decide +kernel)⟩,
    (hmem _).2 ⟨by decide +kernel, matchesRow_row_iff.1 (by decide +kernel)⟩,
    (htimes hstored (by decide +kernel) (by decide +kernel)).2⟩

/-- After a visit was put in in the year 10000 no search that comes upon it has an answer. -/
theorem no_search_in_year_10000 :
    let ends : LocalTime := ⟨⟨⟨1970, 1, 2, by decide⟩, default⟩, by decide⟩
    let visit : Details := { (default : Details) with ends := ends }
    let late : Instant := ⟨⟨⟨10000, 1, 1, by decide⟩, default⟩, by decide⟩
    let s := run [.insert .standard late visit] .empty
    s.rows.length = 1 ∧ s.findAll {} = .error .unreadableTime := by
  decide +kernel

end Store

end VisitBooking
