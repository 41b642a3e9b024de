import VisitBooking.Proofs.Calendar.Column
import VisitBooking.Store.Columns

/-!
# Visits are read back from their columns

The columns of the details of a visit hold all of them: names are names of one value, visit times
are read back in every year, and the parts are kept in order. So a row that holds the columns of
some details is read as a visit with these details, as soon as the instants of its creation and of
its last write are read.

These two are all that can keep a row from being read: the reader of an instant's column takes years
of four digits only.

## Main definitions

* `Visit.row`: the row of a visit.
* `Visit.HasPlainYears`: its two instants are in the years 0 to 9999.

## Main results

* `Details.columns_injective`: different details have different columns.
* `Row.visit_eq_ok_iff`: which visit a row holds.
* `Visit.row_read_back`: a visit is read back from its row.
-/

namespace VisitBooking

open Calendar

/-! ### Reading one column -/

theorem readName_name {α : Type} [Enumeration α] (column : String) (a : α) :
    readName column (Enumeration.name a) = .ok a := by
  rw [readName, Enumeration.named?_name]

theorem readLocalTime_column (t : LocalTime) : readLocalTime t.column = .ok t := by
  rw [readLocalTime, LocalTime.ofColumn?_column]

theorem readInstant_column {t : Instant} (h : t.HasPlainYear) : readInstant t.column = .ok t := by
  rw [readInstant, Instant.ofColumn?_column h]

theorem readInstant_column_eq_error {t : Instant} (h : ¬ t.HasPlainYear) :
    readInstant t.column = .error .unreadableTime := by
  rw [readInstant, Instant.ofColumn?_column_eq_none h]

/-- A column is read as the instant that it was written from, or not at all. -/
theorem readInstant_column_eq_ok_iff {t u : Instant} :
    readInstant t.column = .ok u ↔ t.HasPlainYear ∧ u = t := by
  by_cases hplain : t.HasPlainYear
  · rw [readInstant_column hplain, Except.ok.injEq]
    exact ⟨fun h => ⟨hplain, h.symm⟩, fun h => h.2.symm⟩
  · rw [readInstant_column_eq_error hplain]
    exact iff_of_false nofun fun h => hplain h.1

/-- A column is not read as any other instant than the one that it was written from. -/
theorem eq_of_readInstant_column {t u : Instant} (h : readInstant t.column = .ok u) : u = t :=
  (readInstant_column_eq_ok_iff.1 h).2

theorem readOutcome_name (outcome : Option Outcome) :
    readOutcome (outcome.map Enumeration.name) = .ok outcome := by
  cases outcome with
  | none => rfl
  | some o => rw [Option.map_some, readOutcome, readName_name]; rfl

theorem readNote_columns (n : Note) : readNote (Enumeration.name n.type, n.text) = .ok n := by
  rw [readNote, readName_name]
  rfl

theorem mapM_readNote_columns (notes : List Note) :
    (notes.map fun n => (Enumeration.name n.type, n.text)).mapM readNote = .ok notes := by
  induction notes with
  | nil => rfl
  | cons n notes ih => rw [List.map_cons, List.mapM_cons, readNote_columns, ih]; rfl

/-! ### Reading a row -/

theorem contact_columns (contact : Option Contact) :
    ((contact.map fun c => (c.name, c.telephone)).map fun p => (⟨p.1, p.2⟩ : Contact)) =
      contact := by
  cases contact <;> rfl

theorem visitors_columns (visitors : List Visitor) :
    (visitors.map Visitor.person).map Visitor.mk = visitors := by
  rw [List.map_map, show Visitor.mk ∘ Visitor.person = id from rfl, List.map_id]

theorem support_columns (support : List SupportNeed) :
    ((support.map fun s => (s.type, s.text)).map fun p => (⟨p.1, p.2⟩ : SupportNeed)) =
      support := by
  rw [List.map_map]
  exact List.map_id support

theorem legacy_columns (legacy : Option LegacyData) :
    (legacy.map LegacyData.leadPerson).map LegacyData.mk = legacy := by
  cases legacy <;> rfl

/-- A row with the columns of some details is read as a visit with these details, or not at all
because of one of its instants. -/
theorem Row.visit_of_columns {r : Row} {d : Details} (h : r.columns = d.columns) :
    r.visit = (do
      let created ← readInstant r.created
      let modified ← readInstant r.modified
      return ⟨r.id, r.reference, d, created, modified⟩) := by
  unfold Row.visit
  simp only [h, Details.columns, mapM_readNote_columns, readName_name, readLocalTime_column,
    readOutcome_name, contact_columns, visitors_columns, support_columns, legacy_columns]
  rfl

theorem Row.visit_eq_ok_iff {r : Row} {d : Details} {v : Visit} (h : r.columns = d.columns) :
    r.visit = .ok v ↔ v.id = r.id ∧ v.reference = r.reference ∧ v.details = d ∧
      readInstant r.created = .ok v.created ∧ readInstant r.modified = .ok v.modified := by
  rw [Row.visit_of_columns h]
  cases hc : readInstant r.created with
  | error e => simp [bind, Except.bind]
  | ok created =>
    cases hm : readInstant r.modified with
    | error e => simp [bind, Except.bind]
    | ok modified =>
      obtain ⟨id, reference, details, created', modified'⟩ := v
      simp [bind, Except.bind, pure, Except.pure, eq_comm]

theorem eq_of_readInstant_eq_error {text : String} {fault : StoreFault}
    (h : readInstant text = .error fault) : fault = .unreadableTime := by
  rw [readInstant] at h
  split at h
  · cases h
  · exact (Except.error.inj h).symm

/-- A row whose last write cannot be read cannot be read, whatever its creation. -/
theorem Row.visit_eq_error {r : Row} {d : Details} (h : r.columns = d.columns)
    (hmodified : readInstant r.modified = .error .unreadableTime) :
    r.visit = .error .unreadableTime := by
  rw [Row.visit_of_columns h, hmodified]
  cases hcreated : readInstant r.created with
  | ok created => rfl
  | error fault => rw [eq_of_readInstant_eq_error hcreated]; rfl

/-- The columns hold all details. -/
theorem Details.columns_injective {a b : Details} (h : a.columns = b.columns) : a = b := by
  let r : Row := ⟨0, "", a.columns, (default : Instant).column, (default : Instant).column⟩
  have hread : readInstant r.created = .ok default := readInstant_column (by decide)
  have ha : r.visit = .ok ⟨0, "", a, default, default⟩ :=
    (Row.visit_eq_ok_iff rfl).2 ⟨rfl, rfl, rfl, hread, hread⟩
  exact ((Row.visit_eq_ok_iff h).1 ha).2.2.1

/-! ### Visits and their rows -/

/-- The row of a visit. -/
def Visit.row (v : Visit) : Row where
  id := v.id
  reference := v.reference
  columns := v.details.columns
  created := v.created.column
  modified := v.modified.column

/-- Both instants of the visit are in the years 0 to 9999. -/
structure Visit.HasPlainYears (v : Visit) : Prop where
  created : v.created.HasPlainYear
  modified : v.modified.HasPlainYear

theorem Visit.visit_row {v : Visit} (h : v.HasPlainYears) : v.row.visit = .ok v :=
  (Row.visit_eq_ok_iff rfl).2
    ⟨rfl, rfl, rfl, readInstant_column h.created, readInstant_column h.modified⟩

/-- The row holds all of the visit. -/
theorem Visit.eq_of_row_eq {v w : Visit} (hv : v.HasPlainYears) (hw : w.HasPlainYears)
    (h : v.row = w.row) : v = w := by
  have hvisit : v.row.visit = .ok v := Visit.visit_row hv
  rw [h, Visit.visit_row hw] at hvisit
  exact (Except.ok.inj hvisit).symm

theorem Calendar.Instant.eq_of_column_eq {a b : Instant} (ha : a.HasPlainYear)
    (hb : b.HasPlainYear) (h : a.column = b.column) : a = b := by
  rw [← Option.some_inj, ← Instant.ofColumn?_column ha, h, Instant.ofColumn?_column hb]

end VisitBooking
