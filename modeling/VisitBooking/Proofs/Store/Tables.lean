import VisitBooking.Proofs.Store.Statements

/-!
# The tables refine the store

An operation on the tables gives the answer that the operation on the store gives which they make
up, and afterwards they make up the store that it leaves behind. So what is proved of `Store` holds
of the database: a visit with its parts is written, read and deleted as if it were one row.

The constraints of the schema are part of the relation. They hold of the empty tables, each
operation keeps them, and it is only under them that the first row with a key is the row with that
key, that a deletion takes out one visit at most, and that no part is left without its visit.

An operation that fails in the middle leaves nothing behind, since the transaction gives back the
tables it began with. An operation that is answered with a fault after its last statement does leave
something behind, on both sides: the row is written, but it cannot be read.

## Main definitions

* `Tables.Matches`: one answer, and the tables make up the store and are sound.
* `Store.Command.perform`, `Store.Command.performOn`: a command with its answer, on the store and on
  the tables.

## Main results

* `Tables.Sound.insert`, `.save`, `.update`, `.delete`, `.deleteMany`, `.findByReference`,
  `.findById`, `.findAll`: each operation.
* `Tables.matches_run`: **a run of commands has the same answers on both.**
-/

namespace VisitBooking

open Calendar Reference

namespace Tables

variable {t : Tables} {id : Int} {c : Columns} {now : Instant}

/-! ### Writing -/

/-- One answer, and tables that make up the store and keep to the schema. -/
structure Matches {α : Type} (x : α × Tables) (y : α × Store) : Prop where
  answer : x.1 = y.1
  store : x.2.store = y.2
  sound : x.2.Sound

section Transaction

variable {α ε : Type} {work : Tables → Except ε (α × Tables)}

theorem transaction_of_ok {a : α} {t' : Tables} (h : work t = .ok (a, t')) :
    t.transaction work = (.ok a, t') := by
  rw [transaction, h]

theorem transaction_of_error {e : ε} (h : work t = .error e) :
    t.transaction work = (.error e, t) := by
  rw [transaction, h]

end Transaction

theorem Sound.insert (h : t.Sound) (scheme : Scheme) (now : Instant) (d : Details) :
    Matches (t.insert scheme now d) (t.store.insert scheme now d) := by
  have hwork := h.insertStatements_eq scheme now d
  by_cases hadmits : t.store.Admits (t.store.newRow scheme now d)
  · rw [if_pos hadmits] at hwork
    rw [Tables.insert, transaction_of_ok hwork, Store.insert_of_admits hadmits]
    exact ⟨rfl, h.store_inserted, h.inserted hadmits⟩
  · rw [if_neg hadmits] at hwork
    rw [Tables.insert, transaction_of_error hwork, Store.insert_of_not_admits hadmits]
    exact ⟨rfl, rfl, h⟩

theorem hasVisit_of_row {r : Row} (hr : t.store.rowById? id = some r) : t.HasVisit id := by
  by_contra hnone
  simp [rowById?_eq_none_iff.2 hnone] at hr

/-- The two statements that write a visit into its row. Where a constraint does not hold, one of
them fails. -/
theorem Sound.write_cases (h : t.Sound) {r : Row} (hr : t.store.rowById? id = some r)
    (expected : Option String) (hexpected : expected.isNone ∨ expected = some r.modified)
    (c : Columns) (now : Instant) :
    (∃ count t', count ≠ 0 ∧ c.Valid ∧
      t.updateVisit id c.scalars now.column expected = .ok (count, t') ∧
      t'.writeParts id c = .ok (t.written id c now)) ∨
    (∃ count t', count ≠ 0 ∧ ¬ c.Valid ∧
      t.updateVisit id c.scalars now.column expected = .ok (count, t') ∧
      t'.writeParts id c = .error .constraint) ∨
    (¬ c.Valid ∧ t.updateVisit id c.scalars now.column expected = .error .constraint) := by
  have hvisit : t.HasVisit id := hasVisit_of_row hr
  have hparts : (t.writeColumns (byId id) c.scalars now.column).writeParts id c =
      if c.visitors.Nodup ∧ (c.support.map Prod.fst).Nodup
      then .ok (t.written id c now) else .error .constraint :=
    (writeParts_eq (t := t.writeColumns (byId id) c.scalars now.column) h.notesBounded id c).trans
      (if_congr (and_iff_right fun _ => hasVisit_writeColumns_iff.2 hvisit) rfl rfl)
  obtain ⟨v, hv, rfl, rfl⟩ := h.rowById?_eq_some_iff.1 hr
  have hmeant : isExpected v.id expected v := by
    rcases hexpected with hnone | rfl
    · simp [isExpected, hnone]
    · simp [isExpected, rowOf]
  have hcount : t.visits.countP (isExpected v.id expected) ≠ 0 :=
    Nat.ne_of_gt (List.countP_pos_iff.2 ⟨v, hv, hmeant⟩)
  rw [h.updateVisit_of_mem hv hmeant]
  by_cases hslot : c.scalars.starts < c.scalars.ends
  · rw [if_pos hslot]
    by_cases hkeys : c.visitors.Nodup ∧ (c.support.map Prod.fst).Nodup
    · exact .inl ⟨_, _, hcount, ⟨hslot, hkeys⟩, rfl, hparts.trans (if_pos hkeys)⟩
    · exact .inr (.inl ⟨_, _, hcount, fun hvalid => hkeys hvalid.2, rfl,
        hparts.trans (if_neg hkeys)⟩)
  · exact .inr (.inr ⟨fun hvalid => hslot hvalid.1, if_neg hslot⟩)

/-- A visit is written back if its row is still as it was read. -/
theorem Sound.saveStatements_of_modified (h : t.Sound) (now : Instant) {v : Visit} {r : Row}
    (hr : t.store.rowById? v.id = some r) (hmodified : r.modified = v.modified.column) :
    t.saveStatements now v =
      if v.details.columns.Valid
      then .ok (some (r.write v.details.columns now), t.written v.id v.details.columns now)
      else .error .constraint := by
  rw [saveStatements]
  rcases h.write_cases hr (some v.modified.column) (.inr (congrArg some hmodified.symm))
    v.details.columns now with ⟨_, _, hcount, hvalid, hupdate, hparts⟩ |
    ⟨_, _, hcount, hvalid, hupdate, hparts⟩ | ⟨hvalid, hupdate⟩
  · simp only [hupdate, ok_bind, if_neg hcount, hparts, h.load_written hr hvalid now, if_pos hvalid]
    rfl
  · simp only [hupdate, ok_bind, if_neg hcount, hparts, if_neg hvalid]
    rfl
  · simp only [hupdate, if_neg hvalid]
    rfl

/-- Otherwise its row is not found, for one of two reasons. -/
theorem Sound.saveStatements_of_forall (h : t.Sound) (now : Instant) {v : Visit}
    (hr : ∀ r, t.store.rowById? v.id = some r → r.modified ≠ v.modified.column) :
    t.saveStatements now v =
      .error (if t.HasVisit v.id then .conflict v.id else .noSuchId v.id) := by
  have hnone : ∀ w ∈ t.visits, ¬ isExpected v.id (some v.modified.column) w := by
    intro w hw hexpected
    obtain ⟨hid, hmodified⟩ : w.id = v.id ∧ v.modified.column = w.modified := by
      simpa [isExpected] using hexpected
    exact hr _ (h.rowById?_eq_some_iff.2 ⟨w, hw, hid, rfl⟩) hmodified.symm
  simp only [saveStatements, updateVisit_of_forall hnone, ok_bind, if_true]

theorem Sound.save_of_error (h : t.Sound) {v : Visit} {fault : StoreFault}
    (hwork : t.saveStatements now v = .error fault)
    (hstore : t.store.save now v = (.error fault, t.store)) :
    Matches (t.save now v) (t.store.save now v) := by
  rw [Tables.save, transaction_of_error hwork, hstore]
  exact ⟨rfl, rfl, h⟩

theorem Sound.save (h : t.Sound) (now : Instant) (v : Visit) :
    Matches (t.save now v) (t.store.save now v) := by
  cases hr : t.store.rowById? v.id with
  | none =>
    have hwork := h.saveStatements_of_forall now (v := v) (by simp [hr])
    rw [if_neg (rowById?_eq_none_iff.1 hr)] at hwork
    exact h.save_of_error hwork (by simp only [Store.save, hr])
  | some r =>
    by_cases hmodified : r.modified = v.modified.column
    · have hwork := h.saveStatements_of_modified now hr hmodified
      by_cases hvalid : v.details.columns.Valid
      · rw [Tables.save, transaction_of_ok (hwork.trans (if_pos hvalid)),
          Store.save_of_modified_eq hr hmodified, if_pos hvalid]
        exact ⟨rfl, store_written .., h.written (hasVisit_of_row hr) hvalid now⟩
      · refine h.save_of_error (hwork.trans (if_neg hvalid)) ?_
        rw [Store.save_of_modified_eq hr hmodified, if_neg hvalid]
    · have hwork := h.saveStatements_of_forall now (v := v) (by simp [hr, hmodified])
      rw [if_pos (hasVisit_of_row hr)] at hwork
      exact h.save_of_error hwork (by simp only [Store.save, hr, if_pos hmodified])

section Update

variable {reference : String} {change : Visit → Except Refusal Visit} {r : Row} {v w : Visit}

/-- A change that is accepted is written where the changed visit has its row. -/
theorem Sound.rewriteStatements_of_row (h : t.Sound) (hr : t.store.rowById? w.id = some r) :
    t.rewriteStatements now reference w =
      if w.details.columns.Valid
      then .ok (r.write w.details.columns now, t.written w.id w.details.columns now)
      else .error (.store .constraint) := by
  rw [rewriteStatements]
  rcases h.write_cases hr none (.inl rfl) w.details.columns now with
    ⟨_, _, -, hvalid, hupdate, hparts⟩ | ⟨_, _, -, hvalid, hupdate, hparts⟩ | ⟨hvalid, hupdate⟩
  · simp only [hupdate, Except.mapError, ok_bind, hparts, h.load_written hr hvalid now,
      if_pos hvalid]
    rfl
  · simp only [hupdate, Except.mapError, ok_bind, hparts, if_neg hvalid]
    rfl
  · simp only [hupdate, Except.mapError, if_neg hvalid]
    rfl

/-- If it has none there is nothing to write into, and its parts would belong to no visit. -/
theorem Sound.rewriteStatements_of_none (h : t.Sound) (hr : t.store.rowById? w.id = none) :
    t.rewriteStatements now reference w =
      if w.details.columns.hasParts then .error (.store .constraint)
      else .error (.notFound reference) := by
  have hvisit : ¬ t.HasVisit w.id := rowById?_eq_none_iff.1 hr
  have hunchanged : t.updateVisit w.id w.details.columns.scalars now.column none = .ok (0, t) := by
    refine updateVisit_of_forall fun v hv hmeant => hvisit ⟨v, hv, ?_⟩
    simpa [isExpected] using hmeant
  have hparts := writeParts_eq h.notesBounded w.id w.details.columns
  by_cases hhas : w.details.columns.hasParts
  · rw [if_neg fun hall => hvisit (hall.1 hhas)] at hparts
    simp only [rewriteStatements, hunchanged, Except.mapError, ok_bind, hparts, if_pos hhas]
    rfl
  · obtain ⟨-, hvisitors, hsupport, -, -⟩ : _ ∧ w.details.columns.visitors = [] ∧
        w.details.columns.support = [] ∧ _ ∧ _ := by
      simpa only [hasParts_iff, not_or, not_not] using hhas
    have hkeys : w.details.columns.visitors.Nodup ∧
        (w.details.columns.support.map Prod.fst).Nodup := by simp [hvisitors, hsupport]
    have hsound : (t.withParts w.id w.details.columns).Sound :=
      h.withParts (fun hall => absurd hall hhas) hkeys.1 hkeys.2
    have hnone : (t.withParts w.id w.details.columns).store.rowById? w.id = none :=
      rowById?_eq_none_iff.2 hvisit
    rw [if_pos ⟨fun hall => absurd hall hhas, hkeys⟩] at hparts
    simp only [rewriteStatements, hunchanged, Except.mapError, ok_bind, hparts, hsound.load_byId,
      hnone, if_neg hhas]

theorem Sound.update_of_error (h : t.Sound) {failure : Failure}
    (hwork : t.updateStatements now reference change = .error failure)
    (hstore : t.store.update now reference change = (.error failure, t.store)) :
    Matches (t.update now reference change) (t.store.update now reference change) := by
  rw [Tables.update, transaction_of_error hwork, hstore]
  exact ⟨rfl, rfl, h⟩

theorem Sound.update (h : t.Sound) (now : Instant) (reference : String)
    (change : Visit → Except Refusal Visit) :
    Matches (t.update now reference change) (t.store.update now reference change) := by
  have hload := h.load_byReference reference
  cases hr : t.store.rowByReference? reference with
  | none =>
    refine h.update_of_error ?_ (Store.update_of_missing hr)
    simp only [updateStatements, hload, hr, Except.mapError, ok_bind]
  | some r =>
    cases hv : r.visit with
    | error fault =>
      refine h.update_of_error ?_ (Store.update_of_unreadable hr hv)
      simp only [updateStatements, hload, hr, Except.mapError, ok_bind, hv]
      rfl
    | ok v =>
      cases hchange : change v with
      | error reason =>
        refine h.update_of_error ?_ (Store.update_of_refused hr hv hchange)
        simp only [updateStatements, hload, hr, Except.mapError, ok_bind, hv, hchange]
        rfl
      | ok w =>
        have hwork : t.updateStatements now reference change =
            t.rewriteStatements now reference w := by
          simp only [updateStatements, hload, hr, Except.mapError, ok_bind, hv, hchange]
        cases hrow : t.store.rowById? w.id with
        | none =>
          rw [h.rewriteStatements_of_none hrow] at hwork
          by_cases hhas : w.details.columns.hasParts
          · refine h.update_of_error (hwork.trans (if_pos hhas)) ?_
            simp only [Store.update, hr, hv, hchange, hrow, if_pos hhas]
          · refine h.update_of_error (hwork.trans (if_neg hhas)) ?_
            simp only [Store.update, hr, hv, hchange, hrow, if_neg hhas]
        | some target =>
          rw [h.rewriteStatements_of_row hrow] at hwork
          by_cases hvalid : w.details.columns.Valid
          · rw [Tables.update, transaction_of_ok (hwork.trans (if_pos hvalid))]
            simp only [Store.update, hr, hv, hchange, hrow, if_pos hvalid]
            exact ⟨rfl, store_written .., h.written (hasVisit_of_row hrow) hvalid now⟩
          · refine h.update_of_error (hwork.trans (if_neg hvalid)) ?_
            simp only [Store.update, hr, hv, hchange, hrow, if_neg hvalid]

end Update

/-! ### Reading and deleting -/

theorem mapM_readRow (row : Option Row) : row.mapM Row.visit = Store.readRow row := by
  cases row with
  | none => rfl
  | some r => cases h : r.visit <;> simp [Store.readRow, h, Except.map]

theorem Sound.findByReference (h : t.Sound) (reference : String) :
    t.findByReference reference = t.store.findByReference reference := by
  simp only [Tables.findByReference, h.load_byReference, ok_bind, mapM_readRow]
  rfl

theorem Sound.findById (h : t.Sound) (id : Int) : t.findById id = t.store.findById id := by
  simp only [Tables.findById, h.load_byId, ok_bind, mapM_readRow]
  rfl

theorem Sound.mapM_loadRow (h : t.Sound) {visits : List VisitRow}
    (hmem : ∀ v ∈ visits, v ∈ t.visits) :
    visits.mapM t.loadRow = .ok (visits.map t.rowOf) := by
  induction visits with
  | nil => rfl
  | cons v visits ih =>
    have htail : visits.mapM t.loadRow = .ok (visits.map t.rowOf) :=
      ih fun w hw => hmem w (List.mem_cons_of_mem v hw)
    have hhead : t.loadRow v = .ok (t.rowOf v) :=
      loadRow_eq (h.referenced v (hmem v (List.mem_cons_self ..)))
    rw [List.mapM_cons, hhead, htail]
    rfl

theorem Sound.findAll (h : t.Sound) (f : VisitFilter) : t.findAll f = t.store.findAll f := by
  have hmem : ∀ v ∈ t.select (conditions f), v ∈ t.visits := by
    intro v hv
    exact (List.mem_filter.1 (List.mem_mergeSort.1 hv)).1
  rw [Tables.findAll, h.mapM_loadRow hmem, ok_bind, select_eq]
  rfl

theorem Sound.delete (h : t.Sound) (reference : String) :
    Matches (t.delete reference) (t.store.delete reference) where
  answer := by
    simp only [Tables.delete, h.deleteVisit_fst]
    cases (t.store.delete reference).1 <;> rfl
  store := h.store_deleteVisit reference
  sound := h.deleteVisit reference

theorem Sound.deleteMany (h : t.Sound) (references : List String) :
    Matches (t.deleteMany references) (t.store.deleteMany references) := by
  induction references generalizing t with
  | nil => exact ⟨rfl, rfl, h⟩
  | cons reference references ih =>
    obtain ⟨hanswer, hstore, hsound⟩ := ih (h.deleteVisit reference)
    rw [h.store_deleteVisit] at hanswer hstore
    refine ⟨?_, hstore, hsound⟩
    simp only [Tables.deleteMany, Store.deleteMany, hanswer, h.deleteVisit_fst]

theorem Sound.reopen (h : t.Sound) : t.reopen.Sound := by
  have hstays : ∀ id, t.HasVisit id → t.reopen.HasVisit id := fun _ h => h
  exact {
    ids_nodup := h.ids_nodup
    id_le := h.id_le
    referenced := h.referenced
    references_nodup := h.references_nodup
    slots := h.slots
    contacts := h.contacts.mono hstays
    visitors := h.visitors.mono hstays
    support := h.support.mono hstays
    notes := h.notes.mono hstays
    legacy := h.legacy.mono hstays
    notesBounded := h.notesBounded }

end Tables

/-! ### Runs -/

namespace Store

/-- The answer to a command. -/
inductive Answer where
  | stored (answer : Except StoreFault Visit)
  | updated (answer : Except Failure Visit)
  | found (answer : Except StoreFault (Option Visit))
  | listed (answer : Except StoreFault (List Visit))
  | deleted (was : Bool)
  | counted (count : Nat)
  | opened

namespace Command

/-- A command with its answer. -/
def perform : Command → Store → Answer × Store
  | .insert scheme now d, s => Prod.map .stored id (s.insert scheme now d)
  | .save now v, s => Prod.map .stored id (s.save now v)
  | .update now reference change, s => Prod.map .updated id (s.update now reference change)
  | .findByReference reference, s => (.found (s.findByReference reference), s)
  | .findById key, s => (.found (s.findById key), s)
  | .findAll filter, s => (.listed (s.findAll filter), s)
  | .delete reference, s => Prod.map .deleted id (s.delete reference)
  | .deleteMany references, s => Prod.map .counted id (s.deleteMany references)
  | .reopen, s => (.opened, s.reopen)

/-- The same on the tables. -/
def performOn : Command → Tables → Answer × Tables
  | .insert scheme now d, t => Prod.map .stored id (t.insert scheme now d)
  | .save now v, t => Prod.map .stored id (t.save now v)
  | .update now reference change, t => Prod.map .updated id (t.update now reference change)
  | .findByReference reference, t => (.found (t.findByReference reference), t)
  | .findById key, t => (.found (t.findById key), t)
  | .findAll filter, t => (.listed (t.findAll filter), t)
  | .delete reference, t => Prod.map .deleted id (t.delete reference)
  | .deleteMany references, t => Prod.map .counted id (t.deleteMany references)
  | .reopen, t => (.opened, t.reopen)

theorem perform_snd (c : Command) (s : Store) : (c.perform s).2 = c.apply s := by
  cases c <;> rfl

end Command

/-- Commands one after the other: their answers, and what they leave behind. -/
def performAll {σ : Type} (perform : Command → σ → Answer × σ) :
    List Command → σ → List Answer × σ
  | [], s => ([], s)
  | c :: commands, s =>
    let (answer, s) := perform c s
    let (answers, s) := performAll perform commands s
    (answer :: answers, s)

theorem performAll_snd (commands : List Command) (s : Store) :
    (performAll Command.perform commands s).2 = run commands s := by
  induction commands generalizing s with
  | nil => rfl
  | cons c commands ih =>
    rw [run_cons, ← c.perform_snd]
    exact ih _

end Store

namespace Tables

open Store (Command performAll)

theorem Matches.map {α β : Type} {x : α × Tables} {y : α × Store} (h : Matches x y) (f : α → β) :
    Matches (Prod.map f id x) (Prod.map f id y) :=
  ⟨congrArg f h.answer, h.store, h.sound⟩

/-- A command has one answer on the tables and on the store that they make up, and afterwards they
make up the store that it leaves behind. -/
theorem Sound.performOn (h : t.Sound) (c : Command) :
    Matches (c.performOn t) (c.perform t.store) := by
  cases c with
  | insert scheme now d => exact (h.insert scheme now d).map _
  | save now v => exact (h.save now v).map _
  | update now reference change => exact (h.update now reference change).map _
  | findByReference reference =>
    exact ⟨congrArg Store.Answer.found (h.findByReference reference), rfl, h⟩
  | findById id => exact ⟨congrArg Store.Answer.found (h.findById id), rfl, h⟩
  | findAll filter => exact ⟨congrArg Store.Answer.listed (h.findAll filter), rfl, h⟩
  | delete reference => exact (h.delete reference).map _
  | deleteMany references => exact (h.deleteMany references).map _
  | reopen => exact ⟨rfl, rfl, h.reopen⟩

theorem Sound.performAll (h : t.Sound) (commands : List Command) :
    Matches (performAll Command.performOn commands t)
      (performAll Command.perform commands t.store) := by
  induction commands generalizing t with
  | nil => exact ⟨rfl, rfl, h⟩
  | cons c commands ih =>
    obtain ⟨hanswer, hstore, hsound⟩ := h.performOn c
    obtain ⟨hanswers, hrest, hend⟩ := ih hsound
    rw [hstore] at hanswers hrest
    exact ⟨congrArg₂ List.cons hanswer hanswers, hrest, hend⟩

/-- **A run of commands has the same answers on the tables as on the store, and leaves the same
visits behind.** The constraints of the schema hold all the way. -/
theorem matches_run (commands : List Command) :
    Matches (Store.performAll Command.performOn commands .empty)
      ((Store.performAll Command.perform commands .empty).1, Store.run commands .empty) := by
  rw [← Store.performAll_snd]
  exact sound_empty.performAll commands

end Tables

end VisitBooking
