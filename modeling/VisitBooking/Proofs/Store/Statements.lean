import VisitBooking.Store.Tables
import VisitBooking.Proofs.Store.Command

/-!
# What the statements on the tables do

`Store` keeps a visit in one row, `Tables` in several. `Tables.store` puts the rows together again.
This file says of each statement, or of a few that follow each other, what becomes of that store,
and that the constraints of the schema still hold.

Two facts carry this. The parts of a visit are deleted before new ones are put in, so a key can only
be taken by a part of the same write, and the parts of other visits are not touched. And a key is
never given out twice, so a new visit finds no parts that an old one left: parts belong to visits
that are there, and those have keys up to the last one that was given out.

It does not matter which statement of several fails. What the others did is undone, and all
constraints are told alike; so where statements are taken together there is one condition.

## Main definitions

* `Tables.store`: the store that the tables make up.
* `Tables.Sound`: the constraints that the schema declares.
* `Tables.withParts`, `Tables.inserted`, `Tables.written`: the tables after a write that succeeds.

## Main results

* `Tables.writeParts_eq`: the statements that replace the parts of a visit.
* `Tables.columns_withParts_self`, `Tables.columns_withParts_of_ne`: what is read afterwards.
* `Tables.Sound.insertStatements_eq`, `Tables.store_written`, `Tables.Sound.store_deleteVisit`,
  `Tables.select_eq`: putting in, writing, deleting and searching, in terms of the store.
-/

namespace VisitBooking

open Calendar Reference

namespace Tables

variable {α κ : Type} {t : Tables} {id other : Int} {c : Columns} {parts : List (ChildRow α)}
  {values : List α}

/-! ### The parts of a visit -/

@[simp] theorem partsOf_append (parts parts' : List (ChildRow α)) :
    partsOf id (parts ++ parts') = partsOf id parts ++ partsOf id parts' := by
  simp [partsOf]

@[simp] theorem partsOf_map_mk_self : partsOf id (values.map (ChildRow.mk id)) = values := by
  simp [partsOf, List.filter_map, Function.comp_def]

theorem partsOf_map_mk_of_ne (h : other ≠ id) :
    partsOf other (values.map (ChildRow.mk id)) = [] := by
  simp [partsOf, List.filter_map, Function.comp_def, h.symm]

@[simp] theorem partsOf_others_self : partsOf id (others id parts) = [] := by
  simp [partsOf, others, List.filter_filter]

theorem partsOf_others_of_ne (h : other ≠ id) :
    partsOf other (others id parts) = partsOf other parts := by
  rw [partsOf, others, List.filter_filter]
  congr 1
  refine List.filter_congr fun p _ => ?_
  by_cases hp : p.visit = other <;> simp [hp, h]

/-- The parts of a visit that is not deleted stay. -/
theorem partsOf_cascade {deleted : List VisitRow} (h : ∀ v ∈ deleted, v.id ≠ id) :
    partsOf id (cascade deleted parts) = partsOf id parts := by
  rw [partsOf, cascade, List.filter_filter]
  congr 1
  refine List.filter_congr fun p _ => ?_
  by_cases hp : p.visit = id
  · simpa [hp] using h
  · simp [hp]

/-! ### Places -/

theorem map_placed {β : Type} (f : α → β) (values : List α) (first : Nat) :
    (placed values first).map (fun p => f p.value) = values.map f := by
  rw [placed, List.map_map]
  calc (values.zipIdx first).map (f ∘ Prod.fst)
      = ((values.zipIdx first).map Prod.fst).map f := List.map_map.symm
    _ = values.map f := by rw [List.zipIdx_map_fst]

theorem map_value_placed (values : List α) (first : Nat) :
    (placed values first).map Placed.value = values :=
  (map_placed (fun a => a) values first).trans (List.map_id' values)

theorem pairwise_placed (values : List α) (first : Nat) :
    (placed values first).Pairwise fun a b => a.place < b.place := by
  have hplaces : ((values.zipIdx first).map Prod.snd).Pairwise (· < ·) := by
    rw [List.zipIdx_map_snd]
    exact List.pairwise_lt_range'
  exact List.pairwise_map.2 (List.pairwise_map.1 hplaces)

theorem inOrder_placed (values : List α) (first : Nat) :
    inOrder (placed values first) = values := by
  have hsorted : (placed values first).Pairwise fun a b => decide (a.place ≤ b.place) = true :=
    (pairwise_placed values first).imp fun h => decide_eq_true (Nat.le_of_lt h)
  rw [inOrder, List.mergeSort_of_pairwise hsorted, map_value_placed]

theorem mem_inOrder {values : List (Placed α)} {a : α} :
    a ∈ inOrder values ↔ ∃ p ∈ values, p.value = a := by
  simp [inOrder]

@[simp] theorem placed_eq_nil_iff {first : Nat} : placed values first = [] ↔ values = [] := by
  simp [placed]

theorem place_of_mem_placed {first : Nat} {p : Placed α} (h : p ∈ placed values first) :
    first ≤ p.place ∧ p.place < first + values.length := by
  obtain ⟨⟨a, n⟩, hmem, rfl⟩ := List.mem_map.1 h
  exact ⟨List.le_snd_of_mem_zipIdx hmem, List.snd_lt_add_of_mem_zipIdx hmem⟩

/-! ### Writing the parts of a visit -/

/-- A row is put in if its visit is there and its key is not. So are rows one after the other, if
besides their keys differ. -/
theorem insertParts_eq (t : Tables) (same : ChildRow α → ChildRow α → Bool) (id : Int)
    (values : List α) (rows : List (ChildRow α)) :
    insertParts t same id values rows =
      if (values ≠ [] → t.HasVisit id) ∧ (∀ q ∈ rows, ∀ a ∈ values, ¬ same q ⟨id, a⟩) ∧
          values.Pairwise (fun a b => ¬ same ⟨id, a⟩ ⟨id, b⟩)
      then .ok (rows ++ values.map (ChildRow.mk id)) else .error .constraint := by
  induction values generalizing rows with
  | nil => simp [insertParts, pure, Except.pure]
  | cons a values ih =>
    have hcons : insertParts t same id (a :: values) rows =
        insertPart t same rows ⟨id, a⟩ >>= insertParts t same id values := by
      rw [insertParts, List.map_cons, List.foldlM_cons]
      rfl
    rw [hcons, insertPart]
    split
    case isTrue h =>
      show insertParts t same id values (rows ++ [⟨id, a⟩]) = _
      rw [ih, List.append_assoc]
      refine if_congr ?_ rfl rfl
      simp only [h.1, implies_true, true_and, List.forall_mem_append, List.forall_mem_cons,
        List.pairwise_cons]
      constructor
      · rintro ⟨⟨hrows, hnew, -⟩, hpair⟩
        exact ⟨fun q hq => ⟨h.2 q hq, hrows q hq⟩, hnew, hpair⟩
      · rintro ⟨hrows, hnew, hpair⟩
        exact ⟨⟨fun q hq => (hrows q hq).2, hnew, by simp⟩, hpair⟩
    case isFalse h =>
      refine (if_neg ?_).symm
      rintro ⟨hvisit, hrows, -⟩
      exact h ⟨hvisit (List.cons_ne_nil a values), fun q hq => hrows q hq a List.mem_cons_self⟩

theorem not_sameKey_of_mem_others [BEq κ] {key : α → κ} {q : ChildRow α} (h : q ∈ others id parts)
    (a : α) : ¬ sameKey key q ⟨id, a⟩ := by
  have hne : q.visit ≠ id := by simpa using (List.mem_filter.1 h).2
  simp [sameKey, hne]

theorem pairwise_not_sameKey_iff [BEq κ] [LawfulBEq κ] {key : α → κ} :
    values.Pairwise (fun a b => ¬ sameKey key ⟨id, a⟩ ⟨id, b⟩) ↔ (values.map key).Nodup := by
  simp [sameKey, List.Nodup, List.pairwise_map]

/-- The parts of a visit are put in after those it had before are taken out, so it is only among
themselves that two keys can be the same. -/
theorem insertParts_others [DecidableEq κ] [BEq κ] [LawfulBEq κ] (t : Tables) (key : α → κ)
    (id : Int) (values : List α) (parts : List (ChildRow α)) :
    insertParts t (sameKey key) id values (others id parts) =
      if (values ≠ [] → t.HasVisit id) ∧ (values.map key).Nodup
      then .ok (others id parts ++ values.map (ChildRow.mk id)) else .error .constraint := by
  have hothers : ∀ q ∈ others id parts, ∀ a ∈ values, ¬ sameKey key q ⟨id, a⟩ :=
    fun q hq a _ => not_sameKey_of_mem_others hq a
  rw [insertParts_eq]
  exact if_congr
    (and_congr_right fun _ => (and_iff_right hothers).trans pairwise_not_sameKey_iff) rfl rfl

/-- The tables with more notes of a visit, under new keys. -/
def withNotes (id : Int) (notes : List (String × String)) (t : Tables) : Tables := { t with
  notes := t.notes ++ (placed notes (t.lastNote + 1)).map (ChildRow.mk id)
  lastNote := t.lastNote + notes.length }

/-- Every key of a note is one that was given out. -/
def NotesBounded (t : Tables) : Prop := ∀ p ∈ t.notes, p.value.place ≤ t.lastNote

theorem NotesBounded.withNotes (h : t.NotesBounded) (id : Int) (notes : List (String × String)) :
    (t.withNotes id notes).NotesBounded := by
  intro p hp
  rcases List.mem_append.1 hp with hp | hp
  · exact Nat.le_add_right_of_le (h p hp)
  · obtain ⟨q, hq, rfl⟩ := List.mem_map.1 hp
    have hplace := place_of_mem_placed hq
    simp only [Tables.withNotes]
    omega

theorem NotesBounded.deleteParts (h : t.NotesBounded) (id : Int) :
    (t.deleteParts id).NotesBounded :=
  fun p hp => h p (List.mem_filter.1 hp).1

theorem withNotes_nil : t.withNotes id [] = t := by simp [withNotes, placed]

theorem withNotes_cons (note : String × String) (notes : List (String × String)) :
    (t.withNotes id [note]).withNotes id notes = t.withNotes id (note :: notes) := by
  simp [withNotes, placed, Nat.add_assoc, Nat.add_comm 1]

/-- A note gets a key that is greater than all before, so it is not taken. -/
theorem NotesBounded.insertNote (h : t.NotesBounded) (id : Int) (note : String × String) :
    insertNote id t note =
      if t.HasVisit id then .ok (t.withNotes id [note]) else .error .constraint := by
  have hfresh : ∀ q ∈ t.notes, ¬ samePlace q ⟨id, note, t.lastNote + 1⟩ := by
    intro q hq
    have hplace : q.value.place ≤ t.lastNote := h q hq
    simp only [samePlace, beq_iff_eq]
    omega
  rw [Tables.insertNote, insertPart, if_congr (and_iff_left hfresh) rfl rfl]
  split <;> rfl

theorem NotesBounded.insertNotes (h : t.NotesBounded) (id : Int)
    (notes : List (String × String)) :
    notes.foldlM (Tables.insertNote id) t =
      if notes ≠ [] → t.HasVisit id then .ok (t.withNotes id notes) else .error .constraint := by
  induction notes generalizing t with
  | nil => rw [withNotes_nil]; rfl
  | cons note notes ih =>
    rw [List.foldlM_cons, h.insertNote]
    by_cases hvisit : t.HasVisit id
    · have htail : notes.foldlM (Tables.insertNote id) (t.withNotes id [note]) =
          .ok ((t.withNotes id [note]).withNotes id notes) :=
        (ih (h.withNotes id [note])).trans (if_pos fun _ => hvisit)
      rw [if_pos hvisit, if_pos fun _ => hvisit, ← withNotes_cons note notes]
      exact htail
    · rw [if_neg hvisit, if_neg fun h => hvisit (h (by simp))]
      rfl

/-- The tables after the parts of a visit are replaced. -/
def withParts (id : Int) (c : Columns) (t : Tables) : Tables := { t with
  contacts := others id t.contacts ++ c.contact.toList.map (ChildRow.mk id)
  visitors := others id t.visitors ++ (placed c.visitors).map (ChildRow.mk id)
  support := others id t.support ++ (placed c.support).map (ChildRow.mk id)
  notes := others id t.notes ++ (placed c.notes (t.lastNote + 1)).map (ChildRow.mk id)
  legacy := others id t.legacy ++ c.legacy.toList.map (ChildRow.mk id)
  lastNote := t.lastNote + c.notes.length }

theorem ok_bind {β ε : Type} (a : α) (f : α → Except ε β) : (Except.ok a >>= f) = f a := rfl

theorem ite_bind {β ε : Type} {p : Prop} [Decidable p] (a : α) (e : ε) (f : α → Except ε β) :
    ((if p then Except.ok a else .error e) >>= f) = if p then f a else .error e := by
  split <;> rfl

theorem hasParts_iff : c.hasParts ↔ c.contact.toList ≠ [] ∨ c.visitors ≠ [] ∨ c.support ≠ [] ∨
    c.notes ≠ [] ∨ c.legacy.toList ≠ [] := by
  cases hcontact : c.contact <;> cases hlegacy : c.legacy <;>
    simp [Columns.hasParts, hcontact, hlegacy, or_assoc]

theorem nodup_map_toList {β : Type} (f : α → β) (o : Option α) : (o.toList.map f).Nodup := by
  cases o <;> simp

/-- **What a visit has is replaced as a whole or not at all.** It is, if the visit is there or has
no parts, and neither a person nor a type of support comes twice. -/
theorem writeParts_eq (h : t.NotesBounded) (id : Int) (c : Columns) :
    t.writeParts id c =
      if (c.hasParts → t.HasVisit id) ∧ c.visitors.Nodup ∧ (c.support.map Prod.fst).Nodup
      then .ok (t.withParts id c) else .error .constraint := by
  have hnotes : (t.deleteParts id).NotesBounded := h.deleteParts id
  have hcontacts : (t.deleteParts id).contacts = others id t.contacts := rfl
  have hvisitors : (t.deleteParts id).visitors = others id t.visitors := rfl
  have hsupport : (t.deleteParts id).support = others id t.support := rfl
  have hlegacy : ((t.deleteParts id).withNotes id c.notes).legacy = others id t.legacy := rfl
  have hdeleted : (t.deleteParts id).HasVisit id ↔ t.HasVisit id := .rfl
  have hwithNotes : ((t.deleteParts id).withNotes id c.notes).HasVisit id ↔ t.HasVisit id := .rfl
  rw [writeParts]
  simp only [hcontacts, hvisitors, hsupport, hnotes.insertNotes id c.notes, insertParts_others,
    ite_bind, hlegacy]
  simp only [← ite_and, hdeleted, hwithNotes]
  refine if_congr ?_ rfl rfl
  have htypes : (placed c.support).map (fun s => s.value.1) = c.support.map Prod.fst :=
    map_placed Prod.fst c.support 0
  rw [hasParts_iff, map_value_placed, htypes]
  simp only [nodup_map_toList, ne_eq, placed_eq_nil_iff, and_true]
  tauto

/-! ### A visit in one row -/

/-- A visit in one row. -/
def rowOf (t : Tables) (v : VisitRow) : Row :=
  ⟨v.id, v.reference.getD "", t.columns v, v.created, v.modified⟩

/-- The store that the tables make up. -/
def store (t : Tables) : Store := ⟨t.visits.map t.rowOf, t.lastVisit, t.catalog⟩

variable {v : VisitRow}

theorem loadRow_eq (h : v.reference.isSome) : t.loadRow v = .ok (t.rowOf v) := by
  obtain ⟨reference, href⟩ := Option.isSome_iff_exists.1 h
  simp [loadRow, rowOf, href]

/-- What is written is read again. -/
theorem columns_withParts_self (hc : v.scalars = c.scalars) (hid : v.id = id) :
    (t.withParts id c).columns v = c := by
  subst hid
  have hcontact : c.contact.toList.head? = c.contact := by cases c.contact <;> rfl
  have hlegacy : c.legacy.toList.head? = c.legacy := by cases c.legacy <;> rfl
  simp only [columns, withParts, hc, Columns.scalars, partsOf_append, partsOf_others_self,
    partsOf_map_mk_self, List.nil_append, hcontact, hlegacy, inOrder_placed]

theorem columns_withParts_of_ne (h : v.id ≠ id) : (t.withParts id c).columns v = t.columns v := by
  simp only [columns, withParts, partsOf_append, partsOf_others_of_ne h, partsOf_map_mk_of_ne h,
    List.append_nil]

theorem rowOf_withParts_self (hc : v.scalars = c.scalars) (hid : v.id = id) :
    (t.withParts id c).rowOf v = ⟨v.id, v.reference.getD "", c, v.created, v.modified⟩ := by
  rw [rowOf, columns_withParts_self hc hid]

theorem rowOf_withParts_of_ne (h : v.id ≠ id) : (t.withParts id c).rowOf v = t.rowOf v := by
  rw [rowOf, columns_withParts_of_ne h]
  rfl

/-! ### The constraints of the schema -/

/-- What the schema declares of a table of parts: a row belongs to a visit, and no two rows have one
key. -/
structure PartsSound (t : Tables) (same : ChildRow α → ChildRow α → Bool)
    (parts : List (ChildRow α)) : Prop where
  belongs : ∀ p ∈ parts, t.HasVisit p.visit
  keys : parts.Pairwise fun p q => ¬ same p q

/-- What the schema declares. In addition there is a reference for each visit, and no key is greater
than the last one that was given out. -/
structure Sound (t : Tables) : Prop where
  ids_nodup : (t.visits.map VisitRow.id).Nodup
  id_le : ∀ v ∈ t.visits, v.id ≤ t.lastVisit
  referenced : ∀ v ∈ t.visits, v.reference.isSome
  references_nodup : (t.visits.map VisitRow.reference).Nodup
  slots : ∀ v ∈ t.visits, v.scalars.starts < v.scalars.ends
  contacts : t.PartsSound (sameKey fun _ => ()) t.contacts
  visitors : t.PartsSound (sameKey Placed.value) t.visitors
  support : t.PartsSound (sameKey fun s => s.value.1) t.support
  notes : t.PartsSound samePlace t.notes
  legacy : t.PartsSound (sameKey fun _ => ()) t.legacy
  notesBounded : t.NotesBounded

variable {t' : Tables} {same : ChildRow α → ChildRow α → Bool}

theorem partsSound_nil : t.PartsSound same [] := ⟨by simp, .nil⟩

theorem sound_empty : Sound .empty where
  ids_nodup := by simp [empty]
  id_le := by simp [empty]
  referenced := by simp [empty]
  references_nodup := by simp [empty]
  slots := by simp [empty]
  contacts := partsSound_nil
  visitors := partsSound_nil
  support := partsSound_nil
  notes := partsSound_nil
  legacy := partsSound_nil
  notesBounded := by simp [empty, NotesBounded]

theorem PartsSound.mono (h : t.PartsSound same parts)
    (hvisits : ∀ id, t.HasVisit id → t'.HasVisit id) : t'.PartsSound same parts :=
  ⟨fun p hp => hvisits _ (h.belongs p hp), h.keys⟩

theorem PartsSound.replace (h : t.PartsSound same parts) (hvisit : values ≠ [] → t.HasVisit id)
    (hfresh : ∀ q ∈ others id parts, ∀ a ∈ values, ¬ same q ⟨id, a⟩)
    (hkeys : values.Pairwise fun a b => ¬ same ⟨id, a⟩ ⟨id, b⟩) :
    t.PartsSound same (others id parts ++ values.map (ChildRow.mk id)) where
  belongs p hp := by
    rcases List.mem_append.1 hp with hp | hp
    · exact h.belongs p (List.mem_filter.1 hp).1
    · obtain ⟨a, ha, rfl⟩ := List.mem_map.1 hp
      exact hvisit (List.ne_nil_of_mem ha)
  keys := by
    refine List.pairwise_append.2 ⟨h.keys.filter _, List.pairwise_map.2 hkeys, ?_⟩
    intro q hq p hp
    obtain ⟨a, ha, rfl⟩ := List.mem_map.1 hp
    exact hfresh q hq a ha

theorem PartsSound.replace_sameKey [BEq κ] [LawfulBEq κ] {key : α → κ}
    (h : t.PartsSound (sameKey key) parts) (hvisit : values ≠ [] → t.HasVisit id)
    (hkeys : (values.map key).Nodup) :
    t.PartsSound (sameKey key) (others id parts ++ values.map (ChildRow.mk id)) :=
  h.replace hvisit (fun _ hq a _ => not_sameKey_of_mem_others hq a)
    (pairwise_not_sameKey_iff.2 hkeys)

theorem PartsSound.replace_notes (h : t.PartsSound samePlace t.notes) (hbounded : t.NotesBounded)
    {notes : List (String × String)} (hvisit : notes ≠ [] → t.HasVisit id) :
    t.PartsSound samePlace
      (others id t.notes ++ (placed notes (t.lastNote + 1)).map (ChildRow.mk id)) := by
  refine h.replace (fun hne => hvisit (placed_eq_nil_iff.not.1 hne)) ?_ ?_
  · intro q hq a ha
    have hold : q.value.place ≤ t.lastNote := hbounded q (List.mem_filter.1 hq).1
    have hnew : t.lastNote + 1 ≤ a.place := (place_of_mem_placed ha).1
    simp only [samePlace, beq_iff_eq]
    omega
  · exact (pairwise_placed ..).imp fun hlt => by simpa [samePlace] using Nat.ne_of_lt hlt

/-- Replacing the parts of a visit keeps to the schema. -/
theorem Sound.withParts (h : t.Sound) (hvisit : c.hasParts → t.HasVisit id)
    (hvisitors : c.visitors.Nodup) (hsupport : (c.support.map Prod.fst).Nodup) :
    (t.withParts id c).Sound := by
  rw [hasParts_iff] at hvisit
  simp only [or_imp] at hvisit
  obtain ⟨hcontact, hvisitor, hneed, hnote, hlegacy⟩ := hvisit
  have hstays : ∀ other, t.HasVisit other → (t.withParts id c).HasVisit other := fun _ h => h
  exact {
    ids_nodup := h.ids_nodup
    id_le := h.id_le
    referenced := h.referenced
    references_nodup := h.references_nodup
    slots := h.slots
    contacts := (h.contacts.replace_sameKey hcontact (nodup_map_toList ..)).mono hstays
    visitors := (h.visitors.replace_sameKey (fun hne => hvisitor (placed_eq_nil_iff.not.1 hne))
      (by rwa [map_value_placed])).mono hstays
    support := (h.support.replace_sameKey (fun hne => hneed (placed_eq_nil_iff.not.1 hne))
      (by rwa [map_placed Prod.fst])).mono hstays
    notes := (h.notes.replace_notes h.notesBounded hnote).mono hstays
    legacy := (h.legacy.replace_sameKey hlegacy (nodup_map_toList ..)).mono hstays
    notesBounded := (h.notesBounded.deleteParts id).withNotes id c.notes }

/-! ### Lookups -/

theorem Sound.load_eq (h : t.Sound) {meant : VisitRow → Bool} {p : Row → Bool}
    (hp : ∀ v ∈ t.visits, p (t.rowOf v) = meant v) :
    t.load meant = .ok (t.store.rows.find? p) := by
  have hsame : t.visits.find? (p ∘ t.rowOf) = t.visits.find? meant := by
    rw [← List.head?_filter, ← List.head?_filter]
    exact congrArg List.head? (List.filter_congr hp)
  have hfind : t.store.rows.find? p = (t.visits.find? meant).map t.rowOf := by
    rw [store, List.find?_map, hsame]
  rw [load, hfind]
  cases hv : t.visits.find? meant with
  | none => rfl
  | some v =>
    have hread : t.loadRow v = .ok (t.rowOf v) :=
      loadRow_eq (h.referenced v (List.mem_of_find?_eq_some hv))
    simp [hread]

theorem Sound.load_byId (h : t.Sound) (id : Int) :
    t.load (byId id) = .ok (t.store.rowById? id) :=
  h.load_eq fun _ _ => rfl

theorem Sound.byReference_eq (h : t.Sound) (hv : v ∈ t.visits) (reference : String) :
    byReference reference v = ((t.rowOf v).reference == reference) := by
  obtain ⟨r, hr⟩ := Option.isSome_iff_exists.1 (h.referenced v hv)
  simp [rowOf, byReference, hr]

theorem Sound.load_byReference (h : t.Sound) (reference : String) :
    t.load (byReference reference) = .ok (t.store.rowByReference? reference) :=
  h.load_eq fun _ hv => (h.byReference_eq hv reference).symm

theorem Sound.rowById?_eq_some_iff (h : t.Sound) {id : Int} {r : Row} :
    t.store.rowById? id = some r ↔ ∃ v ∈ t.visits, v.id = id ∧ t.rowOf v = r := by
  have hids : (t.store.rows.map Row.id).Nodup := by
    have hmap : t.store.rows.map Row.id = t.visits.map VisitRow.id := List.map_map
    rw [hmap]
    exact h.ids_nodup
  rw [Store.rowById?, find?_key_eq_some_iff hids, store, List.mem_map]
  constructor
  · rintro ⟨⟨v, hv, rfl⟩, hid⟩
    exact ⟨v, hv, hid, rfl⟩
  · rintro ⟨v, hv, hid, rfl⟩
    exact ⟨⟨v, hv, rfl⟩, hid⟩

theorem rowById?_eq_none_iff : t.store.rowById? id = none ↔ ¬ t.HasVisit id := by
  simp [Store.rowById?, store, HasVisit, rowOf]

/-! ### Putting a visit in -/

/-- The tables with one more visit. -/
def add (v : VisitRow) (t : Tables) : Tables :=
  { t with visits := t.visits ++ [v], lastVisit := t.lastVisit + 1 }

/-- The row of a visit to be put in. -/
def newVisit (reference : Option String) (now : Instant) (d : Details) (t : Tables) : VisitRow where
  id := (t.lastVisit + 1 : Nat)
  reference := reference
  scalars := d.columns.scalars
  created := now.column
  modified := now.column

variable {scheme : Scheme} {now : Instant} {d : Details}

theorem insertVisit_eq (t : Tables) (now : Instant) (d : Details) :
    t.insertVisit d.columns.scalars now.column =
      if d.columns.scalars.starts < d.columns.scalars.ends
      then .ok (t.lastVisit + 1, t.add (t.newVisit none now d)) else .error .constraint := rfl

/-- The key of a new visit is greater than all before. -/
theorem Sound.id_ne (h : t.Sound) (hv : v ∈ t.visits) : v.id ≠ (t.lastVisit + 1 : Nat) := by
  have hle : v.id ≤ t.lastVisit := h.id_le v hv
  omega

theorem Sound.setReference_add (h : t.Sound) (hid : v.id = (t.lastVisit + 1 : Nat))
    (reference : String) :
    (t.add v).setReference v.id reference =
      if ∃ w ∈ t.visits, w.reference = some reference then .error .constraint
      else .ok (t.add { v with reference := some reference }) := by
  have hne : ∀ w ∈ t.visits, w.id ≠ v.id := fun w hw => hid ▸ h.id_ne hw
  have htaken : (∃ w ∈ (t.add v).visits, w.id ≠ v.id ∧ w.reference = some reference) ↔
      ∃ w ∈ t.visits, w.reference = some reference := by
    simp only [Tables.add, List.mem_append, List.mem_singleton]
    constructor
    · rintro ⟨w, hw | rfl, hid, href⟩
      · exact ⟨w, hw, href⟩
      · exact absurd rfl hid
    · rintro ⟨w, hw, href⟩
      exact ⟨w, .inl hw, hne w hw, href⟩
  have hold : t.visits.map (fun w => if w.id = v.id then { w with reference := some reference }
      else w) = t.visits :=
    (List.map_congr_left fun w hw => if_neg (hne w hw)).trans (List.map_id' t.visits)
  rw [setReference]
  simp only [htaken]
  simp only [Tables.add, List.map_append, hold, List.map_cons, List.map_nil, if_true]

theorem HasVisit.add (h : t.HasVisit id) (v : VisitRow) : (t.add v).HasVisit id := by
  obtain ⟨w, hw, hid⟩ := h
  exact ⟨w, List.mem_append_left _ hw, hid⟩

theorem Sound.add (h : t.Sound) (hid : v.id = (t.lastVisit + 1 : Nat))
    (href : v.reference.isSome) (hfresh : ∀ w ∈ t.visits, w.reference ≠ v.reference)
    (hslot : v.scalars.starts < v.scalars.ends) : (t.add v).Sound where
  ids_nodup := by
    simp only [Tables.add, List.map_append, List.map_cons, List.map_nil]
    refine List.nodup_append.2 ⟨h.ids_nodup, by simp, ?_⟩
    intro id hmem other hother
    obtain ⟨w, hw, rfl⟩ := List.mem_map.1 hmem
    rw [List.mem_singleton.1 hother, hid]
    exact h.id_ne hw
  id_le w hw := by
    have hle : ((t.add v).lastVisit : Int) = t.lastVisit + 1 := by simp [Tables.add]
    rcases List.mem_append.1 hw with hw | hw
    · have hw' : w.id ≤ t.lastVisit := h.id_le w hw
      omega
    · rw [List.mem_singleton.1 hw, hid, hle]
      omega
  referenced := List.forall_mem_append.2 ⟨h.referenced, by simpa using href⟩
  references_nodup := by
    simp only [Tables.add, List.map_append, List.map_cons, List.map_nil]
    refine List.nodup_append.2 ⟨h.references_nodup, by simp, ?_⟩
    intro reference hmem other hother
    obtain ⟨w, hw, rfl⟩ := List.mem_map.1 hmem
    rw [List.mem_singleton.1 hother]
    exact hfresh w hw
  slots := List.forall_mem_append.2 ⟨h.slots, by simpa using hslot⟩
  contacts := h.contacts.mono fun _ hv => hv.add v
  visitors := h.visitors.mono fun _ hv => hv.add v
  support := h.support.mono fun _ hv => hv.add v
  notes := h.notes.mono fun _ hv => hv.add v
  legacy := h.legacy.mono fun _ hv => hv.add v
  notesBounded := h.notesBounded

/-- The tables with one more visit and its parts make up the store with one more row. -/
theorem Sound.store_add_withParts (h : t.Sound) (hid : v.id = (t.lastVisit + 1 : Nat))
    (hc : v.scalars = c.scalars) :
    ((t.add v).withParts v.id c).store =
      t.store.add ⟨v.id, v.reference.getD "", c, v.created, v.modified⟩ := by
  have hold : ∀ w ∈ t.visits, ((t.add v).withParts v.id c).rowOf w = t.rowOf w := by
    intro w hw
    have hne : w.id ≠ v.id := hid ▸ h.id_ne hw
    exact rowOf_withParts_of_ne hne
  have hnew : ((t.add v).withParts v.id c).rowOf v =
      ⟨v.id, v.reference.getD "", c, v.created, v.modified⟩ := rowOf_withParts_self hc rfl
  rw [store, Store.add]
  simp only [show ((t.add v).withParts v.id c).visits = t.visits ++ [v] from rfl, List.map_append,
    List.map_congr_left hold, List.map_cons, List.map_nil, hnew]
  rfl

theorem Sound.rowByReference?_isNone_iff (h : t.Sound) {reference : String} :
    (t.store.rowByReference? reference).isNone ↔
      ¬ ∃ w ∈ t.visits, w.reference = some reference := by
  have hrow : ∀ w ∈ t.visits, (t.rowOf w).reference = reference ↔ w.reference = some reference := by
    intro w hw
    simpa [byReference] using (Bool.eq_iff_iff.1 (h.byReference_eq hw reference)).symm
  rw [Store.rowByReference?_isNone_iff]
  simp only [store, List.forall_mem_map, not_exists, not_and]
  exact forall₂_congr fun w hw => (hrow w hw).not

theorem Sound.admits_iff (h : t.Sound) : t.store.Admits (t.store.newRow scheme now d) ↔
    d.columns.scalars.starts < d.columns.scalars.ends ∧
      (¬ ∃ w ∈ t.visits, w.reference = some (scheme.encode (t.lastVisit + 1))) ∧
      d.columns.visitors.Nodup ∧ (d.columns.support.map Prod.fst).Nodup := by
  rw [Store.Admits, ← h.rowByReference?_isNone_iff]
  exact ⟨fun ⟨⟨hslot, hkeys⟩, hnone⟩ => ⟨hslot, hnone, hkeys⟩,
    fun ⟨hslot, hnone, hkeys⟩ => ⟨⟨hslot, hkeys⟩, hnone⟩⟩

/-- The tables after a visit is put in. -/
def inserted (scheme : Scheme) (now : Instant) (d : Details) (t : Tables) : Tables :=
  (t.add (t.newVisit (some (scheme.encode (t.lastVisit + 1))) now d)).withParts
    (t.lastVisit + 1 : Nat) d.columns

theorem hasVisit_add_newVisit {reference : Option String} :
    (t.add (t.newVisit reference now d)).HasVisit (t.lastVisit + 1 : Nat) :=
  ⟨t.newVisit reference now d, by simp [Tables.add], rfl⟩

theorem Sound.inserted (h : t.Sound) (hadmits : t.store.Admits (t.store.newRow scheme now d)) :
    (t.inserted scheme now d).Sound := by
  obtain ⟨hslot, hfresh, hvisitors, hsupport⟩ := h.admits_iff.1 hadmits
  have hadd : (t.add (t.newVisit (some (scheme.encode (t.lastVisit + 1))) now d)).Sound :=
    h.add rfl rfl (fun w hw href => hfresh ⟨w, hw, href⟩) hslot
  exact hadd.withParts (fun _ => hasVisit_add_newVisit) hvisitors hsupport

theorem Sound.store_inserted (h : t.Sound) :
    (t.inserted scheme now d).store = t.store.add (t.store.newRow scheme now d) :=
  h.store_add_withParts rfl rfl

/-- The new visit is what is read at the end. -/
theorem Sound.load_inserted (h : t.Sound) (hadmits : t.store.Admits (t.store.newRow scheme now d)) :
    (t.inserted scheme now d).load (byId (t.lastVisit + 1 : Nat)) =
      .ok (some (t.store.newRow scheme now d)) := by
  rw [(h.inserted hadmits).load_byId]
  congr 1
  exact (h.inserted hadmits).rowById?_eq_some_iff.2
    ⟨t.newVisit _ now d, List.mem_append_right _ (List.mem_singleton_self _), rfl,
      rowOf_withParts_self rfl rfl⟩

/-- What an insert does, whether or not the store takes the row. -/
theorem Sound.insertStatements_eq (h : t.Sound) (scheme : Scheme) (now : Instant) (d : Details) :
    t.insertStatements scheme now d =
      if t.store.Admits (t.store.newRow scheme now d)
      then .ok ((t.lastVisit + 1, some (t.store.newRow scheme now d)), t.inserted scheme now d)
      else .error .constraint := by
  have hset : (t.add (t.newVisit none now d)).setReference (t.lastVisit + 1 : Nat)
        (scheme.encode (t.lastVisit + 1)) =
      if ∃ w ∈ t.visits, w.reference = some (scheme.encode (t.lastVisit + 1))
      then .error .constraint
      else .ok (t.add (t.newVisit (some (scheme.encode (t.lastVisit + 1))) now d)) :=
    h.setReference_add rfl _
  have hwrite := writeParts_eq
    (t := t.add (t.newVisit (some (scheme.encode (t.lastVisit + 1))) now d)) h.notesBounded
    (t.lastVisit + 1 : Nat) d.columns
  rw [insertStatements, insertVisit_eq]
  by_cases hadmits : t.store.Admits (t.store.newRow scheme now d)
  · obtain ⟨hslot, hfresh, hkeys⟩ := h.admits_iff.1 hadmits
    simp only [if_pos hadmits, if_pos hslot, ok_bind, hset, if_neg hfresh, hwrite]
    rw [if_pos ⟨fun _ => hasVisit_add_newVisit, hkeys⟩, ok_bind, ← Tables.inserted,
      h.load_inserted hadmits]
    rfl
  · rw [if_neg hadmits]
    rw [h.admits_iff] at hadmits
    by_cases hslot : d.columns.scalars.starts < d.columns.scalars.ends
    · by_cases htaken : ∃ w ∈ t.visits, w.reference = some (scheme.encode (t.lastVisit + 1))
      · simp only [if_pos hslot, ok_bind, hset, if_pos htaken]
        rfl
      · simp only [if_pos hslot, ok_bind, hset, if_neg htaken, hwrite]
        rw [if_neg fun hall => hadmits ⟨hslot, htaken, hall.2⟩]
        rfl
    · rw [if_neg hslot]
      rfl

/-! ### Writing a visit -/

section WriteColumns

variable {meant meant' : VisitRow → Bool} {scalars : Scalars} {stamp : String}

/-- What holds of all rows holds of them afterwards, if it does of those that are written. -/
theorem forall_writeColumns {P : VisitRow → Prop} (h : ∀ v ∈ t.visits, P v)
    (hwrite : ∀ v, P v → P { v with scalars := scalars, modified := stamp }) :
    ∀ v ∈ (t.writeColumns meant scalars stamp).visits, P v := by
  refine List.forall_mem_map.2 fun v hv => ?_
  split
  · exact hwrite v (h v hv)
  · exact h v hv

/-- Writing columns moves no row and touches neither keys nor references. -/
theorem map_writeColumns {β : Type} (f : VisitRow → β)
    (hf : ∀ v : VisitRow, f { v with scalars := scalars, modified := stamp } = f v) :
    (t.writeColumns meant scalars stamp).visits.map f = t.visits.map f := by
  rw [writeColumns, List.map_map]
  refine List.map_congr_left fun v _ => ?_
  simp only [Function.comp_apply]
  split
  · exact hf v
  · rfl

theorem writeColumns_congr (h : ∀ v ∈ t.visits, meant v = meant' v) :
    t.writeColumns meant scalars stamp = t.writeColumns meant' scalars stamp := by
  rw [writeColumns, writeColumns]
  congr 1
  exact List.map_congr_left fun v hv => by rw [h v hv]

theorem writeColumns_of_forall (h : ∀ v ∈ t.visits, ¬ meant v) :
    t.writeColumns meant scalars stamp = t := by
  rw [writeColumns]
  congr 1
  exact (List.map_congr_left fun v hv => if_neg (h v hv)).trans (List.map_id' t.visits)

theorem hasVisit_writeColumns_iff :
    (t.writeColumns meant scalars stamp).HasVisit other ↔ t.HasVisit other := by
  have hids : (t.writeColumns meant scalars stamp).visits.map VisitRow.id =
    t.visits.map VisitRow.id := map_writeColumns VisitRow.id fun _ => rfl
  have hmem : ∀ t : Tables, t.HasVisit other ↔ other ∈ t.visits.map VisitRow.id :=
    fun t => List.mem_map.symm
  rw [hmem, hmem, hids]

theorem Sound.writeColumns (h : t.Sound) (hslot : scalars.starts < scalars.ends) :
    (t.writeColumns meant scalars stamp).Sound := by
  have hstays : ∀ id, t.HasVisit id → (t.writeColumns meant scalars stamp).HasVisit id :=
    fun _ => hasVisit_writeColumns_iff.2
  have hids : (t.writeColumns meant scalars stamp).visits.map VisitRow.id =
    t.visits.map VisitRow.id := map_writeColumns VisitRow.id fun _ => rfl
  have hreferences : (t.writeColumns meant scalars stamp).visits.map VisitRow.reference =
    t.visits.map VisitRow.reference := map_writeColumns VisitRow.reference fun _ => rfl
  exact {
    ids_nodup := hids ▸ h.ids_nodup
    id_le := forall_writeColumns h.id_le fun _ h => h
    referenced := forall_writeColumns h.referenced fun _ h => h
    references_nodup := hreferences ▸ h.references_nodup
    slots := forall_writeColumns h.slots fun _ _ => hslot
    contacts := h.contacts.mono hstays
    visitors := h.visitors.mono hstays
    support := h.support.mono hstays
    notes := h.notes.mono hstays
    legacy := h.legacy.mono hstays
    notesBounded := h.notesBounded }

/-- The statement that writes columns, where it finds a row. -/
theorem Sound.updateVisit_of_mem (h : t.Sound) {expected : Option String} (hv : v ∈ t.visits)
    (hexpected : isExpected v.id expected v) :
    t.updateVisit v.id scalars stamp expected =
      if scalars.starts < scalars.ends
      then .ok (t.visits.countP (isExpected v.id expected),
        t.writeColumns (byId v.id) scalars stamp)
      else .error .constraint := by
  have hmeant : ∀ w ∈ t.visits, isExpected v.id expected w = byId v.id w := by
    intro w hw
    by_cases hid : w.id = v.id
    · have hsame : w = v := List.inj_on_of_nodup_map h.ids_nodup hw hv hid
      rw [hsame, hexpected]
      exact (beq_self_eq_true v.id).symm
    · simp [isExpected, byId, hid]
  have hany : t.visits.any (isExpected v.id expected) := List.any_eq_true.2 ⟨v, hv, hexpected⟩
  simp only [updateVisit, writeColumns_congr hmeant]
  by_cases hslot : scalars.starts < scalars.ends
  · rw [if_pos hslot, if_neg fun h => h.2 hslot]
  · rw [if_neg hslot, if_pos ⟨hany, hslot⟩]

/-- Where it finds none, nothing is written. -/
theorem updateVisit_of_forall {expected : Option String}
    (h : ∀ v ∈ t.visits, ¬ isExpected id expected v) :
    t.updateVisit id scalars stamp expected = .ok (0, t) := by
  have hany : ¬ t.visits.any (isExpected id expected) := by simpa using h
  have hcount : t.visits.countP (isExpected id expected) = 0 := List.countP_eq_zero.2 h
  simp only [updateVisit, writeColumns_of_forall h, hcount]
  exact if_neg fun h => hany h.1

end WriteColumns

/-- The tables after a visit is written. -/
def written (id : Int) (c : Columns) (now : Instant) (t : Tables) : Tables :=
  (t.writeColumns (byId id) c.scalars now.column).withParts id c

theorem Sound.written (h : t.Sound) (hvisit : t.HasVisit id) (hvalid : c.Valid) (now : Instant) :
    (t.written id c now).Sound :=
  (h.writeColumns hvalid.1).withParts (fun _ => hasVisit_writeColumns_iff.2 hvisit)
    hvalid.2.1 hvalid.2.2

/-- What a row becomes. -/
theorem rowOf_written (v : VisitRow) :
    (t.written id c now).rowOf
        (if byId id v then { v with scalars := c.scalars, modified := now.column } else v) =
      if (t.rowOf v).id = id then (t.rowOf v).write c now else t.rowOf v := by
  by_cases hid : v.id = id
  · rw [if_pos (show byId id v from beq_iff_eq.2 hid), if_pos (show (t.rowOf v).id = id from hid)]
    exact rowOf_withParts_self (v := { v with scalars := c.scalars, modified := now.column })
      rfl hid
  · rw [if_neg (show ¬ byId id v from mt beq_iff_eq.1 hid),
      if_neg (show (t.rowOf v).id ≠ id from hid)]
    exact rowOf_withParts_of_ne hid

theorem store_written (t : Tables) (id : Int) (c : Columns) (now : Instant) :
    (t.written id c now).store = t.store.writeRow id c now := by
  have hrows : (t.written id c now).visits.map (t.written id c now).rowOf =
      (t.visits.map t.rowOf).map fun r => if r.id = id then r.write c now else r := by
    rw [List.map_map]
    exact List.map_map.trans (List.map_congr_left fun v _ => rowOf_written v)
  exact congrArg (fun rows => Store.mk rows t.lastVisit t.catalog) hrows

/-- The visit as it was written is what is read at the end. -/
theorem Sound.load_written (h : t.Sound) {r : Row} (hr : t.store.rowById? id = some r)
    (hvalid : c.Valid) (now : Instant) :
    (t.written id c now).load (byId id) = .ok (some (r.write c now)) := by
  obtain ⟨v, hv, hid, rfl⟩ := h.rowById?_eq_some_iff.1 hr
  have hsound : (t.written id c now).Sound := h.written ⟨v, hv, hid⟩ hvalid now
  rw [hsound.load_byId]
  congr 1
  refine hsound.rowById?_eq_some_iff.2
    ⟨{ v with scalars := c.scalars, modified := now.column }, ?_, hid, ?_⟩
  · exact List.mem_map.2 ⟨v, hv, if_pos (beq_iff_eq.2 hid)⟩
  · exact rowOf_withParts_self rfl hid

/-! ### Deleting a visit -/

section Delete

variable {reference : String}

theorem mem_visits_deleteVisit :
    v ∈ (t.deleteVisit reference).2.visits ↔ v ∈ t.visits ∧ ¬ byReference reference v := by
  simp [deleteVisit]

/-- A part is left only if its visit is. -/
theorem PartsSound.deleteVisit (h : t.PartsSound same parts) (reference : String) :
    (t.deleteVisit reference).2.PartsSound same
      (cascade (t.visits.filter (byReference reference)) parts) where
  belongs p hp := by
    obtain ⟨hp, hstays⟩ := List.mem_filter.1 hp
    obtain ⟨v, hv, hid⟩ := h.belongs p hp
    have hkept : ¬ byReference reference v := by
      intro hmeant
      simp only [Bool.not_eq_true', List.any_eq_false, beq_iff_eq] at hstays
      exact hstays v (List.mem_filter.2 ⟨hv, hmeant⟩) hid
    exact ⟨v, mem_visits_deleteVisit.2 ⟨hv, hkept⟩, hid⟩
  keys := h.keys.filter _

theorem Sound.deleteVisit (h : t.Sound) (reference : String) :
    (t.deleteVisit reference).2.Sound where
  ids_nodup := h.ids_nodup.sublist (List.filter_sublist.map _)
  id_le v hv := h.id_le v (mem_visits_deleteVisit.1 hv).1
  referenced v hv := h.referenced v (mem_visits_deleteVisit.1 hv).1
  references_nodup := h.references_nodup.sublist (List.filter_sublist.map _)
  slots v hv := h.slots v (mem_visits_deleteVisit.1 hv).1
  contacts := h.contacts.deleteVisit reference
  visitors := h.visitors.deleteVisit reference
  support := h.support.deleteVisit reference
  notes := h.notes.deleteVisit reference
  legacy := h.legacy.deleteVisit reference
  notesBounded p hp := h.notesBounded p (List.mem_filter.1 hp).1

/-- Visits that stay keep their parts. -/
theorem Sound.rowOf_deleteVisit (h : t.Sound) (hv : v ∈ (t.deleteVisit reference).2.visits) :
    (t.deleteVisit reference).2.rowOf v = t.rowOf v := by
  obtain ⟨hmem, hkept⟩ := mem_visits_deleteVisit.1 hv
  have hother : ∀ w ∈ t.visits.filter (byReference reference), w.id ≠ v.id := by
    intro w hw hid
    obtain ⟨hw, hmeant⟩ := List.mem_filter.1 hw
    have hsame : w = v := List.inj_on_of_nodup_map h.ids_nodup hw hmem hid
    exact hkept (hsame ▸ hmeant)
  simp only [rowOf, columns, Tables.deleteVisit, partsOf_cascade hother]

theorem Sound.store_deleteVisit (h : t.Sound) (reference : String) :
    (t.deleteVisit reference).2.store = (t.store.delete reference).2 := by
  have hrows : (t.deleteVisit reference).2.visits.map (t.deleteVisit reference).2.rowOf =
      (t.visits.map t.rowOf).filter fun r => r.reference != reference := by
    rw [List.map_congr_left fun v hv => h.rowOf_deleteVisit hv, List.filter_map]
    refine congrArg (List.map t.rowOf) (List.filter_congr fun v hv => ?_)
    exact congrArg (fun b => !b) (h.byReference_eq hv reference)
  exact congrArg (fun rows => Store.mk rows t.lastVisit t.catalog) hrows

/-- No two visits have one reference, so at most one is deleted. -/
theorem Sound.deleteVisit_fst (h : t.Sound) (reference : String) :
    (t.deleteVisit reference).1 = if (t.store.delete reference).1 then 1 else 0 := by
  have hcount : (t.deleteVisit reference).1 =
      (t.visits.map VisitRow.reference).count (some reference) := by
    rw [List.count_eq_countP, List.countP_map, List.countP_eq_length_filter]
    rfl
  have hnone : (t.store.rowByReference? reference).isNone ↔
      ¬ ∃ w ∈ t.visits, w.reference = some reference := h.rowByReference?_isNone_iff
  rw [hcount, h.references_nodup.count]
  refine if_congr ?_ rfl rfl
  rw [List.mem_map, ← not_iff_not, ← hnone]
  simp [Store.delete]

end Delete

/-! ### Searching -/

theorem mem_partsOf {a : α} : a ∈ partsOf id parts ↔ ⟨id, a⟩ ∈ parts := by
  simp only [partsOf, List.mem_map, List.mem_filter, beq_iff_eq]
  constructor
  · rintro ⟨p, ⟨hp, rfl⟩, rfl⟩
    exact hp
  · intro h
    exact ⟨⟨id, a⟩, ⟨h, rfl⟩, rfl⟩

/-- The question whether there is a row for the person is answered by the list of visitors. -/
theorem hasVisitor_holds (person : Int64) : (Condition.hasVisitor person).holds t v =
    (t.rowOf v).columns.visitors.contains person := by
  rw [Bool.eq_iff_iff]
  simp only [Condition.holds, rowOf, columns, List.any_eq_true, List.contains_iff_mem, mem_inOrder,
    mem_partsOf, Bool.and_eq_true, beq_iff_eq]
  constructor
  · rintro ⟨p, hp, hid, hperson⟩
    exact ⟨p.value, hid ▸ hp, hperson⟩
  · rintro ⟨a, ha, hperson⟩
    exact ⟨⟨v.id, a⟩, ha, rfl, hperson⟩

/-- The conditions hold of the visits that the filter lets through. -/
theorem conditions_all (f : VisitFilter) (v : VisitRow) :
    (conditions f).all (Condition.holds t v) = Store.matchesRow f (t.rowOf v) := by
  have hgiven : ∀ {β : Type} (make : β → Condition) (o : Option β),
      (o.map make).toList.all (Condition.holds t v) =
        Store.givenThen (fun a => (make a).holds t v) o := by
    intro β make o
    cases o <;> simp [Store.givenThen]
  simp only [conditions, List.all_append, hgiven, hasVisitor_holds]
  rfl

theorem select_eq (f : VisitFilter) : (t.select (conditions f)).map t.rowOf =
    (t.store.rows.filter (Store.matchesRow f)).mergeSort Store.rowLE := by
  have hfilter : (t.visits.filter fun v => (conditions f).all (Condition.holds t v)) =
      t.visits.filter (Store.matchesRow f ∘ t.rowOf) :=
    List.filter_congr fun v _ => conditions_all f v
  have horder : ∀ a ∈ t.visits.filter (Store.matchesRow f ∘ t.rowOf),
      ∀ b ∈ t.visits.filter (Store.matchesRow f ∘ t.rowOf),
      visitLE a b = Store.rowLE (t.rowOf a) (t.rowOf b) := fun _ _ _ _ => rfl
  rw [select, hfilter, List.map_mergeSort horder, store, List.filter_map]

end Tables

end VisitBooking
