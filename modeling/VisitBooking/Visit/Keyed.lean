/-!
# Collections with keys

Visitors are told apart by the person, support needs by their type. A collection has one entry for
each key; giving a key again replaces the entry where it stands.

## Main definitions

* `upsert`: put an entry in the place of the one with its key, or at the end.
* `dedupBy`: the entries of a list put in one after the other.

## Main results

* `map_key_upsert`: the keys after an entry is put in.
* `nodup_dedupBy`, `dedupBy_of_nodup`: no key comes twice, and a list in which none does stays as it
  is.
* `mem_of_mem_dedupBy`: each entry was in the list.
-/

namespace VisitBooking

variable {α κ : Type} [DecidableEq κ]

/-- Put `x` in the place of the entry with its key, or at the end if there is none. -/
def upsert (key : α → κ) (x : α) : List α → List α
  | [] => [x]
  | y :: ys => if key y = key x then x :: ys else y :: upsert key x ys

/-- One entry for each key, in the order in which the keys come first, and of the entries of one key
the last. -/
def dedupBy (key : α → κ) (xs : List α) : List α := xs.foldl (fun ys x => upsert key x ys) []

/-! ### Keys -/

/-- A key that is new goes to the end; no other key moves. -/
theorem map_key_upsert (key : α → κ) (x : α) (ys : List α) :
    (upsert key x ys).map key =
      if key x ∈ ys.map key then ys.map key else ys.map key ++ [key x] := by
  induction ys with
  | nil => rfl
  | cons y ys ih =>
    by_cases h : key y = key x
    · simp [upsert, h]
    · rw [upsert, if_neg h, List.map_cons, ih]
      have h' : key x ≠ key y := fun e => h e.symm
      by_cases hm : key x ∈ ys.map key <;> simp [hm, h']

theorem nodup_upsert {key : α → κ} {ys : List α} (x : α) (h : (ys.map key).Nodup) :
    ((upsert key x ys).map key).Nodup := by
  rw [map_key_upsert]
  split
  · exact h
  · rename_i hx
    refine List.nodup_append.2 ⟨h, by simp, ?_⟩
    intro a ha b hb hab
    exact hx ((List.mem_singleton.1 hb) ▸ hab ▸ ha)

theorem upsert_of_not_mem {key : α → κ} {x : α} {ys : List α} (h : key x ∉ ys.map key) :
    upsert key x ys = ys ++ [x] := by
  induction ys with
  | nil => rfl
  | cons y ys ih =>
    rw [List.map_cons, List.mem_cons, not_or] at h
    rw [upsert, if_neg (fun e => h.1 e.symm), ih h.2, List.cons_append]

/-- No key comes twice. -/
theorem nodup_dedupBy (key : α → κ) (xs : List α) : ((dedupBy key xs).map key).Nodup := by
  unfold dedupBy
  suffices ∀ ys : List α, (ys.map key).Nodup →
      ((xs.foldl (fun ys x => upsert key x ys) ys).map key).Nodup from this [] (by simp)
  induction xs with
  | nil => exact fun _ h => h
  | cons x xs ih => exact fun ys h => ih _ (nodup_upsert x h)

theorem mem_of_mem_upsert {key : α → κ} {x y : α} {ys : List α} (h : y ∈ upsert key x ys) :
    y = x ∨ y ∈ ys := by
  induction ys with
  | nil => exact .inl (List.mem_singleton.1 h)
  | cons z ys ih =>
    rw [upsert] at h
    split at h
    · exact (List.mem_cons.1 h).imp_right (List.mem_cons_of_mem z)
    · rcases List.mem_cons.1 h with rfl | h
      · exact .inr (List.mem_cons_self ..)
      · exact (ih h).imp_right (List.mem_cons_of_mem z)

/-- No entry is made up. -/
theorem mem_of_mem_dedupBy {key : α → κ} {xs : List α} {y : α} (h : y ∈ dedupBy key xs) :
    y ∈ xs := by
  unfold dedupBy at h
  suffices ∀ ys : List α, y ∈ xs.foldl (fun ys x => upsert key x ys) ys → y ∈ ys ∨ y ∈ xs from
    (this [] h).resolve_left List.not_mem_nil
  clear h
  induction xs with
  | nil => exact fun ys h => .inl h
  | cons x xs ih =>
    intro ys h
    rcases ih _ h with h | h
    · rcases mem_of_mem_upsert h with rfl | h
      · exact .inr (List.mem_cons_self ..)
      · exact .inl h
    · exact .inr (List.mem_cons_of_mem x h)

/-- Entries of different keys stay as they are. -/
theorem dedupBy_of_nodup {key : α → κ} {xs : List α} (h : (xs.map key).Nodup) :
    dedupBy key xs = xs := by
  unfold dedupBy
  suffices ∀ ys : List α, ((ys ++ xs).map key).Nodup →
      xs.foldl (fun ys x => upsert key x ys) ys = ys ++ xs by
    simpa using this [] (by simpa using h)
  clear h
  induction xs with
  | nil => simp
  | cons x xs ih =>
    intro ys h
    have hx : key x ∉ ys.map key := by
      rw [List.map_append, List.map_cons] at h
      exact fun hm => (List.nodup_append.1 h).2.2 _ hm _ (List.mem_cons_self ..) rfl
    rw [List.foldl_cons, upsert_of_not_mem hx, ih (ys ++ [x]) (by simpa using h)]
    simp

end VisitBooking
