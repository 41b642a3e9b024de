import Mathlib.Data.List.Induction
import Mathlib.Data.List.Nodup
import VisitBooking.Visit.Basic

/-!
# One entry for each key

What a list of entries comes to, when it is made to have one entry for each key, can be told without
putting the entries in one after the other. The keys are those of the list, each where it comes
first; and an entry is the last one that was given for its key. The first is a matter of the keys
alone, the second one of what follows an entry. Both are shown from the end of the list, where the
last entry is put in.

A list in which no key comes twice is left as it is. So what was put in before can be kept, and
entries that are given later are put into it.

## Main definitions

* `OnePerKey`: the entries of a list, one for each key.
* `Deduplicates`: what is asked of a function that makes lists so.

## Main results

* `onePerKey_dedupBy`: what putting the entries in comes to.
* `pairwise_keys_dedupBy`, `mem_dedupBy_iff`: the places of the keys, and the entries.
* `dedupBy_dedupBy_append`: entries can be put in one list after the other.
* `deduplicates_visitors_and_support`: the headline.
-/

namespace VisitBooking

variable {α κ : Type} [DecidableEq κ] {key : α → κ} {x y : α} {xs ys : List α}

/-- The entries `ys` are those of `xs`, one for each key. -/
structure OnePerKey (key : α → κ) (xs ys : List α) : Prop where
  /-- The keys stand in the order in which they come first. -/
  keys : ys.map key = (xs.map key).eraseDups
  /-- An entry is the last one of its key. -/
  last : ∀ y ∈ ys, ∃ before after, xs = before ++ y :: after ∧ ∀ x ∈ after, key x ≠ key y

theorem dedupBy_concat (key : α → κ) (xs : List α) (x : α) :
    dedupBy key (xs ++ [x]) = upsert key x (dedupBy key xs) := by
  simp [dedupBy]

theorem mem_upsert_self (key : α → κ) (x : α) (ys : List α) : x ∈ upsert key x ys := by
  induction ys with
  | nil => exact List.mem_singleton_self x
  | cons y ys ih =>
    rw [upsert]
    split
    · exact List.mem_cons_self ..
    · exact List.mem_cons_of_mem y ih

/-- An entry that is put in takes the place of the one with its key. -/
theorem eq_or_of_mem_upsert (hnodup : (ys.map key).Nodup) (h : y ∈ upsert key x ys) :
    y = x ∨ y ∈ ys ∧ key x ≠ key y := by
  by_cases hkey : key x = key y
  · exact .inl (List.inj_on_of_nodup_map (nodup_upsert x hnodup) h (mem_upsert_self key x ys)
      hkey.symm)
  · rcases mem_of_mem_upsert h with rfl | hy
    · exact absurd rfl hkey
    · exact .inr ⟨hy, hkey⟩

theorem map_key_dedupBy (key : α → κ) (xs : List α) :
    (dedupBy key xs).map key = (xs.map key).eraseDups := by
  induction xs using List.reverseRecOn with
  | nil => rfl
  | append_singleton xs x ih =>
    have hmem : key x ∈ (xs.map key).eraseDups ↔ key x ∈ xs.map key := List.mem_eraseDups
    rw [dedupBy_concat, map_key_upsert, ih, List.map_append, List.eraseDups_append,
      List.map_singleton, List.removeAll]
    by_cases hx : key x ∈ xs.map key
    · rw [if_pos (hmem.2 hx), List.filter_cons_of_neg (by simpa using hx)]
      exact (List.append_nil _).symm
    · rw [if_neg (mt hmem.1 hx), List.filter_cons_of_pos (by simpa using hx)]
      rfl

theorem last_of_mem_dedupBy (h : y ∈ dedupBy key xs) :
    ∃ before after, xs = before ++ y :: after ∧ ∀ x ∈ after, key x ≠ key y := by
  induction xs using List.reverseRecOn with
  | nil => cases h
  | append_singleton xs x ih =>
    rw [dedupBy_concat] at h
    rcases eq_or_of_mem_upsert (nodup_dedupBy key xs) h with rfl | ⟨hold, hkey⟩
    · exact ⟨xs, [], rfl, nofun⟩
    · obtain ⟨before, after, rfl, hlast⟩ := ih hold
      refine ⟨before, after ++ [x], by simp, ?_⟩
      rw [List.forall_mem_append]
      exact ⟨hlast, by simpa using hkey⟩

theorem onePerKey_dedupBy (key : α → κ) (xs : List α) : OnePerKey key xs (dedupBy key xs) :=
  ⟨map_key_dedupBy key xs, fun _ h => last_of_mem_dedupBy h⟩

/-! ### Places -/

theorem mem_keys_dedupBy (key : α → κ) (xs : List α) (k : κ) :
    k ∈ (dedupBy key xs).map key ↔ k ∈ xs.map key := by
  rw [map_key_dedupBy, List.mem_eraseDups]

/-- A key stands before those that come first after it. -/
theorem pairwise_keys_dedupBy (key : α → κ) (xs : List α) :
    ((dedupBy key xs).map key).Pairwise
      fun k l => (xs.map key).idxOf k < (xs.map key).idxOf l := by
  induction xs using List.reverseRecOn with
  | nil => exact .nil
  | append_singleton xs x ih =>
    have hsame : ∀ k ∈ (dedupBy key xs).map key,
        ((xs ++ [x]).map key).idxOf k = (xs.map key).idxOf k := fun k hk => by
      rw [List.map_append, List.idxOf_append_of_mem ((mem_keys_dedupBy key xs k).1 hk)]
    have hold : ((dedupBy key xs).map key).Pairwise
        fun k l => ((xs ++ [x]).map key).idxOf k < ((xs ++ [x]).map key).idxOf l :=
      ih.imp_of_mem fun hk hl hlt => by rwa [hsame _ hk, hsame _ hl]
    rw [dedupBy_concat, map_key_upsert]
    split
    case isTrue => exact hold
    case isFalse hnew =>
      refine List.pairwise_append.2 ⟨hold, List.pairwise_singleton .., fun k hk l hl => ?_⟩
      -- The new key comes first at the end, where no other one does.
      rw [List.mem_singleton.1 hl, hsame k hk, List.map_append,
        List.idxOf_append_of_notMem (mt (mem_keys_dedupBy key xs _).2 hnew)]
      exact Nat.lt_add_right _ (List.idxOf_lt_length_of_mem ((mem_keys_dedupBy key xs k).1 hk))

/-! ### Entries -/

theorem mem_upsert_of_ne (h : y ∈ ys) (hkey : key y ≠ key x) : y ∈ upsert key x ys := by
  induction ys with
  | nil => cases h
  | cons z ys ih =>
    rw [upsert]
    rcases List.mem_cons.1 h with rfl | hy
    · rw [if_neg hkey]
      exact List.mem_cons_self ..
    · split
      · exact List.mem_cons_of_mem x hy
      · exact List.mem_cons_of_mem z (ih hy)

/-- Entries of other keys do not push out the last one of a key. -/
theorem mem_dedupBy_of_last {before after : List α} (h : ∀ x ∈ after, key x ≠ key y) :
    y ∈ dedupBy key (before ++ y :: after) := by
  induction after using List.reverseRecOn with
  | nil =>
    rw [dedupBy_concat]
    exact mem_upsert_self key y _
  | append_singleton after x ih =>
    rw [List.forall_mem_append, List.forall_mem_singleton] at h
    rw [← List.cons_append, ← List.append_assoc, dedupBy_concat]
    exact mem_upsert_of_ne (ih h.1) h.2.symm

/-- The entries are those that none of the same key follows. -/
theorem mem_dedupBy_iff (key : α → κ) (xs : List α) (y : α) :
    y ∈ dedupBy key xs ↔
      ∃ before after, xs = before ++ y :: after ∧ ∀ x ∈ after, key x ≠ key y := by
  refine ⟨last_of_mem_dedupBy, ?_⟩
  rintro ⟨before, after, rfl, h⟩
  exact mem_dedupBy_of_last h

/-! ### Lists with one entry for each key -/

theorem dedupBy_eq_self_iff (key : α → κ) (xs : List α) :
    dedupBy key xs = xs ↔ (xs.map key).Nodup :=
  ⟨fun h => h ▸ nodup_dedupBy key xs, dedupBy_of_nodup⟩

theorem dedupBy_dedupBy (key : α → κ) (xs : List α) :
    dedupBy key (dedupBy key xs) = dedupBy key xs :=
  dedupBy_of_nodup (nodup_dedupBy key xs)

/-- It makes no difference whether the entries that come first were put in beforehand. -/
theorem dedupBy_dedupBy_append (key : α → κ) (xs ys : List α) :
    dedupBy key (dedupBy key xs ++ ys) = dedupBy key (xs ++ ys) := by
  induction ys using List.reverseRecOn with
  | nil => rw [List.append_nil, List.append_nil, dedupBy_dedupBy]
  | append_singleton ys y ih =>
    rw [← List.append_assoc, ← List.append_assoc, dedupBy_concat, dedupBy_concat, ih]

/-! ### The headline -/

/-- The function `dedup` makes each list of entries one with one entry for each key. -/
structure Deduplicates (key : α → κ) (dedup : List α → List α) : Prop where
  /-- No key comes twice. -/
  nodup : ∀ xs, ((dedup xs).map key).Nodup
  /-- The keys are those that were given. -/
  mem_keys : ∀ xs k, k ∈ (dedup xs).map key ↔ k ∈ xs.map key
  /-- They stand in the order in which they come first. -/
  order : ∀ xs, ((dedup xs).map key).Pairwise
    fun k l => (xs.map key).idxOf k < (xs.map key).idxOf l
  /-- The entries are the last ones of their keys. -/
  mem_iff : ∀ xs y, y ∈ dedup xs ↔
    ∃ before after, xs = before ++ y :: after ∧ ∀ x ∈ after, key x ≠ key y
  /-- Just the lists in which no key comes twice stay as they are. -/
  eq_self_iff : ∀ xs, dedup xs = xs ↔ (xs.map key).Nodup
  /-- Doing it again changes nothing. -/
  idem : ∀ xs, dedup (dedup xs) = dedup xs
  /-- It may be done to the first of two lists beforehand. -/
  append : ∀ xs ys, dedup (xs ++ ys) = dedup (dedup xs ++ ys)

theorem deduplicates_dedupBy (key : α → κ) : Deduplicates key (dedupBy key) where
  nodup := nodup_dedupBy key
  mem_keys := mem_keys_dedupBy key
  order := pairwise_keys_dedupBy key
  mem_iff := mem_dedupBy_iff key
  eq_self_iff := dedupBy_eq_self_iff key
  idem := dedupBy_dedupBy key
  append xs ys := (dedupBy_dedupBy_append key xs ys).symm

/-- **Visitors and support needs that are given again replace the earlier ones in place.** Of each
list of visitors one is kept for each person, and of each list of support needs one for each type:
the last that was given, where the person or type came first. So lists without repetitions stay as
they are, doing it again changes nothing, and what is given later can be added to what was kept. -/
theorem deduplicates_visitors_and_support :
    Deduplicates Visitor.person dedupVisitors ∧ Deduplicates SupportNeed.type dedupSupport :=
  ⟨deduplicates_dedupBy Visitor.person, deduplicates_dedupBy SupportNeed.type⟩

example : dedupSupport [⟨"OTHER", some "first"⟩, ⟨"MASK", none⟩, ⟨"OTHER", some "second"⟩] =
    [⟨"OTHER", some "second"⟩, ⟨"MASK", none⟩] := by
  decide

end VisitBooking
