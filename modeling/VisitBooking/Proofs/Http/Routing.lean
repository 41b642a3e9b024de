import VisitBooking.Http.Route

/-!
# Paths of resources

A path is cut into segments to find what it names. The other way round each resource has one path,
`Resource.path`, as long as its reference can stand in a path, `Resource.Proper`. So a path names a
resource exactly if it is the path of it.

## Main definitions

* `Resource.segments`, `Resource.path`, `Resource.Proper`.

## Main results

* `Text.pieces_eq_cons_iff`: pieces put together again.
* `Resource.ofPath?_eq_some_iff`: what a path names.
-/

namespace VisitBooking

namespace Text

/-! ### Pieces put together -/

variable {cut : Char}

theorem pieces_cons_of_ne {c : Char} {s w : List Char} {ws : List (List Char)} (hc : c ≠ cut)
    (h : pieces (· == cut) s = w :: ws) : pieces (· == cut) (c :: s) = (c :: w) :: ws := by
  have hkept : (c == cut) = false := by simpa using hc
  simp only [pieces, hkept, Bool.false_eq_true, if_false, h]

theorem pieces_cons_self (cut : Char) (s : List Char) :
    pieces (· == cut) (cut :: s) = [] :: pieces (· == cut) s := by
  simp [pieces]

theorem pieces_append_of_not_mem {s w : List Char} {ws : List (List Char)} (hw : cut ∉ w)
    (h : pieces (· == cut) s = [] :: ws) : pieces (· == cut) (w ++ s) = w :: ws := by
  induction w with
  | nil => exact h
  | cons c w ih =>
    rw [List.mem_cons, not_or] at hw
    exact pieces_cons_of_ne (Ne.symm hw.1) (ih hw.2)

/-- Texts without the character, put together with it in between, are cut again. -/
theorem pieces_append_flatMap {w : List Char} {ws : List (List Char)}
    (h : ∀ v ∈ w :: ws, cut ∉ v) :
    pieces (· == cut) (w ++ ws.flatMap (cut :: ·)) = w :: ws := by
  obtain ⟨hw, hws⟩ := List.forall_mem_cons.1 h
  refine pieces_append_of_not_mem hw ?_
  clear h hw
  induction ws with
  | nil => rfl
  | cons v vs ih =>
    obtain ⟨hv, hvs⟩ := List.forall_mem_cons.1 hws
    rw [List.flatMap_cons, List.cons_append, pieces_cons_self,
      pieces_append_of_not_mem hv (ih hvs)]

/-- Any text is put together like this. -/
theorem exists_eq_append_flatMap (cut : Char) (s : List Char) :
    ∃ w ws, s = w ++ ws.flatMap (cut :: ·) ∧ ∀ v ∈ w :: ws, cut ∉ v := by
  induction s with
  | nil => exact ⟨[], [], rfl, by simp⟩
  | cons c s ih =>
    obtain ⟨w, ws, rfl, hws⟩ := ih
    by_cases hc : c = cut
    · exact ⟨[], w :: ws, by simp [hc], List.forall_mem_cons.2 ⟨List.not_mem_nil, hws⟩⟩
    · obtain ⟨hw, hws⟩ := List.forall_mem_cons.1 hws
      refine ⟨c :: w, ws, rfl, List.forall_mem_cons.2 ⟨?_, hws⟩⟩
      exact mt List.mem_cons.1 (not_or.2 ⟨Ne.symm hc, hw⟩)

/-- The pieces of a text are the texts that it is put together from. -/
theorem pieces_eq_cons_iff {s w : List Char} {ws : List (List Char)} :
    pieces (· == cut) s = w :: ws ↔
      s = w ++ ws.flatMap (cut :: ·) ∧ ∀ v ∈ w :: ws, cut ∉ v := by
  constructor
  · obtain ⟨v, vs, rfl, hvs⟩ := exists_eq_append_flatMap cut s
    rw [pieces_append_flatMap hvs]
    rintro ⟨⟩
    exact ⟨rfl, hvs⟩
  · rintro ⟨rfl, hws⟩
    exact pieces_append_flatMap hws

end Text

namespace Http

open Text

namespace Resource

/-! ### Resources -/

/-- The segments of the path of a resource. -/
def segments : Resource → List (List Char)
  | .visits => ["visits".toList]
  | .deletion => ["visits".toList, "delete".toList]
  | .visit reference => ["visits".toList, reference]
  | .slot reference => ["visits".toList, reference, "change".toList]
  | .cancellation reference => ["visits".toList, reference, "cancel".toList]
  | .migration => ["migrate-visits".toList]
  | .support => ["visit-support".toList]

/-- The path of a resource: each segment after a slash. -/
def path (resource : Resource) : List Char := resource.segments.flatMap ('/' :: ·)

/-- The reference in the path, if the resource has one. -/
def reference? : Resource → Option (List Char)
  | .visit reference | .slot reference | .cancellation reference => some reference
  | _ => none

/-- The reference of the resource can stand in its path: it has no slash, and where it comes last it
is neither empty nor the name of an action. -/
structure Proper (resource : Resource) : Prop where
  no_slash : ∀ reference ∈ resource.reference?, '/' ∉ reference
  last : ∀ reference, resource = .visit reference → reference ≠ [] ∧ reference ≠ "delete".toList

/-- Where there is no reference, there is nothing to ask of it. -/
theorem Proper.of_no_reference {resource : Resource} (h : resource.reference? = none) :
    resource.Proper where
  no_slash reference hreference := by
    rw [h] at hreference
    cases hreference
  last := by
    rintro reference rfl
    cases h

theorem ofSegments?_eq_some_iff {segments : List (List Char)} {resource : Resource} :
    ofSegments? segments = some resource ↔ segments = [] :: resource.segments ∧
      ∀ reference, resource = .visit reference → reference ≠ [] ∧ reference ≠ "delete".toList := by
  constructor
  · intro h
    unfold ofSegments? at h
    split at h
    case h_1 first =>
      -- The name of a collection.
      repeat' split at h
      all_goals cases h
      all_goals exact ⟨by simp [segments, *], nofun⟩
    case h_2 first reference =>
      -- A reference, or the name of an action on all visits.
      split at h
      · cases h
      · rename_i hboth
        obtain ⟨hfirst, hne⟩ := not_or.1 hboth
        split at h
        · cases h
          exact ⟨by simp_all [segments], nofun⟩
        · cases h
          refine ⟨by simp_all [segments], ?_⟩
          rintro _ ⟨⟩
          exact ⟨hne, ‹_›⟩
    case h_3 first reference part =>
      -- A part of one visit.
      repeat' split at h
      all_goals cases h
      all_goals exact ⟨by simp_all [segments], nofun⟩
    case h_4 => cases h
  · rintro ⟨rfl, h⟩
    cases resource with
    | visit reference =>
      obtain ⟨hne, hdelete⟩ := h reference rfl
      simp only [Resource.segments, ofSegments?, hne, hdelete]
      simp
    | _ => rfl

/-- A path names a resource exactly if it is the path of it. -/
theorem ofPath?_eq_some_iff {path : List Char} {resource : Resource} :
    ofPath? path = some resource ↔ path = resource.path ∧ resource.Proper := by
  have hslash : (∀ v ∈ [] :: resource.segments, '/' ∉ v) ↔
      ∀ reference ∈ resource.reference?, '/' ∉ reference := by
    cases resource <;> simp [segments, reference?]
  rw [ofPath?, ofSegments?_eq_some_iff, pieces_eq_cons_iff, hslash]
  exact ⟨fun ⟨⟨hpath, hno⟩, hlast⟩ => ⟨hpath, hno, hlast⟩,
    fun ⟨hpath, hno, hlast⟩ => ⟨⟨hpath, hno⟩, hlast⟩⟩

end Resource

end Http

end VisitBooking
