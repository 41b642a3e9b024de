import Mathlib.Data.List.Induction
import VisitBooking.Proofs.Store.Command

/-!
# No update is lost through a save

A save compares the time of the last write in its copy with the stored one, as texts. That is a
check for changes since the copy was read because every write leaves its own time behind, no two
writes see the same time, the text of a time is read back as that time, and no identity is given out
twice.

What happens to a stored visit in a run is told by `Carries`: as long as it is not deleted it keeps
identity, reference and creation, it stays the same if no write of the run is about it, and
otherwise its last write is one of the run. The step lemma is `exists_carries_apply`, the run lemma
`exists_carries_run`.

## Main definitions

* `Store.Carries`: a stored visit at a later time.

## Main results

* `Store.exists_carries_run`, `Store.ne_of_deleted`: a visit is carried along, or it is gone.
* `Store.modified_mem_stamps`: the last write of a stored visit is a write of the run.
* `Store.created_cases`: creation and last write tell whether there was a write in between.
* `Store.no_lost_update`: the headline.
-/

namespace VisitBooking

open Calendar Reference

theorem Calendar.Instant.ne_of_lt {a b : Instant} (h : a < b) : a ≠ b := by
  rintro rfl
  exact Int.lt_irrefl _ h

theorem Calendar.Instant.lt_trans {a b c : Instant} (hab : a < b) (hbc : b < c) : a < c :=
  Int.lt_trans hab hbc

namespace Store

variable {s : Store} {v w x : Visit} {c : Command} {commands before after : List Command}

/-! ### A visit at a later time -/

/-- What becomes of a visit in a run on a store. -/
structure Carries (commands : List Command) (s : Store) (v w : Visit) : Prop where
  id : w.id = v.id
  reference : w.reference = v.reference
  created : w.created = v.created
  /-- No write of the run is about the visit, and it is as it was. -/
  kept : (∀ u ∈ rewrites commands s, u.id ≠ v.id) → w = v
  /-- A write of the run is about the visit, and so is the last one. -/
  stamped : (∃ u ∈ rewrites commands s, u.id = v.id) → w.modified ∈ stamps commands s

theorem carries_nil (s : Store) (v : Visit) : Carries [] s v v where
  id := rfl
  reference := rfl
  created := rfl
  kept _ := rfl
  stamped := fun ⟨_, hu, _⟩ => nomatch hu

theorem Carries.trans (h : Carries before s v w) (h' : Carries after (run before s) w x) :
    Carries (before ++ after) s v x where
  id := h'.id.trans h.id
  reference := h'.reference.trans h.reference
  created := h'.created.trans h.created
  kept hnone := by
    rw [rewrites, collect_append, List.forall_mem_append] at hnone
    obtain rfl : w = v := h.kept hnone.1
    exact h'.kept hnone.2
  stamped := by
    rintro ⟨u, hu, hid⟩
    rw [stamps, collect_append, List.mem_append]
    by_cases hafter : ∃ u ∈ rewrites after (run before s), u.id = w.id
    · exact .inr (h'.stamped hafter)
    · -- The last write is from before.
      have hnone : ∀ u ∈ rewrites after (run before s), u.id ≠ w.id :=
        fun u hu hid => hafter ⟨u, hu, hid⟩
      obtain rfl : x = w := h'.kept hnone
      rw [rewrites, collect_append, List.mem_append] at hu
      rcases hu with hu | hu
      · exact .inl (h.stamped ⟨u, hu, hid⟩)
      · exact absurd (hid.trans h.id.symm) (hnone u hu)

theorem mem_rewrites_singleton : v ∈ rewrites [c] s ↔ c.rewritten? s = some v := by
  rw [rewrites, collect_singleton, Option.mem_toList]

theorem mem_stamps_singleton (h : c.written? s = some v) (hclock : c.clock? = some v.modified) :
    v.modified ∈ stamps [c] s := by
  rw [stamps, collect_singleton, Option.mem_toList, Command.stamp?, h]
  exact hclock

/-- A visit that a command does not delete is there after it. -/
theorem exists_carries_apply (hs : s.Readable)
    (hclock : ∀ t, c.clock? = some t → t.HasPlainYear) (hv : v ∈ s)
    (hkeep : v.reference ∉ c.deletes) : ∃ w ∈ c.apply s, Carries [c] s v w := by
  by_cases hwritten : ∃ u, c.written? s = some u ∧ u.id = v.id
  · obtain ⟨u, hu, hid⟩ := hwritten
    obtain ⟨hstamp, -, ⟨-, hnew, -⟩ | ⟨hrewritten, old, hold, holdid, href, hcreated⟩⟩ :=
      hs.written_cases hclock hu
    · have hle := hs.id_le_lastId hv
      omega
    · obtain rfl : old = v := hs.eq_of_visit_id_eq hold hv (holdid.symm.trans hid)
      refine ⟨u, (hs.mem_apply_iff hclock).2 (.inl hu), ⟨hid, href, hcreated, ?_, ?_⟩⟩
      · exact fun hnone => absurd hid (hnone u (mem_rewrites_singleton.2 hrewritten))
      · exact fun _ => mem_stamps_singleton hu hstamp
  · refine ⟨v, (hs.mem_apply_iff hclock).2 (.inr ⟨hv, hkeep, ?_⟩), ⟨rfl, rfl, rfl, ?_, ?_⟩⟩
    · exact fun u hu hid => hwritten ⟨u, hu, hid.symm⟩
    · exact fun _ => rfl
    · rintro ⟨u, hu, hid⟩
      have hrewritten : c.rewritten? s = some u := mem_rewrites_singleton.1 hu
      exact absurd ⟨u, Command.written?_of_rewritten? hrewritten, hid⟩ hwritten

/-- A visit that a run does not delete is there after it. -/
theorem exists_carries_run (hs : s.Readable) (hplain : ∀ t ∈ clocks commands, t.HasPlainYear)
    (hv : v ∈ s) (hkeep : ∀ c ∈ commands, v.reference ∉ c.deletes) :
    ∃ w ∈ run commands s, Carries commands s v w := by
  induction commands generalizing s v with
  | nil => exact ⟨v, hv, carries_nil s v⟩
  | cons c commands ih =>
    obtain ⟨hclock, hrest⟩ := forall_mem_clocks_cons.1 hplain
    obtain ⟨hc, hcommands⟩ := List.forall_mem_cons.1 hkeep
    obtain ⟨w, hw, hvw⟩ := exists_carries_apply hs hclock hv hc
    obtain ⟨x, hx, hwx⟩ := ih ((hs.step hclock).readable hs hclock) hrest hw
      fun c' hc' => hvw.reference ▸ hcommands c' hc'
    exact ⟨x, hx, hvw.trans hwx⟩

/-! ### A visit that is gone -/

theorem ne_of_mem_apply (hs : s.Readable) (hclock : ∀ t, c.clock? = some t → t.HasPlainYear)
    {id : Int} (hid : id ≤ s.lastId) (hgone : ∀ v ∈ s, v.id ≠ id) : ∀ v ∈ c.apply s, v.id ≠ id := by
  intro v hv
  rcases (hs.mem_apply_iff hclock).1 hv with hwritten | ⟨hv, -⟩
  · obtain ⟨-, -, ⟨-, hnew, -⟩ | ⟨-, old, hold, holdid, -⟩⟩ := hs.written_cases hclock hwritten
    · omega
    · exact holdid ▸ hgone old hold
  · exact hgone v hv

/-- An identity that was given out and is not in the store does not come back. -/
theorem ne_of_mem_run (hs : s.Readable) (hplain : ∀ t ∈ clocks commands, t.HasPlainYear)
    {id : Int} (hid : id ≤ s.lastId) (hgone : ∀ v ∈ s, v.id ≠ id) :
    ∀ v ∈ run commands s, v.id ≠ id := by
  induction commands generalizing s with
  | nil => exact hgone
  | cons c commands ih =>
    obtain ⟨hclock, hrest⟩ := forall_mem_clocks_cons.1 hplain
    have hstep := hs.step hclock
    have hle : (s.lastId : Int) ≤ (c.apply s).lastId := Int.ofNat_le.2 hstep.lastId_le
    exact ih (hstep.readable hs hclock) hrest (Int.le_trans hid hle)
      (ne_of_mem_apply hs hclock hid hgone)

/-- A visit that is deleted does not come back. -/
theorem ne_of_deleted (hs : s.Readable) (hplain : ∀ t ∈ clocks commands, t.HasPlainYear)
    (hv : v ∈ s) (hdeleted : ∃ c ∈ commands, v.reference ∈ c.deletes) :
    ∀ w ∈ run commands s, w.id ≠ v.id := by
  induction commands generalizing s v with
  | nil =>
    obtain ⟨c, hc, -⟩ := hdeleted
    cases hc
  | cons c commands ih =>
    obtain ⟨hclock, hrest⟩ := forall_mem_clocks_cons.1 hplain
    have hstep := hs.step hclock
    have hreadable := hstep.readable hs hclock
    by_cases hc : v.reference ∈ c.deletes
    · have hle : (s.lastId : Int) ≤ (c.apply s).lastId := Int.ofNat_le.2 hstep.lastId_le
      have hidle : v.id ≤ (c.apply s).lastId := Int.le_trans (hs.id_le_lastId hv) hle
      refine ne_of_mem_run hreadable hrest hidle fun w hw hid => ?_
      rcases (hs.mem_apply_iff hclock).1 hw with hwritten | ⟨hws, hkept, -⟩
      · rw [(hs.written_cases hclock hwritten).2.1] at hc
        exact nomatch hc
      · exact hkept (hs.eq_of_visit_id_eq hws hv hid ▸ hc)
    · obtain ⟨a, ha, hdel⟩ := hdeleted
      have hafter : a ∈ commands :=
        (List.mem_cons.1 ha).resolve_left fun heq => hc (heq ▸ hdel)
      obtain ⟨w, hw, hvw⟩ := exists_carries_apply hs hclock hv hc
      exact hvw.id ▸ ih hreadable hrest hw ⟨a, hafter, hvw.reference ▸ hdel⟩

/-! ### Creation and last write -/

/-- The last write of a stored visit is a write of the run. -/
theorem modified_mem_stamps (hplain : ∀ t ∈ clocks commands, t.HasPlainYear) :
    ∀ v ∈ run commands .empty, v.modified ∈ stamps commands .empty := by
  induction commands using List.reverseRecOn with
  | nil => exact fun v ⟨_, hr, _⟩ => nomatch hr
  | append_singleton commands c ih =>
    obtain ⟨hbefore, hlast⟩ := forall_mem_clocks_append.1 hplain
    obtain ⟨hclock, -⟩ := forall_mem_clocks_cons.1 hlast
    have hs : (run commands .empty).Readable := readable_run hbefore
    intro v hv
    rw [run_append] at hv
    rw [stamps, collect_append, List.mem_append]
    rcases (hs.mem_apply_iff hclock).1 hv with hwritten | ⟨hv, -⟩
    · exact .inr (mem_stamps_singleton hwritten (hs.written_cases hclock hwritten).1)
    · exact .inl (ih hbefore v hv)

theorem Readable.lastId_le_run (hs : s.Readable)
    (hplain : ∀ t ∈ clocks commands, t.HasPlainYear) : s.lastId ≤ (run commands s).lastId := by
  induction commands generalizing s with
  | nil => exact Nat.le_refl _
  | cons c commands ih =>
    obtain ⟨hclock, hrest⟩ := forall_mem_clocks_cons.1 hplain
    have hstep := hs.step hclock
    exact Nat.le_trans hstep.lastId_le (ih (hstep.readable hs hclock) hrest)

/-- Only identities that were given out are written. -/
theorem id_le_of_mem_rewrites (hs : s.Readable)
    (hplain : ∀ t ∈ clocks commands, t.HasPlainYear) :
    ∀ u ∈ rewrites commands s, u.id ≤ (run commands s).lastId := by
  induction commands generalizing s with
  | nil => exact fun u hu => nomatch hu
  | cons c commands ih =>
    obtain ⟨hclock, hrest⟩ := forall_mem_clocks_cons.1 hplain
    have hreadable := (hs.step hclock).readable hs hclock
    intro u hu
    rcases List.mem_append.1 hu with hu | hu
    · have hrewritten : c.rewritten? s = some u := Option.mem_toList.1 hu
      have hmem : u ∈ c.apply s :=
        (hs.mem_apply_iff hclock).2 (.inl (Command.written?_of_rewritten? hrewritten))
      have hle := hreadable.id_le_lastId hmem
      have hle' := hreadable.lastId_le_run hrest
      rw [run_cons]
      omega
    · exact ih hreadable hrest u hu

/-- A stored visit is as it was made, or its last write is later than its creation. -/
theorem created_cases (hplain : ∀ t ∈ clocks commands, t.HasPlainYear)
    (hincreasing : (stamps commands .empty).Pairwise (· < ·)) :
    ∀ v ∈ run commands .empty,
      (v.created = v.modified ∧ ∀ u ∈ rewrites commands .empty, u.id ≠ v.id) ∨
        (v.created < v.modified ∧ ∃ u ∈ rewrites commands .empty, u.id = v.id) := by
  induction commands using List.reverseRecOn with
  | nil => exact fun v ⟨_, hr, _⟩ => nomatch hr
  | append_singleton commands c ih =>
    obtain ⟨hbefore, hlast⟩ := forall_mem_clocks_append.1 hplain
    obtain ⟨hclock, -⟩ := forall_mem_clocks_cons.1 hlast
    have hs : (run commands .empty).Readable := readable_run hbefore
    rw [stamps, collect_append, List.pairwise_append] at hincreasing
    obtain ⟨hincreasing, -, hlater⟩ := hincreasing
    have hrewrites : ∀ u, u ∈ rewrites (commands ++ [c]) .empty ↔
        u ∈ rewrites commands .empty ∨ c.rewritten? (run commands .empty) = some u := by
      intro u
      rw [← mem_rewrites_singleton, rewrites, collect_append, List.mem_append]
    simp only [hrewrites]
    intro v hv
    rw [run_append] at hv
    rcases (hs.mem_apply_iff hclock).1 hv with hwritten | ⟨hv, -, hother⟩
    · obtain ⟨hstamp, -, ⟨hnone, hnew, hsame⟩ | ⟨hrewritten, old, hold, -, -, hcreated⟩⟩ :=
        hs.written_cases hclock hwritten
      · refine .inl ⟨hsame, fun u hu hid => ?_⟩
        rcases hu with hu | hu
        · have hle := id_le_of_mem_rewrites readable_empty hbefore u hu
          omega
        · rw [hnone] at hu
          cases hu
      · have hlt : old.modified < v.modified :=
          hlater _ (modified_mem_stamps hbefore old hold) _ (mem_stamps_singleton hwritten hstamp)
        refine .inr ⟨?_, v, .inr hrewritten, rfl⟩
        rw [hcreated]
        rcases ih hbefore hincreasing old hold with ⟨heq, -⟩ | ⟨hlt', -⟩
        · exact heq ▸ hlt
        · exact Instant.lt_trans hlt' hlt
    · refine (ih hbefore hincreasing v hv).imp
        (fun ⟨heq, hnone⟩ => ⟨heq, fun u hu => hu.elim (hnone u) fun hu hid => ?_⟩)
        (fun ⟨hlt, u, hu, hid⟩ => ⟨hlt, u, .inl hu, hid⟩)
      exact hother u (Command.written?_of_rewritten? hu) hid.symm

/-- A visit that is written has a later last write than before. -/
theorem Carries.modified_lt (hplain : ∀ t ∈ clocks before, t.HasPlainYear)
    (hincreasing : (stamps (before ++ after) .empty).Pairwise (· < ·))
    (hv : v ∈ run before .empty) (h : Carries after (run before .empty) v w)
    (hwritten : ∃ u ∈ rewrites after (run before .empty), u.id = v.id) :
    v.modified < w.modified := by
  rw [stamps, collect_append, List.pairwise_append] at hincreasing
  exact hincreasing.2.2 _ (modified_mem_stamps hplain v hv) _ (h.stamped hwritten)

/-! ### Saving a copy -/

theorem save_of_missing {now : Instant} (hs : s.Readable) (h : ∀ w ∈ s, w.id ≠ v.id) :
    s.save now v = (.error (.noSuchId v.id), s) := by
  have hnone : s.rowById? v.id = none := by
    cases hr : s.rowById? v.id with
    | none => rfl
    | some r =>
      obtain ⟨hmem, hid⟩ := hs.rowById?_eq_some_iff.1 hr
      obtain ⟨w, hw, rfl⟩ := hs.holds r hmem
      exact absurd hid (h w (hs.mem_iff.2 ⟨hw, hmem⟩))
  simp only [save, hnone]

/-- A copy that is older than the stored visit is not written. -/
theorem save_of_stale {now : Instant} (hs : s.Readable) (hw : w ∈ s) (hid : w.id = v.id)
    (hv : v.modified.HasPlainYear) (hstale : w.modified ≠ v.modified) :
    s.save now v = (.error (.conflict v.id), s) := by
  have hrow : s.rowById? v.id = some w.row := hs.rowById?_eq_some_iff.2 ⟨hs.row_mem hw, hid⟩
  have hcolumn : w.row.modified ≠ v.modified.column :=
    fun h => hstale (Instant.eq_of_column_eq (hs.hasPlainYears hw).modified hv h)
  simp only [save, hrow, if_pos hcolumn]

/-- A copy that is as old as the stored visit is written, unless a constraint does not hold. -/
theorem save_of_fresh {now : Instant} (hs : s.Readable) (hw : w ∈ s) (hid : w.id = v.id)
    (hfresh : w.modified = v.modified) (hnow : now.HasPlainYear) :
    s.save now v = if v.details.columns.Valid then
        (.ok { v with reference := w.reference, created := w.created, modified := now },
          s.writeRow v.id v.details.columns now)
      else (.error .constraint, s) := by
  have hrow : s.rowById? v.id = some w.row := hs.rowById?_eq_some_iff.2 ⟨hs.row_mem hw, hid⟩
  have hmodified : w.row.modified = v.modified.column := congrArg Instant.column hfresh
  have hvisit : (w.row.write v.details.columns now).visit =
      .ok { w with details := v.details, modified := now } :=
    Row.visit_write (Visit.visit_row (hs.hasPlainYears hw)) rfl v.details hnow
  rw [save_of_modified_eq hrow hmodified, hvisit, hid]

/-! ### The headline -/

/-- **No update is lost through a save.** In a run whose successful writes see strictly increasing
times, take a copy `v` of a visit that a command handed out, and change anything in it but identity
and last write. If the visit was deleted since, a save does not find it; if it was written since,
the save is a conflict; and otherwise the save writes what was changed, except reference and
creation, or a constraint does not hold. Where it fails the store stays as it is.

A successful write stores the visit with the time of the clock as its last write and does not touch
the creation. So these two are equal exactly as long as no save and no update has written the
visit. -/
theorem no_lost_update (commands : List Command) (hplain : ∀ t ∈ clocks commands, t.HasPlainYear)
    (hincreasing : (stamps commands .empty).Pairwise (· < ·)) :
    (∀ before c later now w, commands = before ++ c :: (later ++ [.save now w]) →
      let read := c.apply (run before .empty)
      let s := run later read
      ∀ v ∈ c.answers (run before .empty), w.id = v.id → w.modified = v.modified →
        ((∃ a ∈ later, v.reference ∈ a.deletes) →
          s.save now w = (.error (.noSuchId w.id), s)) ∧
        ((∀ a ∈ later, v.reference ∉ a.deletes) → (∃ u ∈ rewrites later read, u.id = v.id) →
          s.save now w = (.error (.conflict w.id), s)) ∧
        ((∀ a ∈ later, v.reference ∉ a.deletes) → (∀ u ∈ rewrites later read, u.id ≠ v.id) →
          s.save now w = if w.details.columns.Valid then
              (.ok { w with reference := v.reference, created := v.created, modified := now },
                s.writeRow w.id w.details.columns now)
            else (.error .constraint, s))) ∧
    (∀ before c later, commands = before ++ c :: later →
      let s := run before .empty
      ∀ v, c.written? s = some v → v ∈ c.apply s ∧ c.clock? = some v.modified ∧
        (c.rewritten? s = some v → ∃ old ∈ s, old.id = v.id) ∧
        ∀ old ∈ s, old.id = v.id → v.created = old.created) ∧
    ∀ v ∈ run commands .empty,
      (v.created = v.modified ↔ ∀ u ∈ rewrites commands .empty, u.id ≠ v.id) := by
  refine ⟨?_, ?_, ?_⟩
  · rintro before c later now w rfl read s v hv hid hmodified
    obtain ⟨hbefore, hrest⟩ := forall_mem_clocks_append.1 hplain
    obtain ⟨hclock, hrest⟩ := forall_mem_clocks_cons.1 hrest
    obtain ⟨hlater, hsave⟩ := forall_mem_clocks_append.1 hrest
    have hnow : now.HasPlainYear := (forall_mem_clocks_cons.1 hsave).1 now rfl
    have hfound : (run before .empty).Readable := readable_run hbefore
    have hread : read.Readable := (hfound.step hclock).readable hfound hclock
    have hs : s.Readable := run_readable hread hlater
    have hvread : v ∈ read := hfound.mem_of_mem_answers hclock hv
    refine ⟨fun hdeleted => ?_, fun hkeep hwritten => ?_, fun hkeep hunwritten => ?_⟩
    · exact save_of_missing hs (hid ▸ ne_of_deleted hread hlater hvread hdeleted)
    · obtain ⟨x, hx, hvx⟩ := exists_carries_run hread hlater hvread hkeep
      have hlt : v.modified < x.modified := by
        have hread_eq : run (before ++ [c]) .empty = read := run_append ..
        have hsplit : before ++ c :: (later ++ [.save now w]) =
            ((before ++ [c]) ++ later) ++ [.save now w] := by simp
        rw [hsplit, stamps, collect_append, List.pairwise_append] at hincreasing
        refine Carries.modified_lt (forall_mem_clocks_append.2 ⟨hbefore, ?_⟩) hincreasing.1
          (hread_eq ▸ hvread) (hread_eq ▸ hvx) (hread_eq ▸ hwritten)
        exact forall_mem_clocks_cons.2 ⟨hclock, by simp [clocks]⟩
      have hyear : w.modified.HasPlainYear := hmodified ▸ (hread.hasPlainYears hvread).modified
      have hstale : x.modified ≠ w.modified := hmodified ▸ (Instant.ne_of_lt hlt).symm
      exact save_of_stale hs hx (hvx.id.trans hid.symm) hyear hstale
    · obtain ⟨x, hx, hvx⟩ := exists_carries_run hread hlater hvread hkeep
      obtain rfl : x = v := hvx.kept hunwritten
      exact save_of_fresh hs hx hid.symm hmodified.symm hnow
  · rintro before c later rfl s v hwritten
    obtain ⟨hbefore, hrest⟩ := forall_mem_clocks_append.1 hplain
    obtain ⟨hclock, -⟩ := forall_mem_clocks_cons.1 hrest
    have hs : s.Readable := readable_run hbefore
    obtain ⟨hstamp, -, hcases⟩ := hs.written_cases hclock hwritten
    refine ⟨(hs.mem_apply_iff hclock).2 (.inl hwritten), hstamp, ?_⟩
    rcases hcases with ⟨hnone, hnew, -⟩ | ⟨-, old, hold, hid, -, hcreated⟩
    · refine ⟨fun hsome => ?_, fun old hold hid => ?_⟩
      · rw [hnone] at hsome
        contradiction
      · have hle := hs.id_le_lastId hold
        omega
    · refine ⟨fun _ => ⟨old, hold, hid.symm⟩, fun old' hold' hid' => ?_⟩
      rw [hs.eq_of_visit_id_eq hold' hold (hid'.trans hid), hcreated]
  · intro v hv
    rcases created_cases hplain hincreasing v hv with ⟨heq, hnone⟩ | ⟨hlt, u, hu, hid⟩
    · exact ⟨fun _ => hnone, fun _ => heq⟩
    · exact ⟨fun heq => absurd heq (Instant.ne_of_lt hlt), fun hnone => absurd hid (hnone u hu)⟩

/-- A note is added to a visit after the visit was put in. The copy from before cannot be saved. -/
theorem no_lost_update_of_note :
    let ends : LocalTime := ⟨⟨⟨1970, 1, 2, by decide⟩, default⟩, by decide⟩
    let visit : Details := { (default : Details) with ends := ends }
    let later : Instant := ⟨⟨⟨1970, 1, 3, by decide⟩, default⟩, by decide⟩
    let latest : Instant := ⟨⟨⟨1970, 1, 4, by decide⟩, default⟩, by decide⟩
    let copy : Visit := ⟨1, Codec.standard.encode 1, visit, default, default⟩
    let changed : Visit := { copy with details := { visit with prison := "MDI" } }
    let insert : Command := .insert .standard default visit
    let update : Command := .update later copy.reference fun v =>
      .ok { v with details := v.details.addNote default }
    let commands : List Command := [insert, update, .save latest changed]
    let read := insert.apply .empty
    let s := run [update] read
    (∀ t ∈ clocks commands, t.HasPlainYear) ∧ (stamps commands .empty).Pairwise (· < ·) ∧
      copy ∈ insert.answers .empty ∧ (∃ u ∈ rewrites [update] read, u.id = copy.id) ∧
      s.save latest changed = (.error (.conflict changed.id), s) ∧
      ∀ v ∈ run commands .empty,
        (v.created = v.modified ↔ ∀ u ∈ rewrites commands .empty, u.id ≠ v.id) := by
  intro ends visit later latest copy changed insert update commands read s
  have hplain : ∀ t ∈ clocks commands, t.HasPlainYear := by decide +kernel
  have hincreasing : (stamps commands .empty).Pairwise (· < ·) := by decide +kernel
  have hcopy : copy ∈ insert.answers .empty := by decide +kernel
  have hkeep : ∀ a ∈ [update], copy.reference ∉ a.deletes := by decide +kernel
  have hwritten : ∃ u ∈ rewrites [update] read, u.id = copy.id := by decide +kernel
  obtain ⟨hsave, -, hsame⟩ := no_lost_update commands hplain hincreasing
  obtain ⟨-, hconflict, -⟩ := hsave [] insert [update] latest changed rfl copy hcopy rfl rfl
  exact ⟨hplain, hincreasing, hcopy, hwritten, hconflict hkeep hwritten, hsame⟩

/-- A fresh copy that is saved in the year 10000 is written, but the answer is neither the visit nor
a constraint. -/
theorem lost_answer_in_year_10000 :
    let ends : LocalTime := ⟨⟨⟨1970, 1, 2, by decide⟩, default⟩, by decide⟩
    let visit : Details := { (default : Details) with ends := ends }
    let late : Instant := ⟨⟨⟨10000, 1, 1, by decide⟩, default⟩, by decide⟩
    let copy : Visit := ⟨1, Codec.standard.encode 1, visit, default, default⟩
    let insert : Command := .insert .standard default visit
    let s := run [insert] .empty
    (clocks [insert, .save late copy]).Pairwise (· < ·) ∧ copy ∈ insert.answers .empty ∧
      (s.save late copy).1 = .error .unreadableTime ∧ (s.save late copy).2 ≠ s := by
  decide +kernel

end Store

end VisitBooking
