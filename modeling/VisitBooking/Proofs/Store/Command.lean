import VisitBooking.Proofs.Store.WellFormed

/-!
# Commands and the visits of a store

A store is told here by its visits. A command on the store, whether it writes, reads or deletes, has
the answer that its caller gets and the store that it leaves behind; `Command.written?` is the visit
that a successful write answers with, and `Command.answers` is every copy of a visit that is handed
out. What a command does to the visits is then one equivalence, `Readable.mem_apply_iff`: afterwards
there is the visit that it wrote, and there are those from before that it neither wrote nor deleted.

This needs the rows to be read back, and that needs a clock that shows a year of four digits: a
later instant is written, but it cannot be read. So the statements about runs have the hypothesis
that `clocks` has plain years.

In contrast to `Store.Action`, an update may do anything to the visit that it gets, also give it
another identity. Looking up kinds of support is no command: it changes nothing, and its answer has
no visit.

## Main definitions

* `Store.Command`, `Store.Command.apply`, `Store.run`: what a store is asked for, and a run.
* `Store.Command.written?`, `.rewritten?`, `.answers`, `.clock?`, `.deletes`.
* `Store.rewrites`, `Store.stamps`: what the successful writes of a run wrote, and when.
* `Store.Readable`: a store in which each row is the row of a visit.

## Main results

* `Store.Readable.step`: a command does one of four things.
* `Store.Readable.mem_apply_iff`: the visits after a command.
* `Store.Readable.mem_of_mem_answers`: an answer is a copy of a stored visit.
* `Store.readable_run`: stores that are written in years of four digits are readable.
-/

namespace VisitBooking

open Calendar Reference

namespace Store

/-- A visit is in a store if a row holds it. -/
instance : Membership Visit Store where
  mem s v := ∃ r ∈ s.rows, r.visit = .ok v

instance (v : Visit) (s : Store) : Decidable (v ∈ s) :=
  inferInstanceAs (Decidable (∃ r ∈ s.rows, r.visit = .ok v))

/-- Each row is the row of a visit. -/
structure Readable (s : Store) : Prop extends s.WellFormed where
  holds : ∀ r ∈ s.rows, ∃ v : Visit, v.HasPlainYears ∧ v.row = r

variable {s s' : Store} {v w : Visit}

theorem readable_empty : Readable .empty where
  toWellFormed := wellFormed_empty
  holds := by simp [empty]

theorem Readable.mem_iff (hs : s.Readable) : v ∈ s ↔ v.HasPlainYears ∧ v.row ∈ s.rows := by
  constructor
  · rintro ⟨r, hr, hv⟩
    obtain ⟨w, hw, rfl⟩ := hs.holds r hr
    rw [Visit.visit_row hw] at hv
    cases hv
    exact ⟨hw, hr⟩
  · rintro ⟨hv, hr⟩
    exact ⟨v.row, hr, Visit.visit_row hv⟩

theorem Readable.row_mem (hs : s.Readable) (hv : v ∈ s) : v.row ∈ s.rows := (hs.mem_iff.1 hv).2

theorem Readable.hasPlainYears (hs : s.Readable) (hv : v ∈ s) : v.HasPlainYears :=
  (hs.mem_iff.1 hv).1

theorem Readable.id_le_lastId (hs : s.Readable) (hv : v ∈ s) : v.id ≤ s.lastId :=
  (hs.id_mem v.row (hs.row_mem hv)).2

/-- A visit is told by its identity. -/
theorem Readable.eq_of_visit_id_eq (hs : s.Readable) (hv : v ∈ s) (hw : w ∈ s)
    (h : v.id = w.id) : v = w :=
  Visit.eq_of_row_eq (hs.hasPlainYears hv) (hs.hasPlainYears hw)
    (hs.eq_of_id_eq (hs.row_mem hv) (hs.row_mem hw) h)

theorem readRow_eq_ok_some_iff {row : Option Row} :
    readRow row = .ok (some v) ↔ ∃ r, row = some r ∧ r.visit = .ok v := by
  cases row with
  | none => simp [readRow]
  | some r => cases h : r.visit <;> simp [readRow, h, Except.map]

/-- What an identity finds. -/
theorem mem_of_findById {id : Int} (h : s.findById id = .ok (some v)) : v ∈ s := by
  obtain ⟨r, hr, hv⟩ := readRow_eq_ok_some_iff.1 h
  exact ⟨r, List.mem_of_find?_eq_some hr, hv⟩

/-- What a reference finds. -/
theorem WellFormed.findByReference_eq_ok_some_iff (wf : s.WellFormed) {reference : String} :
    s.findByReference reference = .ok (some v) ↔ v ∈ s ∧ v.reference = reference := by
  rw [findByReference, readRow_eq_ok_some_iff]
  constructor
  · rintro ⟨r, hr, hv⟩
    obtain ⟨hmem, rfl⟩ := wf.rowByReference?_eq_some_iff.1 hr
    exact ⟨⟨r, hmem, hv⟩, wf.visit_reference hmem hv⟩
  · rintro ⟨⟨r, hmem, hv⟩, rfl⟩
    have href : v.reference = r.reference := wf.visit_reference hmem hv
    exact ⟨r, wf.rowByReference?_eq_some_iff.2 ⟨hmem, href.symm⟩, hv⟩

/-- A search in a readable store answers with the visits of the rows that it finds. -/
theorem Readable.findAll_eq_ok (hs : s.Readable) (filter : VisitFilter) :
    ∃ vs : List Visit, s.findAll filter = .ok vs ∧ (∀ v ∈ vs, v.HasPlainYears) ∧
      vs.map Visit.row = (s.rows.filter (matchesRow filter)).mergeSort rowLE := by
  have hread : ∀ rows : List Row, (∀ r ∈ rows, r ∈ s.rows) → ∃ vs : List Visit,
      rows.mapM Row.visit = .ok vs ∧ (∀ v ∈ vs, v.HasPlainYears) ∧ vs.map Visit.row = rows := by
    intro rows
    induction rows with
    | nil => exact fun _ => ⟨[], rfl, by simp, rfl⟩
    | cons r rows ih =>
      intro hrows
      obtain ⟨vs, hvs, hplain, hmap⟩ := ih fun r' hr' => hrows r' (List.mem_cons_of_mem r hr')
      obtain ⟨v, hv, rfl⟩ := hs.holds r (hrows r (List.mem_cons_self ..))
      refine ⟨v :: vs, ?_, List.forall_mem_cons.2 ⟨hv, hplain⟩, by rw [List.map_cons, hmap]⟩
      rw [List.mapM_cons, Visit.visit_row hv, hvs]
      rfl
  exact hread _ fun r hr => (List.mem_filter.1 (List.mem_mergeSort.1 hr)).1

/-! ### Commands -/

/-- What a store is asked for. -/
inductive Command where
  | insert (scheme : Scheme) (now : Instant) (details : Details)
  | save (now : Instant) (visit : Visit)
  | update (now : Instant) (reference : String) (change : Visit → Except Refusal Visit)
  | findByReference (reference : String)
  | findById (id : Int)
  | findAll (filter : VisitFilter)
  | delete (reference : String)
  | deleteMany (references : List String)
  | reopen

namespace Command

/-- The store after a command, whether or not it failed. -/
def apply : Command → Store → Store
  | .insert scheme now d, s => (s.insert scheme now d).2
  | .save now v, s => (s.save now v).2
  | .update now reference change, s => (s.update now reference change).2
  | .delete reference, s => (s.delete reference).2
  | .deleteMany references, s => (s.deleteMany references).2
  | .reopen, s => s.reopen
  | .findByReference _, s | .findById _, s | .findAll _, s => s

/-- What the clock shows to a command that writes. -/
def clock? : Command → Option Instant
  | .insert _ now _ | .save now _ | .update now _ _ => some now
  | _ => none

/-- The references whose visits a command takes out. -/
def deletes : Command → List String
  | .delete reference => [reference]
  | .deleteMany references => references
  | _ => []

/-- The visit that a successful save or update answers with. -/
def rewritten? : Command → Store → Option Visit
  | .save now v, s => (s.save now v).1.toOption
  | .update now reference change, s => (s.update now reference change).1.toOption
  | _, _ => none

/-- The visit that a successful insert, save or update answers with. -/
def written? : Command → Store → Option Visit
  | .insert scheme now d, s => (s.insert scheme now d).1.toOption
  | c, s => c.rewritten? s

/-- What the clock shows to a write that succeeds. -/
def stamp? (c : Command) (s : Store) : Option Instant := (c.written? s).bind fun _ => c.clock?

/-- The copies of visits that a command hands out. -/
def answers : Command → Store → List Visit
  | .findByReference reference, s => (s.findByReference reference).toOption.join.toList
  | .findById id, s => (s.findById id).toOption.join.toList
  | .findAll filter, s => (s.findAll filter).toOption.getD []
  | c, s => (c.written? s).toList

end Command

/-- The store after commands one after the other. -/
def run (commands : List Command) (s : Store) : Store :=
  commands.foldl (fun s c => c.apply s) s

/-- What the clock shows in the course of a run. -/
def clocks (commands : List Command) : List Instant := commands.filterMap Command.clock?

/-- What the commands of a run yield, each on the store that it finds. -/
def collect {α : Type} (f : Command → Store → Option α) : List Command → Store → List α
  | [], _ => []
  | c :: commands, s => (f c s).toList ++ collect f commands (c.apply s)

/-- The visits that the successful saves and updates of a run answer with. -/
def rewrites : List Command → Store → List Visit := collect Command.rewritten?

/-- What the clock shows to the successful writes of a run. -/
def stamps : List Command → Store → List Instant := collect Command.stamp?

variable {c : Command} {commands before after : List Command}

@[simp] theorem run_cons (c : Command) (commands : List Command) (s : Store) :
    run (c :: commands) s = run commands (c.apply s) := rfl

@[simp] theorem run_append (before after : List Command) (s : Store) :
    run (before ++ after) s = run after (run before s) :=
  List.foldl_append

theorem collect_append {α : Type} (f : Command → Store → Option α) (before after : List Command)
    (s : Store) :
    collect f (before ++ after) s = collect f before s ++ collect f after (run before s) := by
  induction before generalizing s with
  | nil => rfl
  | cons c before ih => rw [List.cons_append, collect, collect, ih, List.append_assoc]; rfl

theorem collect_singleton {α : Type} (f : Command → Store → Option α) (c : Command) (s : Store) :
    collect f [c] s = (f c s).toList := List.append_nil _

theorem forall_mem_clocks_cons {P : Instant → Prop} :
    (∀ t ∈ clocks (c :: commands), P t) ↔
      (∀ t, c.clock? = some t → P t) ∧ ∀ t ∈ clocks commands, P t := by
  cases h : c.clock? <;> simp [clocks, h]

theorem forall_mem_clocks_append {P : Instant → Prop} :
    (∀ t ∈ clocks (before ++ after), P t) ↔
      (∀ t ∈ clocks before, P t) ∧ ∀ t ∈ clocks after, P t := by
  rw [clocks, List.filterMap_append, List.forall_mem_append]
  rfl

/-! ### What a command does -/

/-- The visit that an insert puts in. -/
def newVisit (scheme : Scheme) (now : Instant) (d : Details) (s : Store) : Visit :=
  ⟨(s.lastId + 1 : Nat), scheme.encode (s.lastId + 1), d, now, now⟩

/-- A command puts a visit in, writes one, takes visits out, or opens the store again. A command
that fails and one that only reads take out the visits of no reference. -/
inductive Command.Step (c : Command) (s : Store) : Store → Prop
  | insertion (scheme : Scheme) (now : Instant) (d : Details)
      (hadmits : s.Admits (s.newRow scheme now d)) (hclock : c.clock? = some now)
      (hdeletes : c.deletes = []) (hrewritten : c.rewritten? s = none)
      (hwritten : c.written? s = some (s.newVisit scheme now d)) :
      Step c s (s.add (s.newRow scheme now d))
  | rewriting (v : Visit) (hv : v ∈ s) (d : Details) (now : Instant)
      (hclock : c.clock? = some now) (hdeletes : c.deletes = [])
      (hrewritten : c.rewritten? s = some { v with details := d, modified := now })
      (hwritten : c.written? s = some { v with details := d, modified := now }) :
      Step c s (s.writeRow v.id d.columns now)
  | removal (hwritten : c.written? s = none) (hrewritten : c.rewritten? s = none) :
      Step c s (s.without c.deletes)
  | reopening (hdeletes : c.deletes = []) (hwritten : c.written? s = none)
      (hrewritten : c.rewritten? s = none) : Step c s s.reopen

/-- Whatever the change does, it is written into one row or into none, and only if it meets the
constraints on a row by itself. -/
theorem update_cases (now : Instant) (reference : String) (change : Visit → Except Refusal Visit)
    (s : Store) :
    (∃ failure, s.update now reference change = (.error failure, s)) ∨
      ∃ r ∈ s.rows, ∃ d : Details, d.columns.Valid ∧ s.update now reference change =
        ((r.write d.columns now).visit.mapError .store, s.writeRow r.id d.columns now) := by
  unfold update
  split
  · exact .inl ⟨_, rfl⟩
  · split
    · exact .inl ⟨_, rfl⟩
    · split
      · exact .inl ⟨_, rfl⟩
      · rename_i visit hchange
        dsimp only
        split
        · split <;> exact .inl ⟨_, rfl⟩
        · rename_i row hrow
          have hid : row.id = visit.id := by simpa using List.find?_some hrow
          split
          · rename_i hvalid
            exact .inr ⟨row, List.mem_of_find?_eq_some hrow, visit.details, hvalid, by rw [hid]⟩
          · exact .inl ⟨_, rfl⟩

theorem Command.Step.of_same (hdeletes : c.deletes = []) (hwritten : c.written? s = none)
    (hrewritten : c.rewritten? s = none) : c.Step s s := by
  have hstep : c.Step s (s.without c.deletes) := .removal hwritten hrewritten
  rwa [hdeletes, without_nil] at hstep

/-- A command does one of four things. -/
theorem Readable.step (hs : s.Readable) (hclock : ∀ t, c.clock? = some t → t.HasPlainYear) :
    c.Step s (c.apply s) := by
  -- Writing into a row gives a visit that is read back, since the clock is.
  have hwrite : ∀ r ∈ s.rows, ∃ v ∈ s, v.id = r.id ∧ ∀ d now, now.HasPlainYear →
      (r.write d.columns now).visit = .ok { v with details := d, modified := now } := by
    intro r hr
    obtain ⟨v, hv, rfl⟩ := hs.holds r hr
    exact ⟨v, hs.mem_iff.2 ⟨hv, hr⟩, rfl, fun d now hnow =>
      Row.visit_write (Visit.visit_row hv) rfl d hnow⟩
  cases c with
  | insert scheme now d =>
    have hnow : now.HasPlainYear := hclock now rfl
    by_cases hadmits : s.Admits (s.newRow scheme now d)
    · have hinsert := insert_of_admits hadmits
      rw [visit_newRow hnow d] at hinsert
      have hstep : (Command.insert scheme now d).Step s (s.add (s.newRow scheme now d)) :=
        .insertion scheme now d hadmits rfl rfl rfl
          (by rw [Command.written?, hinsert]; rfl)
      rwa [Command.apply, hinsert]
    · have hinsert := insert_of_not_admits hadmits
      rw [Command.apply, hinsert]
      exact .of_same rfl (by rw [Command.written?, hinsert]; rfl) rfl
  | save now v =>
    rcases save_cases now v s with ⟨fault, hsave⟩ | ⟨r, hr, -, hsave⟩
    · have hwritten : (Command.save now v).rewritten? s = none := by
        rw [Command.rewritten?, hsave]; rfl
      rw [Command.apply, hsave]
      exact .of_same rfl hwritten hwritten
    · obtain ⟨hmem, hid⟩ := hs.rowById?_eq_some_iff.1 hr
      obtain ⟨w, hw, hwid, hvisit⟩ := hwrite r hmem
      have hwritten : (Command.save now v).rewritten? s =
          some { w with details := v.details, modified := now } := by
        rw [Command.rewritten?, hsave, hvisit _ _ (hclock now rfl)]; rfl
      rw [Command.apply, hsave, ← hid, ← hwid]
      exact .rewriting w hw v.details now rfl rfl hwritten hwritten
  | update now reference change =>
    rcases update_cases now reference change s with ⟨failure, hupdate⟩ | ⟨r, hmem, d, -, hupdate⟩
    · have hwritten : (Command.update now reference change).rewritten? s = none := by
        rw [Command.rewritten?, hupdate]; rfl
      rw [Command.apply, hupdate]
      exact .of_same rfl hwritten hwritten
    · obtain ⟨w, hw, hwid, hvisit⟩ := hwrite r hmem
      have hwritten : (Command.update now reference change).rewritten? s =
          some { w with details := d, modified := now } := by
        rw [Command.rewritten?, hupdate, hvisit _ _ (hclock now rfl)]; rfl
      rw [Command.apply, hupdate, ← hwid]
      exact .rewriting w hw d now rfl rfl hwritten hwritten
  | delete reference =>
    rw [Command.apply, delete_snd]
    exact .removal rfl rfl
  | deleteMany references =>
    rw [Command.apply, deleteMany_snd]
    exact .removal rfl rfl
  | reopen => exact .reopening rfl rfl rfl
  | findByReference reference => exact .of_same rfl rfl rfl
  | findById id => exact .of_same rfl rfl rfl
  | findAll filter => exact .of_same rfl rfl rfl

/-! ### The visits after a command -/

theorem mem_add_iff {r : Row} : v ∈ s.add r ↔ v ∈ s ∨ r.visit = .ok v := by
  constructor
  · rintro ⟨row, hrow, hv⟩
    rcases mem_add.1 hrow with hrow | rfl
    · exact .inl ⟨row, hrow, hv⟩
    · exact .inr hv
  · rintro (⟨row, hrow, hv⟩ | hv)
    · exact ⟨row, mem_add.2 (.inl hrow), hv⟩
    · exact ⟨r, mem_add.2 (.inr rfl), hv⟩

theorem WellFormed.mem_without_iff (wf : s.WellFormed) {references : List String} :
    v ∈ s.without references ↔ v ∈ s ∧ v.reference ∉ references := by
  constructor
  · rintro ⟨r, hr, hv⟩
    obtain ⟨hmem, hkept⟩ := List.mem_filter.1 hr
    exact ⟨⟨r, hmem, hv⟩, wf.visit_reference hmem hv ▸ of_decide_eq_true hkept⟩
  · rintro ⟨⟨r, hmem, hv⟩, hkept⟩
    exact ⟨r, List.mem_filter.2 ⟨hmem, decide_eq_true (wf.visit_reference hmem hv ▸ hkept)⟩, hv⟩

/-- The visits after a visit is written again. -/
theorem WellFormed.mem_writeRow_iff (wf : s.WellFormed) (hw : w ∈ s) (d : Details) {now : Instant}
    (hnow : now.HasPlainYear) :
    v ∈ s.writeRow w.id d.columns now ↔
      v = { w with details := d, modified := now } ∨ v ∈ s ∧ v.id ≠ w.id := by
  obtain ⟨row, hrow, hread⟩ := hw
  have hid : w.id = row.id := wf.visit_id hrow hread
  have hvisit : (row.write d.columns now).visit = .ok { w with details := d, modified := now } :=
    Row.visit_write hread (wf.visit_columns hrow hread) d hnow
  constructor
  · rintro ⟨r, hr, hv⟩
    rcases mem_writeRow.1 hr with ⟨hmem, hne⟩ | ⟨old, hold, hsame, rfl⟩
    · exact .inr ⟨⟨r, hmem, hv⟩, wf.visit_id hmem hv ▸ hne⟩
    · obtain rfl : old = row := wf.eq_of_id_eq hold hrow (hsame.trans hid)
      exact .inl (Except.ok.inj (hv.symm.trans hvisit))
  · rintro (rfl | ⟨⟨r, hr, hv⟩, hne⟩)
    · exact ⟨_, mem_writeRow.2 (.inr ⟨row, hrow, hid.symm, rfl⟩), hvisit⟩
    · exact ⟨r, mem_writeRow.2 (.inl ⟨hr, wf.visit_id hr hv ▸ hne⟩), hv⟩

theorem Command.Step.mem_iff (h : c.Step s s') (hs : s.Readable)
    (hclock : ∀ t, c.clock? = some t → t.HasPlainYear) :
    v ∈ s' ↔ c.written? s = some v ∨
      v ∈ s ∧ v.reference ∉ c.deletes ∧ ∀ w, c.written? s = some w → v.id ≠ w.id := by
  cases h with
  | insertion scheme now d hadmits hnow hdeletes hrewritten hwritten =>
    have hfresh : v ∈ s → v.id ≠ (s.newVisit scheme now d).id := by
      intro hv
      have hle := hs.id_le_lastId hv
      simp only [newVisit]
      omega
    have hvisit : (s.newRow scheme now d).visit = .ok (s.newVisit scheme now d) :=
      visit_newRow (hclock now hnow) d
    rw [mem_add_iff, hwritten, hdeletes, hvisit]
    simp only [Except.ok.injEq, Option.some.injEq, List.not_mem_nil, not_false_eq_true, true_and,
      forall_eq']
    tauto
  | rewriting w hw d now hnow hdeletes hrewritten hwritten =>
    rw [hs.mem_writeRow_iff hw d (hclock now hnow), hwritten, hdeletes]
    simp only [Option.some.injEq, List.not_mem_nil, not_false_eq_true, true_and, forall_eq']
    rw [eq_comm]
  | removal hwritten hrewritten =>
    rw [hs.mem_without_iff, hwritten]
    simp
  | reopening hdeletes hwritten hrewritten =>
    have hsame : v ∈ s.reopen ↔ v ∈ s := Iff.rfl
    rw [hsame, hwritten, hdeletes]
    simp

theorem Command.Step.readable (h : c.Step s s') (hs : s.Readable)
    (hclock : ∀ t, c.clock? = some t → t.HasPlainYear) : s'.Readable := by
  cases h with
  | insertion scheme now d hadmits hnow hdeletes hrewritten hwritten =>
    have hplain : now.HasPlainYear := hclock now hnow
    refine ⟨hs.add hadmits, fun r hr => ?_⟩
    rcases mem_add.1 hr with hr | rfl
    · exact hs.holds r hr
    · exact ⟨s.newVisit scheme now d, ⟨hplain, hplain⟩, rfl⟩
  | rewriting v hv d now hnow hdeletes hrewritten hwritten =>
    refine ⟨hs.toWellFormed.writeRow v.id d now, fun r hr => ?_⟩
    rcases mem_writeRow.1 hr with ⟨hr, -⟩ | ⟨old, hold, hid, rfl⟩
    · exact hs.holds r hr
    · obtain rfl : old = v.row := hs.eq_of_id_eq hold (hs.row_mem hv) hid
      exact ⟨{ v with details := d, modified := now },
        ⟨(hs.hasPlainYears hv).created, hclock now hnow⟩, rfl⟩
  | removal => exact ⟨hs.toWellFormed.without _, fun r hr => hs.holds r (List.mem_filter.1 hr).1⟩
  | reopening => exact ⟨hs.toWellFormed.reopen, hs.holds⟩

theorem Command.Step.lastId_le (h : c.Step s s') : s.lastId ≤ s'.lastId := by
  cases h with
  | insertion => exact Nat.le_succ _
  | rewriting | removal | reopening => exact Nat.le_refl _

/-- **The visits after a command**: the one that it wrote, and those from before that it neither
wrote nor deleted. -/
theorem Readable.mem_apply_iff (hs : s.Readable)
    (hclock : ∀ t, c.clock? = some t → t.HasPlainYear) :
    v ∈ c.apply s ↔ c.written? s = some v ∨
      v ∈ s ∧ v.reference ∉ c.deletes ∧ ∀ w, c.written? s = some w → v.id ≠ w.id :=
  (hs.step hclock).mem_iff hs hclock

/-- A visit that is written gets the time of the clock. It is a new one, made at that time, or a
stored one, whose reference and creation stay. -/
theorem Readable.written_cases (hs : s.Readable)
    (hclock : ∀ t, c.clock? = some t → t.HasPlainYear) (h : c.written? s = some v) :
    c.clock? = some v.modified ∧ c.deletes = [] ∧
      ((c.rewritten? s = none ∧ s.lastId < v.id ∧ v.created = v.modified) ∨
        (c.rewritten? s = some v ∧ ∃ old ∈ s, v.id = old.id ∧ v.reference = old.reference ∧
          v.created = old.created)) := by
  have hstep : c.Step s (c.apply s) := hs.step hclock
  generalize c.apply s = s' at hstep
  cases hstep with
  | insertion scheme now d hadmits hnow hdeletes hrewritten hwritten =>
    obtain rfl : s.newVisit scheme now d = v := Option.some.inj (hwritten.symm.trans h)
    refine ⟨hnow, hdeletes, .inl ⟨hrewritten, ?_, rfl⟩⟩
    simp only [newVisit]
    omega
  | rewriting old hold d now hnow hdeletes hrewritten hwritten =>
    cases hwritten.symm.trans h
    exact ⟨hnow, hdeletes, .inr ⟨hrewritten, old, hold, rfl, rfl, rfl⟩⟩
  | removal hwritten => cases hwritten.symm.trans h
  | reopening _ hwritten => cases hwritten.symm.trans h

theorem Command.written?_of_rewritten? (h : c.rewritten? s = some v) : c.written? s = some v := by
  cases c with
  | insert => cases h
  | _ => exact h

/-! ### Answers -/

/-- What a command answers is a copy of a visit that is in the store after it. -/
theorem Readable.mem_of_mem_answers (hs : s.Readable)
    (hclock : ∀ t, c.clock? = some t → t.HasPlainYear) (h : v ∈ c.answers s) : v ∈ c.apply s := by
  have hfound : ∀ x : Except StoreFault (Option Visit),
      v ∈ x.toOption.join.toList → x = .ok (some v) := by
    rintro (fault | _ | w) hx
    · cases hx
    · cases hx
    · rw [List.mem_singleton.1 hx]
  cases c with
  | findByReference reference => exact (hs.findByReference_eq_ok_some_iff.1 (hfound _ h)).1
  | findById id => exact mem_of_findById (hfound _ h)
  | findAll filter =>
    obtain ⟨vs, hvs, hplain, hrows⟩ := hs.findAll_eq_ok filter
    rw [Command.answers, hvs] at h
    have hv : v ∈ vs := h
    have hrow : v.row ∈ vs.map Visit.row := List.mem_map_of_mem hv
    rw [hrows, List.mem_mergeSort] at hrow
    exact hs.mem_iff.2 ⟨hplain v hv, (List.mem_filter.1 hrow).1⟩
  | insert | save | update | delete | deleteMany | reopen =>
    exact (hs.mem_apply_iff hclock).2 (.inl (Option.mem_toList.1 h))

/-! ### Runs -/

theorem run_readable (hs : s.Readable) (hplain : ∀ t ∈ clocks commands, t.HasPlainYear) :
    (run commands s).Readable := by
  induction commands generalizing s with
  | nil => exact hs
  | cons c commands ih =>
    obtain ⟨hclock, hrest⟩ := forall_mem_clocks_cons.1 hplain
    exact ih ((hs.step hclock).readable hs hclock) hrest

/-- What is written in years of four digits can be read. -/
theorem readable_run (hplain : ∀ t ∈ clocks commands, t.HasPlainYear) :
    (run commands .empty).Readable :=
  run_readable readable_empty hplain

end Store

end VisitBooking
