import Mathlib.Data.List.Induction
import VisitBooking.Proofs.Service.Lifecycle
import VisitBooking.Proofs.Store.History

/-!
# What holds of every stored visit

Every stored visit is *sound*: its slot is in order, no person and no type of support comes twice,
the support is in the catalog, and a cancelled visit has an outcome. The operations establish this
in different ways: a request is checked or its lists are made free of duplicates, an update replaces
some parts and keeps the others, and a cancellation comes with an outcome. What a visit owes to the
way it came in is its *lineage*: a booked visit has an outcome only by being cancelled and never any
data of another system, an imported one has an outcome from the start and keeps such data, and
notes are kept, to which a cancellation adds at most one.

## Main definitions

* `Details.Sound`, `Details.Lineage`.
* `Service.GoesBack`: a row goes back to the call that put it in.

## Main results

* `Service.forall_row_after`: the induction on a run, for a property of rows.
* `Operation.Ready.sound_insertion`, `Visit.Revision.sound`: each write keeps visits sound.
* `Visit.Revision.lineage`: each revision keeps the lineage.
* `Service.contents_of_run`: the headline.
-/

namespace VisitBooking

open Calendar Reference

/-! ### Rows along a run -/

namespace Service

variable {svc : Service} {readings : Readings} {op : Operation} {s s' : Store}

/-- A row after an operation was there before, or it is the one that was written. -/
theorem Performed.mem_or_commits {outcome : Except Refusal Effect}
    (h : svc.Performed readings op s outcome s') (wf : s.WellFormed) {r : Row} (hr : r ∈ s'.rows) :
    r ∈ s.rows ∨ svc.Commits readings op s r s' := by
  cases h with
  | committed r' _ hcommits =>
    rcases hcommits.mem_or_eq wf hr with hold | rfl
    · exact .inl hold
    · exact .inr hcommits
  | answered => exact .inl (List.mem_filter.1 hr).1
  | _ => exact .inl hr

theorem after_concat (svc : Service) (calls : List Call) (c : Call) (s : Store) :
    svc.after (calls ++ [c]) s = svc.next c (svc.after calls s) := by
  simp [after]

/-- What holds of each row when it is written, and of a row that is there whatever call comes next,
holds of all rows after any calls. -/
theorem forall_row_after (svc : Service) {P : List Call → Row → Prop}
    (keep : ∀ calls c r, P calls r → P (calls ++ [c]) r)
    (commit : ∀ calls c r, (svc.after calls .empty).Keyed svc.codec →
      (∀ old ∈ (svc.after calls .empty).rows, P calls old) →
      svc.Commits c.readings c.operation (svc.after calls .empty) r
        (svc.next c (svc.after calls .empty)) → P (calls ++ [c]) r)
    (calls : List Call) : ∀ r ∈ (svc.after calls .empty).rows, P calls r := by
  induction calls using List.reverseRecOn with
  | nil => exact fun r hr => absurd hr List.not_mem_nil
  | append_singleton calls c ih =>
    intro r hr
    rw [after_concat] at hr
    have hs : (svc.after calls .empty).Keyed svc.codec :=
      keyed_after (Store.keyed_empty svc.codec) calls
    have hperformed := svc.performed hs.toWellFormed c.readings c.operation
    rcases hperformed.mem_or_commits hs.toWellFormed hr with hold | hcommits
    · exact keep calls c r (ih r hold)
    · exact commit calls c r hs ih hcommits

theorem catalog_after (svc : Service) (calls : List Call) :
    (svc.after calls .empty).catalog = SupportType.all := by
  induction calls using List.reverseRecOn with
  | nil => exact SupportType.seeded_nil
  | append_singleton calls c ih =>
    have hs : (svc.after calls .empty).Keyed svc.codec :=
      keyed_after (Store.keyed_empty svc.codec) calls
    rw [after_concat, (svc.step_next hs.toWellFormed c).catalog_eq, ih]

end Service

/-! ### Sound visits -/

/-- What holds of the details of a stored visit, given the kinds of support that there are. -/
structure Details.Sound (catalog : List SupportType) (d : Details) : Prop where
  /-- The visit begins before it ends. -/
  slot : d.starts < d.ends
  /-- No person comes twice. -/
  persons_nodup : (d.visitors.map Visitor.person).Nodup
  /-- No type of support comes twice. -/
  support_nodup : (d.support.map SupportNeed.type).Nodup
  /-- Each type of support is in the catalog. -/
  support_known : ∀ need ∈ d.support, ∃ t ∈ catalog, t.name = need.type
  /-- A cancelled visit has an outcome. -/
  outcome_of_cancelled : d.status = .cancelled → d.outcome.isSome

theorem checkSlot_eq_ok_iff {d : Details} : checkSlot d = .ok () ↔ d.starts < d.ends := by
  rw [checkSlot]
  split <;> simp_all [Details.hasValidSlot]

theorem checkCreate_eq_ok_iff {r : CreateRequest} :
    checkCreate r = .ok () ↔ r.status ≠ .cancelled ∧ r.starts < r.ends := by
  have hslot : checkSlot r.details = .ok () ↔ r.starts < r.ends := checkSlot_eq_ok_iff
  rw [← hslot, ← VisitStatus.isTerminal_iff.ne]
  unfold checkCreate
  split
  · simp [*, bind, Except.bind]
  · simp [*, bind, Except.bind]

theorem checkSupport_eq_ok_iff {catalog : List SupportType} {needs : List SupportNeed} :
    checkSupport catalog needs = .ok () ↔ ∀ need ∈ needs, ∃ t ∈ catalog, t.name = need.type := by
  induction needs with
  | nil => simp [checkSupport]
  | cons need needs ih =>
    rw [checkSupport, List.forall_mem_cons, ← ih]
    cases h : SupportType.named? need.type catalog with
    | none =>
      have hno : ¬ ∃ t ∈ catalog, t.name = need.type := by
        simpa [SupportType.named?] using h
      simp [hno]
    | some t =>
      have hmem : t ∈ catalog := List.mem_of_find?_eq_some h
      have hname : t.name = need.type := by simpa using List.find?_some h
      simp only [Option.isNone_some, Bool.false_eq_true, if_false]
      exact ⟨fun hrest => ⟨⟨t, hmem, hname⟩, hrest⟩, And.right⟩

/-- A visit that is put in has passed the checks, and its lists have no duplicates. -/
theorem Operation.Ready.sound_insertion {catalog : List SupportType} {op : Operation} {d : Details}
    (hready : op.Ready catalog) (hop : op.insertion? = some d) : d.Sound catalog := by
  have hcheck := hready.check
  cases op with
  | create r =>
    cases hop
    obtain ⟨hlive, hslot⟩ := checkCreate_eq_ok_iff.1 hcheck
    have hknown := checkSupport_eq_ok_iff.1 hready.support
    exact {
      slot := hslot
      persons_nodup := nodup_dedupBy ..
      support_nodup := nodup_dedupBy ..
      support_known := fun need hneed => hknown need (mem_of_mem_dedupBy hneed)
      outcome_of_cancelled := fun hcancelled => absurd hcancelled hlive }
  | migrate r =>
    cases hop
    exact {
      slot := checkSlot_eq_ok_iff.1 hcheck
      persons_nodup := nodup_dedupBy ..
      support_nodup := List.nodup_nil
      support_known := nofun
      outcome_of_cancelled := fun _ => rfl }
  | _ => cases hop

/-- An update does not cancel. -/
theorem UpdateRequest.status_applyTo_ne {r : UpdateRequest} {v : Visit}
    (hmove : checkMove v r.status = .ok ()) (hlive : v.details.status ≠ .cancelled) :
    (r.applyTo v.details).status ≠ .cancelled := by
  have hstatus := r.status_applyTo v.details
  rcases status_of_checkMove hmove with hstay | ⟨-, hbooked⟩
  · rwa [hstatus, hstay]
  · rw [hstatus, hbooked]
    decide

theorem UpdateRequest.persons_applyTo_nodup (r : UpdateRequest) {d : Details}
    (h : (d.visitors.map Visitor.person).Nodup) :
    ((r.applyTo d).visitors.map Visitor.person).Nodup := by
  have hvisitors : (r.applyTo d).visitors = (r.visitors.map dedupVisitors).getD d.visitors := by
    rw [r.applyTo_eq]
  rw [hvisitors]
  cases r.visitors with
  | none => exact h
  | some visitors => exact nodup_dedupBy ..

theorem UpdateRequest.support_applyTo_nodup (r : UpdateRequest) {d : Details}
    (h : (d.support.map SupportNeed.type).Nodup) :
    ((r.applyTo d).support.map SupportNeed.type).Nodup := by
  have hsupport : (r.applyTo d).support = (r.support.map dedupSupport).getD d.support := by
    rw [r.applyTo_eq]
  rw [hsupport]
  cases r.support with
  | none => exact h
  | some support => exact nodup_dedupBy ..

/-- The support after an update is that of the update or that of before. -/
theorem UpdateRequest.mem_support_applyTo {r : UpdateRequest} {d : Details} {need : SupportNeed}
    (h : need ∈ (r.applyTo d).support) : need ∈ r.support.getD [] ∨ need ∈ d.support := by
  have hsupport : (r.applyTo d).support = (r.support.map dedupSupport).getD d.support := by
    rw [r.applyTo_eq]
  rw [hsupport] at h
  cases hr : r.support with
  | none =>
    rw [hr] at h
    exact .inr h
  | some support =>
    rw [hr] at h
    exact .inl (mem_of_mem_dedupBy h)

/-- A revision keeps a visit sound: of what it puts in the place of something else, it has checked
the slot and the support, and made the lists free of duplicates. -/
theorem Visit.Revision.sound {catalog : List SupportType} {op : Operation} {reference : String}
    {now : DateTime} {v w : Visit} (h : v.Revision op reference now w) (hready : op.Ready catalog)
    (hv : v.details.Sound catalog) : w.details.Sound catalog := by
  cases h with
  | edit r hop hlive _ hmove hslot =>
    have hsupport := hready.support
    rw [Operation.support_of_edit? hop] at hsupport
    exact {
      slot := checkSlot_eq_ok_iff.1 hslot
      persons_nodup := r.persons_applyTo_nodup hv.persons_nodup
      support_nodup := r.support_applyTo_nodup hv.support_nodup
      support_known := fun need hneed =>
        (UpdateRequest.mem_support_applyTo hneed).elim
          (checkSupport_eq_ok_iff.1 hsupport need) (hv.support_known need)
      outcome_of_cancelled := fun hcancelled =>
        absurd hcancelled (UpdateRequest.status_applyTo_ne hmove hlive) }
  | cancellation reason =>
    rw [v.cancelFor_eq]
    exact {
      slot := hv.slot
      persons_nodup := hv.persons_nodup
      support_nodup := hv.support_nodup
      support_known := hv.support_known
      outcome_of_cancelled := fun _ => rfl }

/-! ### The lineage of a visit -/

/-- What a stored visit owes to the operation that put it in as `d₀`. -/
structure Details.Lineage (op : Operation) (d₀ d : Details) : Prop where
  notes : d₀.NotesFollow d
  /-- A booked visit has an outcome only by being cancelled, and comes from no other system. -/
  booked : ∀ r, op = .create r → (d.outcome.isSome ↔ d.status = .cancelled) ∧ d.legacy = none
  /-- An imported visit has an outcome, and what ties it to the other system. -/
  imported : ∀ r, op = .migrate r → d.outcome.isSome ∧ d.legacy = r.legacy

theorem Operation.Ready.lineage_insertion {catalog : List SupportType} {op : Operation}
    {d : Details} (hready : op.Ready catalog) (hop : op.insertion? = some d) :
    d.Lineage op d := by
  refine ⟨.refl d, ?_, ?_⟩
  · rintro r rfl
    cases hop
    obtain ⟨hlive, -⟩ := checkCreate_eq_ok_iff.1 hready.check
    exact ⟨⟨nofun, fun hcancelled => absurd hcancelled hlive⟩, rfl⟩
  · rintro r rfl
    cases hop
    exact ⟨rfl, rfl⟩

theorem Visit.Revision.lineage {op op₀ : Operation} {reference : String} {now : DateTime}
    {v w : Visit} (h : v.Revision op reference now w) {d₀ : Details}
    (hv : d₀.Lineage op₀ v.details) : d₀.Lineage op₀ w.details := by
  refine ⟨hv.notes.trans h.revised.notesFollow, fun r hr => ?_, fun r hr => ?_⟩
  · obtain ⟨houtcome, hlegacy⟩ := hv.booked r hr
    cases h with
    | edit u hop hlive _ hmove =>
      have hlive' := UpdateRequest.status_applyTo_ne hmove hlive
      rw [u.applyTo_eq] at hlive' ⊢
      exact ⟨⟨fun h => absurd (houtcome.1 h) hlive, fun h => absurd h hlive'⟩, hlegacy⟩
    | cancellation reason =>
      rw [v.cancelFor_eq]
      exact ⟨⟨fun _ => rfl, fun _ => rfl⟩, hlegacy⟩
  · obtain ⟨houtcome, hlegacy⟩ := hv.imported r hr
    cases h with
    | edit u =>
      rw [u.applyTo_eq]
      exact ⟨houtcome, hlegacy⟩
    | cancellation =>
      rw [v.cancelFor_eq]
      exact ⟨rfl, hlegacy⟩

/-- The notes are those that the visit was put in with, and after them at most one, which tells of
the cancellation. -/
theorem Details.NotesFollow.cases {d₀ d : Details} (h : d₀.NotesFollow d) :
    d.notes = d₀.notes ∨ d.status = .cancelled ∧ d₀.status ≠ .cancelled ∧
      ∃ text, d.notes = d₀.notes ++ [⟨.visitOutcomes, text⟩] := by
  rcases h.notes_eq with hnotes | ⟨text, hnotes⟩
  · exact .inl hnotes
  · rcases h with ⟨hsame, -⟩ | ⟨hlive, hcancelled, -⟩
    · exact .inl hsame
    · exact .inr ⟨hcancelled, hlive, text, hnotes⟩

/-! ### Where rows go back to -/

namespace Service

/-- A row goes back to a call that put the visit in. -/
structure GoesBack (svc : Service) (calls : List Call) (c : Call) (d₀ : Details) (r : Row) :
    Prop where
  insertion : c.operation.insertion? = some d₀
  committed : ∃ before later, calls = before ++ c :: later ∧
    let s := svc.after before .empty
    let r₀ := s.newRow svc.codec c.readings.write d₀
    svc.Commits c.readings c.operation s r₀ (svc.next c s) ∧ r₀.SameOrigin r

theorem GoesBack.concat {svc : Service} {calls : List Call} {c : Call} {d₀ : Details} {r : Row}
    (h : svc.GoesBack calls c d₀ r) (c' : Call) : svc.GoesBack (calls ++ [c']) c d₀ r := by
  obtain ⟨before, later, rfl, hcommits⟩ := h.committed
  exact ⟨h.insertion, before, later ++ [c'], by simp, hcommits⟩

theorem GoesBack.write {svc : Service} {calls : List Call} {c : Call} {d₀ : Details} {r : Row}
    (h : svc.GoesBack calls c d₀ r) (columns : Columns) (now : Instant) :
    svc.GoesBack calls c d₀ (r.write columns now) := by
  obtain ⟨before, later, hcalls, hcommits, horigin⟩ := h.committed
  exact ⟨h.insertion, before, later, hcalls, hcommits, horigin.trans (r.sameOrigin_write ..)⟩

/-- A stored visit goes back to a call that put it in, has the lineage of that call, and is sound.
-/
def Accounted (svc : Service) (calls : List Call) (r : Row) : Prop :=
  ∃ (c : Call) (d₀ d : Details), svc.GoesBack calls c d₀ r ∧ r.columns = d.columns ∧
    d.Sound SupportType.all ∧ d₀.Lineage c.operation d

theorem Accounted.concat {svc : Service} {calls : List Call} {r : Row}
    (h : svc.Accounted calls r) (c : Call) : svc.Accounted (calls ++ [c]) r := by
  obtain ⟨c₀, d₀, d, hback, hrest⟩ := h
  exact ⟨c₀, d₀, d, hback.concat c, hrest⟩

/-- A row that is put in is accounted for by the call, and one that is written again by the call
that accounted for it before. -/
theorem accounted_of_commits {svc : Service} {calls : List Call} {c : Call} {r : Row}
    (hrows : ∀ old ∈ (svc.after calls .empty).rows, svc.Accounted calls old)
    (h : svc.Commits c.readings c.operation (svc.after calls .empty) r
      (svc.next c (svc.after calls .empty))) : svc.Accounted (calls ++ [c]) r := by
  have hcatalog := svc.catalog_after calls
  generalize hs' : svc.next c (svc.after calls .empty) = s' at h
  cases h with
  | insertion d hop hready hadmits =>
    have hcommits := Commits.insertion d hop hready hadmits
    rw [hcatalog] at hready
    refine ⟨c, d, d, ⟨hop, calls, [], rfl, ?_, .refl _⟩, rfl, hready.sound_insertion hop,
      hready.lineage_insertion hop⟩
    exact hs' ▸ hcommits
  | revision r₁ hr₁ change hop hready v w hv hw hvalid =>
    rw [hcatalog] at hready
    obtain ⟨c₀, d₀, d, hback, hd, hsound, hlineage⟩ := hrows r₁ hr₁
    obtain ⟨-, -, rfl, -, -⟩ := (Row.visit_eq_ok_iff hd).1 hv
    have hrevision := c.operation.revision_of_eq_ok hop hw
    exact ⟨c₀, d₀, w.details, (hback.concat c).write .., rfl, hrevision.sound hready hsound,
      hrevision.lineage hlineage⟩

theorem accounted_after (svc : Service) (calls : List Call) :
    ∀ r ∈ (svc.after calls .empty).rows, svc.Accounted calls r :=
  svc.forall_row_after (fun _ c _ h => h.concat c) (fun _ _ _ _ => accounted_of_commits) calls

/-! ### The headline -/

/-- Whatever calls come: each stored visit goes back to the call that put it in; its slot is in
order, no person and no type of support comes twice, each type of support is in the catalog, and if
it is cancelled it has an outcome. If it was booked, it has an outcome only if it is cancelled, and
no data of another system; if it was imported, it has an outcome and the data it came with. Its
notes are those it was put in with, and after them at most one on the outcome, which is there only
if the visit has been cancelled since. -/
theorem contents_of_run (svc : Service) (calls : List Call) :
    let s := svc.after calls .empty
    ∀ r ∈ s.rows, ∃ (c : Call) (d₀ d : Details), svc.GoesBack calls c d₀ r ∧
      r.columns = d.columns ∧ (∀ v, r.visit = .ok v → v.details = d) ∧
      d.Sound s.catalog ∧ d₀.Lineage c.operation d ∧
      (d.notes = d₀.notes ∨ d.status = .cancelled ∧ d₀.status ≠ .cancelled ∧
        ∃ text, d.notes = d₀.notes ++ [⟨.visitOutcomes, text⟩]) := by
  intro s r hr
  obtain ⟨c, d₀, d, hback, hd, hsound, hlineage⟩ := svc.accounted_after calls r hr
  have hdetails : ∀ v, r.visit = .ok v → v.details = d :=
    fun v hv => ((Row.visit_eq_ok_iff hd).1 hv).2.2.1
  exact ⟨c, d₀, d, hback, hd, hdetails, svc.catalog_after calls ▸ hsound, hlineage,
    hlineage.notes.cases⟩

/-- A visit that was booked and then cancelled with a remark. -/
theorem contents_of_run_cancelled_booking :
    let svc : Service := default
    let ends : LocalTime := ⟨⟨⟨1970, 1, 2, by decide⟩, default⟩, by decide⟩
    let calls : List Call :=
      [⟨default, .refused, .create { (default : CreateRequest) with ends }⟩,
        ⟨default, .refused, .cancel (svc.codec.encode 1) (some ⟨.notRecorded, some "late"⟩)⟩]
    ∃ r ∈ (svc.after calls .empty).rows, r.columns.notes = [("VISIT_OUTCOMES", "late")] ∧
      ∃ (c : Call) (d₀ d : Details), svc.GoesBack calls c d₀ r ∧ r.columns = d.columns ∧
        d.Sound (svc.after calls .empty).catalog ∧ d₀.Lineage c.operation d := by
  intro svc ends calls
  have hrow : ∃ r ∈ (svc.after calls .empty).rows,
      r.columns.notes = [("VISIT_OUTCOMES", "late")] := by
    decide +kernel
  obtain ⟨r, hr, hnotes⟩ := hrow
  obtain ⟨c, d₀, d, hback, hd, -, hsound, hlineage, -⟩ := contents_of_run svc calls r hr
  exact ⟨r, hr, hnotes, c, d₀, d, hback, hd, hsound, hlineage⟩

end Service

end VisitBooking
