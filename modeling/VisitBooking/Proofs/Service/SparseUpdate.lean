import VisitBooking.Proofs.Service.Constraints
import VisitBooking.Proofs.Service.Decision

/-!
# An update replaces what it gives and nothing else

An update gives some parts of a visit. It is carried out if the support that it asks for is in the
catalog, if there is such a visit, and if the visit allows it: the visit is neither cancelled nor in
the past, its status may move as it is asked to, and the slot is in order when the given times are
put among the old ones. Then each given part is in the place of the old one, and all others are as
they were.

The store does not stand in the way. The row of the visit met the constraints before, an update
leaves no duplicates in a list that it gives, and the texts of the new slot are in order because its
times are, in the years 0 to 9999. What can go wrong is the instant of the write: an update that is
written after the year 9999 is in the store, but it cannot be read back and ends in a fault.

## Main definitions

* `UpdateRequest.AllowedFor`: what has to hold of a visit for an update.
* `UpdateRequest.Edits`: the details of a visit before and after an update, part by part.
* `Service.Updates`: an update that has succeeded.

## Main results

* `UpdateRequest.edits_iff`: the parts after an update are determined.
* `Service.rewrites_of_update`: an update that is allowed is written.
* `Service.updates_of_isOk`, `Service.Updates.result_eq`, `.next_eq`: success, from both sides.
* `Service.sparse_update_of_reachable`: the headline.
* `Service.update_unanswered_in_year_10000`: why the clock of the store matters.
-/

namespace VisitBooking

open Calendar Reference

/-! ### Parts before and after -/

/-- A part before and after an update that gives another one, or gives none. -/
inductive Replaced {α : Type} : Option α → α → α → Prop where
  | absent (old : α) : Replaced none old old
  | given (a old : α) : Replaced (some a) old a

/-- The same for a part that a visit may lack, and that an update may take away. -/
inductive Edited {α : Type} : Edit α → Option α → Option α → Prop where
  | absent (old : Option α) : Edited .keep old old
  | cleared (old : Option α) : Edited .clear old none
  | given (a : α) (old : Option α) : Edited (.set a) old (some a)

/-- The details of a visit before and after an update. Of the visitors and of the support that it
gives, one entry is taken for each person and for each type. -/
structure UpdateRequest.Edits (r : UpdateRequest) (d d' : Details) : Prop where
  prisoner : Replaced r.prisoner d.prisoner d'.prisoner
  prison : Replaced r.prison d.prison d'.prison
  room : Replaced r.room d.room d'.room
  type : Replaced r.type d.type d'.type
  status : Replaced r.status d.status d'.status
  restriction : Replaced r.restriction d.restriction d'.restriction
  starts : Replaced r.starts d.starts d'.starts
  ends : Replaced r.ends d.ends d'.ends
  contact : Edited r.contact d.contact d'.contact
  visitors : Replaced (r.visitors.map dedupVisitors) d.visitors d'.visitors
  support : Replaced (r.support.map dedupSupport) d.support d'.support
  outcome : d'.outcome = d.outcome
  notes : d'.notes = d.notes
  legacy : d'.legacy = d.legacy

theorem replaced_iff {α : Type} {given : Option α} {old new : α} :
    Replaced given old new ↔ new = given.getD old := by
  constructor
  · rintro (_ | _) <;> rfl
  · rintro rfl
    cases given with
    | none => exact .absent old
    | some a => exact .given a old

theorem edited_iff {α : Type} {edit : Edit α} {old new : Option α} :
    Edited edit old new ↔ new = edit.apply old := by
  constructor
  · rintro (_ | _ | _) <;> rfl
  · rintro rfl
    cases edit with
    | keep => exact .absent old
    | clear => exact .cleared old
    | set a => exact .given a old

/-- The details after an update are determined by those before. -/
theorem UpdateRequest.edits_iff {r : UpdateRequest} {d d' : Details} :
    r.Edits d d' ↔ d' = r.applyTo d := by
  rw [r.applyTo_eq]
  constructor
  · intro h
    -- For each part of `d'` there is one field, and it says which part it is.
    obtain ⟨⟩ := h
    cases d'
    simp only [replaced_iff, edited_iff] at *
    subst_vars
    rfl
  · rintro rfl
    constructor
    case contact => exact edited_iff.2 rfl
    case outcome => rfl
    case notes => rfl
    case legacy => rfl
    all_goals exact replaced_iff.2 rfl

/-! ### When an update is allowed -/

/-- What has to hold of a visit for an update. -/
structure UpdateRequest.AllowedFor (now : DateTime) (r : UpdateRequest) (v : Visit) : Prop where
  live : v.details.status ≠ .cancelled
  current : ¬ v.details.starts.toDateTime < now
  move : ∀ next, r.status = some next → v.details.status.canBecome next
  /-- The slot is in order, wherever its beginning and its end come from. -/
  slot : r.starts.getD v.details.starts < r.ends.getD v.details.ends

theorem UpdateRequest.clear_obstacles_iff {now : DateTime} {r : UpdateRequest} {v : Visit} :
    Clear (r.obstacles now v) ↔ r.AllowedFor now v := by
  simp only [obstacles, clear_cons_iff, clear_nil, and_true, not_exists, not_and, not_not,
    r.applyTo_eq]
  constructor
  · rintro ⟨hlive, hcurrent, hmove, hslot⟩
    exact ⟨hlive, hcurrent, hmove, hslot⟩
  · intro h
    exact ⟨h.live, h.current, h.move, h.slot⟩

/-! ### What the store makes of it -/

/-- An update keeps the columns of a visit in order, in the years 0 to 9999. -/
theorem UpdateRequest.valid_applyTo {r : UpdateRequest} {d : Details} (hvalid : d.columns.Valid)
    (hplain : (r.applyTo d).Plain) (hslot : (r.applyTo d).starts < (r.applyTo d).ends) :
    (r.applyTo d).columns.Valid := by
  obtain ⟨-, hpersons, hsupport⟩ := Details.valid_columns_iff.1 hvalid
  refine Details.valid_columns_iff.2 ⟨?_, r.persons_applyTo_nodup hpersons,
    r.support_applyTo_nodup hsupport⟩
  exact (LocalTime.column_lt_column_iff hplain.starts hplain.ends).2 hslot

theorem UpdateRequest.plain_applyTo {reference : String} {r : UpdateRequest} {d : Details}
    (htimes : ∀ t ∈ (Operation.update reference r).times, t.HasPlainYear) (hd : d.Plain) :
    (r.applyTo d).Plain := by
  rw [Operation.times_of_edit? rfl, List.forall_mem_append] at htimes
  rw [r.applyTo_eq]
  exact ⟨getD_of_forall_mem_toList htimes.1 hd.starts, getD_of_forall_mem_toList htimes.2 hd.ends⟩

namespace Store

variable {s : Store} {v : Visit} {reference : String}

/-- Where all rows are read, no row has a reference that no visit has. -/
theorem WellFormed.reference_ne (wf : s.WellFormed) (hreadable : ∀ r ∈ s.rows, ∃ v, r.visit = .ok v)
    (h : ∀ v ∈ s, v.reference ≠ reference) : ∀ r ∈ s.rows, r.reference ≠ reference := by
  intro r hr href
  obtain ⟨v, hv⟩ := hreadable r hr
  exact h v ⟨r, hr, hv⟩ ((wf.visit_reference hr hv).trans href)

theorem plain_of_mem (hplain : ∀ r ∈ s.rows, r.Plain) (hv : v ∈ s) : v.details.Plain := by
  obtain ⟨r, hr, hrv⟩ := hv
  obtain ⟨w, hw, hplain⟩ := hplain r hr
  obtain rfl : v = w := Except.ok.inj (hrv.symm.trans hw)
  exact hplain

end Store

/-! ### Updates that are carried out -/

namespace Service

variable {svc : Service} {s : Store} {c : Call} {reference : String} {request : UpdateRequest}
  {v : Visit}

/-- An update that nothing is in the way of is written. -/
theorem rewrites_of_update (hs : s.Reachable) (hplain : ∀ r ∈ s.rows, r.Plain)
    (hc : c.operation = .update reference request)
    (htimes : ∀ t ∈ c.operation.times, t.HasPlainYear)
    (hsupport : Clear (supportObstacles s.catalog c.operation.support)) (hv : v ∈ s)
    (href : v.reference = reference)
    (hallowed : request.AllowedFor (svc.wallClock c.readings.now) v) :
    svc.Rewrites c s v (request.applyTo v.details) := by
  have hclear := UpdateRequest.clear_obstacles_iff.2 hallowed
  have hslot : (request.applyTo v.details).starts < (request.applyTo v.details).ends := by
    rw [request.applyTo_eq]
    exact hallowed.slot
  have hvalid := request.valid_applyTo (hs.valid_of_mem hv)
    (UpdateRequest.plain_applyTo (hc ▸ htimes) (Store.plain_of_mem hplain hv)) hslot
  exact rewrites_of_ok (revision?_of_update hc _) hs.wellFormed hsupport hv href
    ((decides_updateVisit _ request v).accepted hclear) hvalid

/-- An update that is written in the years 0 to 9999 is answered with the visit. It is not
announced. -/
theorem Rewrites.report_of_update {d : Details} (h : svc.Rewrites c s v d)
    (hc : c.operation = .update reference request) (hwrite : c.readings.write.HasPlainYear) :
    (svc.report c s).result =
        .ok (.visit { v with details := d, modified := c.readings.write }) ∧
      (svc.report c s).attempt = none := by
  rw [report_eq, h.outcome hwrite, hc]
  exact ⟨rfl, rfl⟩

/-! ### Updates that have succeeded -/

variable {r : Row} {w : Visit}

/-- An update has succeeded: it has read the visit `v` from the row `r`, nothing was in its way, and
it has read the visit `w` back from what it has written. -/
structure Updates (svc : Service) (c : Call) (request : UpdateRequest) (s : Store) (r : Row)
    (v w : Visit) : Prop where
  mem : r ∈ s.rows
  operation : c.operation = .update r.reference request
  read : r.visit = .ok v
  known : Clear (supportObstacles s.catalog (request.support.getD []))
  allowed : request.AllowedFor (svc.wallClock c.readings.now) v
  valid : (request.applyTo v.details).columns.Valid
  written : (r.write (request.applyTo v.details).columns c.readings.write).visit = .ok w

theorem Updates.commits (h : svc.Updates c request s r v w) :
    svc.Commits c.readings c.operation s
      (r.write (request.applyTo v.details).columns c.readings.write)
      (s.writeRow r.id (request.applyTo v.details).columns c.readings.write) := by
  have hop := revision?_of_update h.operation (svc.wallClock c.readings.now)
  have hsupport : Clear (supportObstacles s.catalog c.operation.support) := by
    rw [h.operation]
    exact h.known
  have hclear := UpdateRequest.clear_obstacles_iff.2 h.allowed
  exact .revision r h.mem _ hop (ready_of_revision? hop hsupport) v _ h.read
    ((decides_updateVisit _ request v).accepted hclear) h.valid

/-- What has succeeded is answered with the visit that is read back. -/
theorem Updates.result_eq (h : svc.Updates c request s r v w) (wf : s.WellFormed) :
    (svc.report c s).result = .ok (.visit w) := by
  rw [report_eq, perform_of_commits wf h.commits, h.written, h.operation]
  rfl

theorem Updates.next_eq (h : svc.Updates c request s r v w) (wf : s.WellFormed) :
    svc.next c s = s.writeRow r.id (request.applyTo v.details).columns c.readings.write :=
  congrArg Prod.snd (perform_of_commits wf h.commits)

/-- What is answered with a success has succeeded. -/
theorem updates_of_isOk (wf : s.WellFormed) (hc : c.operation = .update reference request)
    (hok : (svc.report c s).result.isOk) :
    ∃ r v w, r.reference = reference ∧ svc.Updates c request s r v w := by
  have hop := revision?_of_update hc (svc.wallClock c.readings.now)
  rcases declines_or_commits hop wf with
    ⟨f, hdeclines⟩ | ⟨r, hr, href, hready, v, u, hv, hu, hvalid, hcommits⟩
  · exact absurd hok hdeclines.not_isOk
  · obtain ⟨hclear, rfl⟩ := (decides_updateVisit _ request v).clear_of_eq_ok hu
    obtain ⟨hknown, -⟩ := (decides_checkSupport _ _).clear_of_eq_ok hready.support
    rw [report_eq, perform_of_commits wf hcommits] at hok
    cases hw : (r.write (request.applyTo v.details).columns c.readings.write).visit with
    | error fault =>
      rw [hw] at hok
      cases hok
    | ok w =>
      rw [hc] at hknown
      exact ⟨r, v, w, href, hr, href ▸ hc, hv, hknown, UpdateRequest.clear_obstacles_iff.1 hclear,
        hvalid, hw⟩

/-! ### The headline -/

/-- **An update replaces what it gives and nothing else.** In every store that can be reached and
whose visits have times in the years 0 to 9999, take an update that gives times in these years. If
it is written in one of these years, it succeeds if and only if the support that it asks for is
known, there is such a visit, and the visit allows it. Whenever it is written, the first thing that
is in the way is what it is refused with: unknown support, then that there is no such visit, then
the obstacles of the visit in their order; and then it leaves the store as it was. If nothing is in
the way, the visit is written with the given parts in the place of the old ones and all others as
they were, and no other visit is touched; and if it is written in the years 0 to 9999, it is the
answer, and nothing is published. -/
theorem sparse_update_of_reachable (svc : Service) {s : Store} (hs : s.Reachable)
    (hplain : ∀ r ∈ s.rows, r.Plain) (reference : String) (request : UpdateRequest)
    (htimes : ∀ t ∈ (Operation.update reference request).times, t.HasPlainYear)
    (readings : Readings) (verdict : Verdict) :
    let c : Call := ⟨readings, verdict, .update reference request⟩
    let now := svc.wallClock readings.now
    let known := ∀ need ∈ request.support.getD [], ∃ t ∈ s.catalog, t.name = need.type
    (readings.write.HasPlainYear → ((svc.report c s).result.isOk ↔
      known ∧ ∃ v ∈ s, v.reference = reference ∧ request.AllowedFor now v)) ∧
    (∀ reason, FirstObstacle (supportObstacles s.catalog (request.support.getD [])) reason →
      svc.Declines c s (.refused reason)) ∧
    (known → (∀ v ∈ s, v.reference ≠ reference) → svc.Declines c s (.notFound reference)) ∧
    ∀ v ∈ s, v.reference = reference → known →
      (∀ reason, FirstObstacle (request.obstacles now v) reason →
        svc.Declines c s (.refused reason)) ∧
      (request.AllowedFor now v → ∃ d, request.Edits v.details d ∧ svc.Rewrites c s v d ∧
        (readings.write.HasPlainYear →
          (svc.report c s).result =
            .ok (.visit { v with details := d, modified := readings.write }) ∧
          (svc.report c s).attempt = none)) := by
  intro c now known
  have wf : s.WellFormed := hs.wellFormed
  have hop : c.operation.revision? (svc.wallClock c.readings.now) =
      some (reference, updateVisit now request) := rfl
  have hknown : Clear (supportObstacles s.catalog (request.support.getD [])) ↔ known :=
    clear_supportObstacles_iff
  have hunknown : ∀ reason,
      FirstObstacle (supportObstacles s.catalog (request.support.getD [])) reason →
      svc.Declines c s (.refused reason) := fun reason hfirst =>
    declines_of_unknownSupport hop hfirst
  have hmissing : known → (∀ v ∈ s, v.reference ≠ reference) →
      svc.Declines c s (.notFound reference) := fun h hnone =>
    declines_of_missing hop (hknown.2 h) <|
      wf.reference_ne (fun r hr => (hplain r hr).imp fun _ hv => hv.1) hnone
  have hobstacle : ∀ v ∈ s, v.reference = reference → known → ∀ reason,
      FirstObstacle (request.obstacles now v) reason → svc.Declines c s (.refused reason) :=
    fun v hv href h reason hfirst => declines_of_obstacle hop (hknown.2 h) wf hv href
      ((decides_updateVisit now request v).refused reason hfirst)
  have hwritten : ∀ v ∈ s, v.reference = reference → known → request.AllowedFor now v →
      svc.Rewrites c s v (request.applyTo v.details) := fun v hv href h hallowed =>
    rewrites_of_update hs hplain rfl htimes (hknown.2 h) hv href hallowed
  refine ⟨fun hwrite => ⟨fun hok => ?_, ?_⟩, hunknown, hmissing, fun v hv href h =>
    ⟨hobstacle v hv href h, fun hallowed => ?_⟩⟩
  · obtain ⟨r, v, w, href, hupdates⟩ := updates_of_isOk wf rfl hok
    have hreference : v.reference = r.reference := wf.visit_reference hupdates.mem hupdates.read
    exact ⟨hknown.1 hupdates.known, v, ⟨r, hupdates.mem, hupdates.read⟩, hreference.trans href,
      hupdates.allowed⟩
  · rintro ⟨h, v, hv, href, hallowed⟩
    rw [((hwritten v hv href h hallowed).report_of_update rfl hwrite).1]
    rfl
  · exact ⟨_, UpdateRequest.edits_iff.2 rfl, hwritten v hv href h hallowed,
      fun hwrite => (hwritten v hv href h hallowed).report_of_update rfl hwrite⟩

/-- A visit gets other visitors, one of them named twice, and loses its contact. -/
theorem sparse_update_of_visitors_and_contact :
    let svc : Service := default
    let ends : LocalTime := ⟨⟨⟨1970, 1, 2, by decide⟩, default⟩, by decide⟩
    let create : CreateRequest :=
      { (default : CreateRequest) with ends, contact := some ⟨"a", "b"⟩, visitors := [⟨1⟩] }
    let s := svc.after [⟨default, .refused, .create create⟩] .empty
    let v : Visit := ⟨1, svc.codec.encode 1, create.details, default, default⟩
    let request : UpdateRequest := { contact := .clear, visitors := some [⟨2⟩, ⟨3⟩, ⟨2⟩] }
    let c : Call := ⟨default, .refused, .update v.reference request⟩
    s.Reachable ∧ (∀ r ∈ s.rows, r.Plain) ∧ (∀ t ∈ c.operation.times, t.HasPlainYear) ∧ v ∈ s ∧
      request.AllowedFor (svc.wallClock c.readings.now) v ∧ (svc.report c s).result.isOk ∧
      ∃ d, request.Edits v.details d ∧ d.contact = none ∧ d.visitors = [⟨2⟩, ⟨3⟩] ∧
        svc.Rewrites c s v d ∧
        (svc.report c s).result = .ok (.visit { v with details := d, modified := default }) := by
  intro svc ends create s v request c
  have hs : s.Reachable := .call .empty svc ⟨default, .refused, .create create⟩
  have hplain : ∀ r ∈ s.rows, r.Plain := svc.plain_after (by decide +kernel)
  have htimes : ∀ t ∈ c.operation.times, t.HasPlainYear := fun t ht => absurd ht List.not_mem_nil
  have hv : v ∈ s := by decide +kernel
  have hallowed : request.AllowedFor (svc.wallClock c.readings.now) v :=
    ⟨by decide, by decide +kernel, nofun, by decide +kernel⟩
  have hknown : ∀ need ∈ request.support.getD [], ∃ t ∈ s.catalog, t.name = need.type :=
    fun need hneed => absurd hneed List.not_mem_nil
  obtain ⟨hok, -, -, hfound⟩ := sparse_update_of_reachable svc hs hplain v.reference request htimes
    c.readings c.verdict
  obtain ⟨d, hedits, hrewrites, hreport⟩ := (hfound v hv rfl hknown).2 hallowed
  obtain rfl : d = request.applyTo v.details := UpdateRequest.edits_iff.1 hedits
  have hwrite : c.readings.write.HasPlainYear := by decide +kernel
  exact ⟨hs, hplain, htimes, hv, hallowed, (hok hwrite).2 ⟨hknown, v, hv, rfl, hallowed⟩, _, hedits,
    rfl, by decide +kernel, hrewrites, (hreport hwrite).1⟩

/-- An update that nothing is in the way of, and that gives nothing, is not answered with the visit
if it is written in the year 10000. -/
theorem update_unanswered_in_year_10000 :
    let svc : Service := default
    let ends : LocalTime := ⟨⟨⟨1970, 1, 2, by decide⟩, default⟩, by decide⟩
    let write : Instant := ⟨⟨⟨10000, 1, 1, by decide⟩, default⟩, by decide⟩
    let create : CreateRequest := { (default : CreateRequest) with ends }
    let s := svc.after [⟨default, .refused, .create create⟩] .empty
    let v : Visit := ⟨1, svc.codec.encode 1, create.details, default, default⟩
    let request : UpdateRequest := {}
    let c : Call := ⟨⟨default, write⟩, .refused, .update v.reference request⟩
    s.Reachable ∧ (∀ r ∈ s.rows, r.Plain) ∧ c.operation.times = [] ∧ request.support = none ∧
      v ∈ s ∧ request.AllowedFor (svc.wallClock c.readings.now) v ∧
      (svc.report c s).result = .error (.store .unreadableTime) := by
  intro svc ends write create s v request c
  have hplain : ∀ r ∈ s.rows, r.Plain := svc.plain_after (by decide +kernel)
  exact ⟨.call .empty svc ⟨default, .refused, .create create⟩, hplain, rfl, rfl, by decide +kernel,
    ⟨by decide, by decide +kernel, nofun, by decide +kernel⟩, by decide +kernel⟩

end Service

end VisitBooking
