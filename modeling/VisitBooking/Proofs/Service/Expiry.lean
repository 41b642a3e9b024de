import VisitBooking.Proofs.Service.Decision
import VisitBooking.Proofs.Service.Failures
import VisitBooking.Proofs.Zone.WallClock

/-!
# Visits of the past

A visit is in the past if it begins before what the clock on the wall shows. It begins at a
date-time and in no particular zone, so of the two hours that look alike when clocks are put back it
cannot be said which one is meant. What was in the past may therefore come to be ahead again, for as
long as the clock on the wall is back behind where it was. This is all that can happen: as long as
the clock on the wall shows no earlier date-time, what is in the past stays there.

A call that is refused because its visit is in the past has looked at the clock, and the visit
begins before what it showed. From then on the visit is in the past for every call whose clock shows
nothing earlier. No such call writes it, so it stays the same until it is deleted; and after that
its reference is not given out again.

## Main definitions

* `TellsPast`: a table of checks that tells of the past for visits of the past only.

## Main results

* `Service.exists_row_of_expired`: what a refusal tells of the store.
* `Service.unchanged_of_expired`: what becomes of the visit after it.
* `Service.expired_stays_iff`: what stays in the past, for all visits.
* `Service.expiry_of_run`: the headline.
* `Service.expiry_undone_when_clocks_go_back`: clocks that are put back undo it.
-/

namespace VisitBooking

open Calendar Reference

variable {now : DateTime} {reference : String} {action : PastAction} {v : Visit}

theorem Visit.isExpired_iff : v.isExpired now ↔ v.details.starts.toDateTime < now :=
  decide_eq_true_iff

/-- What is in the past stays there as long as no earlier date-time is shown. -/
theorem Visit.isExpired_of_not_lt {later : DateTime} (h : v.isExpired now)
    (hlater : ¬ later < now) : v.isExpired later :=
  isExpired_iff.2 (Int.lt_of_lt_of_le (isExpired_iff.1 h) (Int.not_lt.1 hlater))

/-! ### Refusals that tell of the past -/

/-- Among the obstacles, only that the visit is in the past is told as such, and it is told of the
visit itself. -/
def TellsPast (now : DateTime) (v : Visit) (obstacles : List Obstacle) : Prop :=
  ∀ o ∈ obstacles, o.holds → ∀ reference action, o.refusal = .expired reference action →
    v.reference = reference ∧ v.isExpired now

theorem UpdateRequest.tellsPast (r : UpdateRequest) : TellsPast now v (r.obstacles now v) := by
  simp [TellsPast, obstacles, Visit.isExpired_iff]

theorem SlotChange.tellsPast (c : SlotChange) : TellsPast now v (c.obstacles now v) := by
  simp [TellsPast, obstacles, Visit.isExpired_iff]

theorem tellsPast_cancelObstacles (reason : Option CancelReason) :
    TellsPast now v (cancelObstacles now reason v) := by
  simp [TellsPast, cancelObstacles, Visit.isExpired_iff]

theorem Decides.isExpired {α : Type} {obstacles : List Obstacle} {x : Except Refusal α} {a : α}
    (h : Decides obstacles x a) (hpast : TellsPast now v obstacles)
    (hx : x = .error (.expired reference action)) : v.reference = reference ∧ v.isExpired now := by
  obtain ⟨o, ho, hholds, hrefusal⟩ := h.exists_of_eq_error hx
  exact hpast o ho hholds reference action hrefusal

namespace Operation

variable {op : Operation} {asked : String} {change : Visit → Except Refusal Visit}

/-- A visit that is refused as being in the past is in the past, and it is the one that is named. -/
theorem isExpired_of_refused (hop : op.revision? now = some (asked, change))
    (h : change v = .error (.expired reference action)) :
    v.reference = reference ∧ v.isExpired now := by
  cases op with
  | update _ r =>
    obtain ⟨-, rfl⟩ := Prod.mk.inj (Option.some.inj hop)
    exact (decides_updateVisit now r v).isExpired r.tellsPast h
  | change _ c =>
    obtain ⟨-, rfl⟩ := Prod.mk.inj (Option.some.inj hop)
    exact (decides_changeVisit now c v).isExpired c.tellsPast h
  | cancel _ reason =>
    obtain ⟨-, rfl⟩ := Prod.mk.inj (Option.some.inj hop)
    exact (decides_cancelVisit now reason v).isExpired (tellsPast_cancelObstacles reason) h
  | _ => cases hop

/-- A visit of the past is not revised. -/
theorem not_isExpired_of_eq_ok {w : Visit} (hop : op.revision? now = some (asked, change))
    (h : change v = .ok w) : ¬ v.isExpired now :=
  fun hpast => (op.revision_of_eq_ok hop h).revised.current (Visit.isExpired_iff.1 hpast)

end Operation

/-- The checks on a request by itself do not tell of the past. -/
theorem Operation.exists_decides_check (op : Operation) : ∃ obstacles,
    Decides obstacles op.check () ∧
      ∀ o ∈ obstacles, ∀ reference action, o.refusal ≠ .expired reference action := by
  cases op with
  | create r => exact ⟨_, decides_checkCreate r, by simp⟩
  | migrate r => exact ⟨_, decides_checkSlot r.details, by simp⟩
  | _ => exact ⟨[], decides_ok (), by simp⟩

namespace Service

variable {svc : Service} {s : Store} {c : Call}

/-- The past is not told of before a visit is looked at. -/
theorem prepare_ne_expired (svc : Service) (catalog : List SupportType) (now : Instant)
    (op : Operation) : svc.prepare catalog now op ≠ .error (.expired reference action) := by
  intro h
  obtain ⟨obstacles, hcheck, hother⟩ := op.exists_decides_check
  obtain ⟨o, ho, -, hrefusal⟩ := (decides_prepare hcheck catalog now).exists_of_eq_error h
  rcases List.mem_append.1 ho with ho | ho
  · exact hother o ho reference action hrefusal
  · obtain ⟨need, -, rfl⟩ := List.mem_map.1 ho
    cases hrefusal

/-- A call that is refused because a visit is in the past has found it in the store, and it is. The
store is as it was. -/
theorem exists_row_of_expired (wf : s.WellFormed)
    (h : (svc.report c s).result = .error (.refused (.expired reference action))) :
    svc.next c s = s ∧ ∃ r ∈ s.rows, r.reference = reference ∧ ∃ v, r.visit = .ok v ∧
      v.isExpired (svc.wallClock c.readings.now) := by
  have hperformed := svc.performed wf c.readings c.operation
  rw [report_eq] at h
  rw [next_eq]
  generalize svc.perform c.readings c.operation s = p at hperformed h ⊢
  obtain ⟨outcome, s'⟩ := p
  cases hperformed with
  | refused reason hprepare =>
    cases h
    exact absurd hprepare (svc.prepare_ne_expired _ _ _)
  | missing | unreadable | notAdmitted | notValid | answered => cases h
  | declined r hr change hop v hv reason hchange =>
    cases h
    obtain ⟨href, hpast⟩ := Operation.isExpired_of_refused hop hchange
    exact ⟨rfl, r, hr, (wf.visit_reference hr hv).symm.trans href, v, hv, hpast⟩
  | committed r =>
    cases hv : r.visit with
    | error fault =>
      rw [hv] at h
      cases h
    | ok v =>
      rw [hv] at h
      obtain ⟨k, -, hpublished, -⟩ := conclude_written_eq_error h
      cases hpublished

/-! ### Calls for which a visit is in the past -/

/-- Calls for which a visit is in the past leave its row as it is, or delete it; no other row gets
its reference. -/
theorem eq_after_of_past (hs : s.Keyed svc.codec) {n : Nat} (hn : n ≤ s.lastId) {r : Row}
    {d : Details} (hd : r.columns = d.columns)
    (h : ∀ r' ∈ s.rows, r'.reference = svc.codec.encode n → r' = r) {calls : List Call}
    (hpast : ∀ c ∈ calls, d.starts.toDateTime < svc.wallClock c.readings.now) :
    ∀ r' ∈ (svc.after calls s).rows, r'.reference = svc.codec.encode n → r' = r := by
  induction calls generalizing s with
  | nil => exact h
  | cons c calls ih =>
    have hstep := svc.step_next hs.toWellFormed c
    refine ih (hstep.keyed hs) (Nat.le_trans hn hstep.lastId_le) (fun r' hr' href => ?_)
      fun c' hc' => hpast c' (List.mem_cons_of_mem c hc')
    obtain ⟨r₀, hr₀, href₀, heq | hrev⟩ :=
      hstep.eq_or_revises_of_reference hs.toWellFormed hn hr' href
    · exact heq.trans (h r₀ hr₀ href₀)
    · obtain rfl : r₀ = r := h r₀ hr₀ href₀
      exact absurd hrev (not_revisesRow hd (.inr (hpast c (List.mem_cons_self ..))))

/-- A call to revise a visit fails and leaves nothing behind, if every visit with the reference is
in the past. -/
theorem declines_of_past (wf : s.WellFormed) {change : Visit → Except Refusal Visit}
    (hop : c.operation.revision? (svc.wallClock c.readings.now) = some (reference, change))
    (h : ∀ v ∈ s, v.reference = reference → v.isExpired (svc.wallClock c.readings.now)) :
    ∃ f, svc.Declines c s f := by
  refine (declines_or_commits hop wf).resolve_right ?_
  rintro ⟨r, hr, href, -, v, w, hv, hw, -⟩
  have hpast := h v ⟨r, hr, hv⟩ ((wf.visit_reference hr hv).trans href)
  exact Operation.not_isExpired_of_eq_ok hop hw hpast

/-- Once a call is refused because a visit is in the past, the visit stays as it is, for calls whose
clock shows no earlier date-time, until one of them deletes it. -/
theorem unchanged_of_expired (hs : s.Keyed svc.codec)
    (h : (svc.report c s).result = .error (.refused (.expired reference action))) :
    ∃ v ∈ s, v.reference = reference ∧ v.isExpired (svc.wallClock c.readings.now) ∧
      ∀ later : List Call,
        (∀ c' ∈ later, ¬ svc.wallClock c'.readings.now < svc.wallClock c.readings.now) →
        (∀ u ∈ svc.after (c :: later) s, u.reference = reference → u = v) ∧
        ((∀ c' ∈ later, reference ∉ c'.operation.deletes) → v ∈ svc.after (c :: later) s) := by
  obtain ⟨hsame, r, hr, rfl, v, hv, hexpired⟩ := exists_row_of_expired hs.toWellFormed h
  have hd : r.columns = v.details.columns := hs.visit_columns hr hv
  refine ⟨v, ⟨r, hr, hv⟩, hs.visit_reference hr hv, hexpired, fun later hlater => ?_⟩
  have hafter : svc.after (c :: later) s = svc.after later s := congrArg (svc.after later) hsame
  have hpast : ∀ c' ∈ later, v.details.starts.toDateTime < svc.wallClock c'.readings.now :=
    fun c' hc' => Visit.isExpired_iff.1 (Visit.isExpired_of_not_lt hexpired (hlater c' hc'))
  rw [hafter]
  refine ⟨?_, fun hdel => ⟨r, ?_, hv⟩⟩
  · rintro u ⟨r', hr', hu⟩ href
    obtain ⟨n, hn, -, hencode⟩ := hs.reference_eq r hr
    have hunique : ∀ r' ∈ s.rows, r'.reference = svc.codec.encode n → r' = r := fun r' hr' href' =>
      hs.eq_of_reference_eq hr' hr (href'.trans hencode.symm)
    have hkeyed : (svc.after later s).Keyed svc.codec := keyed_after hs later
    have href' : r'.reference = svc.codec.encode n :=
      ((hkeyed.visit_reference hr' hu).symm.trans href).trans hencode
    obtain rfl : r' = r := eq_after_of_past hs hn hd hunique hpast r' hr' href'
    exact Except.ok.inj (hu.symm.trans hv)
  · exact mem_after hs hr hd (fun c' hc' => .inr (hpast c' hc')) hdel

/-- What is in the past stays there for all visits only if no earlier date-time is shown: a visit
that begins then is ahead again. -/
theorem expired_stays_iff {t u : Instant} (hyear : RepresentableYear (svc.wallClock u).date.year) :
    (∀ v : Visit, v.isExpired (svc.wallClock t) → v.isExpired (svc.wallClock u)) ↔
      ¬ svc.wallClock u < svc.wallClock t := by
  refine ⟨fun hstays hback => ?_, fun hnow v h => Visit.isExpired_of_not_lt h hnow⟩
  let starts : LocalTime := ⟨svc.wallClock u, hyear⟩
  let v : Visit := { (default : Visit) with details := { (default : Details) with starts } }
  have hlater : v.isExpired (svc.wallClock u) := hstays v (Visit.isExpired_iff.2 hback)
  exact Int.lt_irrefl _ (Visit.isExpired_iff.1 hlater)

/-! ### The headline -/

/-- **Expiry is permanent as long as the clock on the wall is not put back.** Whatever the zone, a
visit that is in the past at an instant is in the past at every other one at which the clock on the
wall shows no earlier date-time. Of a later instant an earlier date-time is shown just if clocks are
put back in between by more than the time that passes; this takes a smaller offset, and it is over
within two days. If they are not, what is in the past stays there for all visits, and if they are,
then it does not.

So once a call is refused because a visit is in the past, this visit is in the store, and it is the
same for as long as calls come whose clock shows no earlier date-time, until one of them deletes it.
All calls to update, move or cancel it fail and leave the store as it is, as long as their clock
shows no earlier date-time either. -/
theorem expiry_of_run (svc : Service) (calls : List Call) :
    let s := svc.after calls .empty
    let zone := svc.notifier.zone
    (∀ (v : Visit) (t u : Instant), v.isExpired (svc.wallClock t) →
      ¬ svc.wallClock u < svc.wallClock t → v.isExpired (svc.wallClock u)) ∧
    (∀ t u : Instant, ¬ u < t → zone.KeepsTime t → zone.KeepsTime u →
      (svc.wallClock u < svc.wallClock t ↔ zone.PutsBack t u) ∧
      (zone.PutsBack t u → zone.offsetAt u < zone.offsetAt t ∧ u.seconds < t.seconds + 172800) ∧
      (RepresentableYear (svc.wallClock u).date.year →
        ((∀ v : Visit, v.isExpired (svc.wallClock t) → v.isExpired (svc.wallClock u)) ↔
          ¬ zone.PutsBack t u))) ∧
    ∀ (c : Call) (reference : String) (action : PastAction),
      (svc.report c s).result = .error (.refused (.expired reference action)) →
      ∃ v ∈ s, v.reference = reference ∧ v.isExpired (svc.wallClock c.readings.now) ∧
        ∀ later : List Call,
          (∀ c' ∈ later, ¬ svc.wallClock c'.readings.now < svc.wallClock c.readings.now) →
          let s' := svc.after (c :: later) s
          (∀ u ∈ s', u.reference = reference → u = v) ∧
          ((∀ c' ∈ later, reference ∉ c'.operation.deletes) → v ∈ s') ∧
          ∀ (c' : Call) (change : Visit → Except Refusal Visit),
            ¬ svc.wallClock c'.readings.now < svc.wallClock c.readings.now →
            c'.operation.revision? (svc.wallClock c'.readings.now) = some (reference, change) →
            ∃ f, svc.Declines c' s' f := by
  intro s zone
  refine ⟨fun v t u => Visit.isExpired_of_not_lt, fun t u htu ht hu => ?_,
    fun c reference action h => ?_⟩
  · have hshown : svc.wallClock u < svc.wallClock t ↔ zone.PutsBack t u :=
      Zone.localTime_lt_iff ht hu
    exact ⟨hshown, fun hback => ⟨hback.offset_lt htu, hback.seconds_lt ht hu⟩,
      fun hyear => (expired_stays_iff hyear).trans (not_congr hshown)⟩
  · have hs : s.Keyed svc.codec := keyed_after (Store.keyed_empty svc.codec) calls
    obtain ⟨v, hv, href, hexpired, hlater⟩ := unchanged_of_expired hs h
    refine ⟨v, hv, href, hexpired, fun later hnow => ?_⟩
    obtain ⟨hsame, hstays⟩ := hlater later hnow
    refine ⟨hsame, hstays, fun c' change hnow' hop => ?_⟩
    have wf : (svc.after (c :: later) s).WellFormed := (keyed_after hs (c :: later)).toWellFormed
    refine declines_of_past wf hop fun u hu huref => ?_
    rw [hsame u hu huref]
    exact Visit.isExpired_of_not_lt hexpired hnow'

/-- In the night in which the clocks of London are put back it is a quarter to two twice. A visit of
half past one is in the past the first time, and it still is the second time, an hour later. Once
its cancellation has been refused the first time, it fails the second time. -/
theorem expiry_of_run_second_time_round :
    let london : Zone := ⟨"Europe/London", 0, [(1774746000, 3600), (1792890000, 0)]⟩
    let svc : Service := { (default : Service) with notifier.zone := london }
    let night : Date := ⟨2026, 10, 25, by decide⟩
    let starts : LocalTime := ⟨⟨night, ⟨1, 30, 0, 0, by decide⟩⟩, by decide⟩
    let ends : LocalTime := ⟨⟨night, ⟨2, 30, 0, 0, by decide⟩⟩, by decide⟩
    let first : Instant := ⟨⟨⟨night, ⟨0, 45, 0, 0, by decide⟩⟩, by decide⟩⟩
    let second : Instant := ⟨⟨⟨night, ⟨1, 45, 0, 0, by decide⟩⟩, by decide⟩⟩
    let create : CreateRequest := { (default : CreateRequest) with starts, ends }
    let s := svc.after [⟨default, .refused, .create create⟩] .empty
    let v : Visit := ⟨1, svc.codec.encode 1, create.details, default, default⟩
    let cancel (now : Instant) : Call :=
      ⟨⟨now, now⟩, .refused, .cancel v.reference (some ⟨.notRecorded, none⟩)⟩
    (v.isExpired (svc.wallClock first) ∧ ¬ svc.wallClock second < svc.wallClock first ∧
      v.isExpired (svc.wallClock second)) ∧
    (first < second ∧ london.KeepsTime first ∧ london.KeepsTime second ∧
      ¬ london.PutsBack first second) ∧
    (svc.report (cancel first) s).result = .error (.refused (.expired v.reference .cancelled)) ∧
    ∃ f, svc.Declines (cancel second) (svc.after [cancel first] s) f := by
  intro london svc night starts ends first second create s v cancel
  obtain ⟨hstays, hclock, hrefused⟩ :=
    expiry_of_run svc [⟨default, .refused, .create create⟩]
  have hexpired : v.isExpired (svc.wallClock first) := by decide +kernel
  have hnow : ¬ svc.wallClock second < svc.wallClock first := by decide +kernel
  have hfirst : london.KeepsTime first := ⟨by decide +kernel, by decide +kernel⟩
  have hsecond : london.KeepsTime second := ⟨by decide +kernel, by decide +kernel⟩
  have hresult : (svc.report (cancel first) s).result =
      .error (.refused (.expired v.reference .cancelled)) := by decide +kernel
  have hputs := (hclock first second (by decide +kernel) hfirst hsecond).1
  obtain ⟨_, _, _, _, hlater⟩ := hrefused (cancel first) v.reference .cancelled hresult
  obtain ⟨-, -, hdeclines⟩ := hlater [] fun _ h => absurd h List.not_mem_nil
  exact ⟨⟨hexpired, hnow, hstays v first second hexpired hnow⟩,
    ⟨by decide +kernel, hfirst, hsecond, mt hputs.2 hnow⟩, hresult,
    hdeclines (cancel second) _ hnow rfl⟩

/-- In the same night the visit is in the past at a quarter to two, and it is not half an hour
later, when it is a quarter past one again. Its cancellation is refused first, and then it is
cancelled. -/
theorem expiry_undone_when_clocks_go_back :
    let london : Zone := ⟨"Europe/London", 0, [(1774746000, 3600), (1792890000, 0)]⟩
    let svc : Service := { (default : Service) with notifier.zone := london }
    let night : Date := ⟨2026, 10, 25, by decide⟩
    let starts : LocalTime := ⟨⟨night, ⟨1, 30, 0, 0, by decide⟩⟩, by decide⟩
    let ends : LocalTime := ⟨⟨night, ⟨2, 30, 0, 0, by decide⟩⟩, by decide⟩
    let earlier : Instant := ⟨⟨⟨night, ⟨0, 45, 0, 0, by decide⟩⟩, by decide⟩⟩
    let later : Instant := ⟨⟨⟨night, ⟨1, 15, 0, 0, by decide⟩⟩, by decide⟩⟩
    let create : CreateRequest := { (default : CreateRequest) with starts, ends }
    let s := svc.after [⟨default, .refused, .create create⟩] .empty
    let v : Visit := ⟨1, svc.codec.encode 1, create.details, default, default⟩
    let cancel (now : Instant) : Call :=
      ⟨⟨now, now⟩, .refused, .cancel v.reference (some ⟨.notRecorded, none⟩)⟩
    v ∈ s ∧ earlier < later ∧
      v.isExpired (svc.wallClock earlier) ∧ ¬ v.isExpired (svc.wallClock later) ∧
      (svc.report (cancel earlier) s).result =
        .error (.refused (.expired v.reference .cancelled)) ∧
      (svc.report (cancel later) (svc.after [cancel earlier] s)).result =
        .ok (.visit { v.cancelFor ⟨.notRecorded, none⟩ with modified := later }) := by
  decide +kernel

end Service

end VisitBooking
