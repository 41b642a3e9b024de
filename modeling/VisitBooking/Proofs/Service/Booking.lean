import VisitBooking.Proofs.Service.Constraints
import VisitBooking.Proofs.Service.Decision
import VisitBooking.Proofs.Service.Noninterference
import VisitBooking.Proofs.Store.Insertion
import VisitBooking.Proofs.Visit.Keyed

/-!
# Visits that are booked, and visits that are imported

Two operations put a visit in. They check little: a booking must not be cancelled, its slot has to
be in order and its support known, and of an imported visit only the slot is looked at. The checks
of each are told as a table of obstacles, and then one statement serves both: with an obstacle in
the way the call is refused with the first one, and otherwise the visit is put in. The store never
stands in the way, since what has passed the checks meets the constraints, and no reference comes up
twice while the services that work on the store use one codec.

What is put in is told part by part. The parts of a request are stored as they are, except that
there is one visitor for each person and one support need for each type; a booking begins without
outcome and without any data of another system, and an imported visit has both an outcome and a
contact, whatever it came with. It is found under its reference as it was put in, unless the clock
of the store shows a year that is not read back.

## Main definitions

* `CreateRequest.Books`, `MigrateRequest.Imports`: the details that a request asks for.
* `CreateRequest.obstacles`, `MigrateRequest.obstacles`: what is in its way.
* `Store.Served`: the stores that services with one codec lead to.
* `Service.Adds`: a call has put a visit in.

## Main results

* `Service.adds_of_clear`: a call with nothing in its way puts its visit in.
* `Service.insertion_decided`: only such a call does.
* `Service.booking_of_served`: the headline.
* `Service.booking_unreadable_in_year_10000`: why the clock of the store matters.
-/

namespace VisitBooking

open Calendar Reference

/-! ### What a request asks for -/

/-- The details of a visit that is booked. -/
structure CreateRequest.Books (r : CreateRequest) (d : Details) : Prop where
  prisoner : d.prisoner = r.prisoner
  prison : d.prison = r.prison
  room : d.room = r.room
  type : d.type = r.type
  status : d.status = r.status
  restriction : d.restriction = r.restriction
  starts : d.starts = r.starts
  ends : d.ends = r.ends
  contact : d.contact = r.contact
  visitors : OnePerKey Visitor.person r.visitors d.visitors
  support : OnePerKey SupportNeed.type r.support d.support
  notes : d.notes = r.notes
  outcome : d.outcome = none
  legacy : d.legacy = none

theorem CreateRequest.books_details (r : CreateRequest) : r.Books r.details := by
  constructor
  case visitors => exact onePerKey_dedupBy ..
  case support => exact onePerKey_dedupBy ..
  all_goals rfl

/-- A part of a contact as it was given, or the word that stands in for it. -/
inductive Filled : Option String → String → Prop where
  | given (text : String) : Filled (some text) text
  | missing : Filled none "UNKNOWN"

theorem filled_getD (part : Option String) : Filled part (part.getD unknownPart) := by
  cases part with
  | none => exact .missing
  | some text => exact .given text

/-- The details of a visit that is imported. A part of the contact is also missing if there is no
contact at all. -/
structure MigrateRequest.Imports (r : MigrateRequest) (d : Details) : Prop where
  prisoner : d.prisoner = r.prisoner
  prison : d.prison = r.prison
  room : d.room = r.room
  type : d.type = r.type
  status : d.status = r.status
  restriction : d.restriction = r.restriction
  starts : d.starts = r.starts
  ends : d.ends = r.ends
  contact : ∃ contact, d.contact = some contact ∧
    Filled (r.contact.bind LegacyContact.name) contact.name ∧
    Filled (r.contact.bind LegacyContact.telephone) contact.telephone
  visitors : OnePerKey Visitor.person r.visitors d.visitors
  support : d.support = []
  notes : d.notes = r.notes
  outcome : d.outcome = some (r.outcome.getD .notRecorded)
  legacy : d.legacy = r.legacy

theorem MigrateRequest.imports_details (r : MigrateRequest) : r.Imports r.details := by
  constructor
  case visitors => exact onePerKey_dedupBy ..
  case contact =>
    refine ⟨_, rfl, ?_⟩
    cases r.contact with
    | none => exact ⟨.missing, .missing⟩
    | some contact => exact ⟨filled_getD contact.name, filled_getD contact.telephone⟩
  all_goals rfl

/-! ### What is in the way of a request -/

/-- What is in the way of a booking. -/
def CreateRequest.obstacles (catalog : List SupportType) (r : CreateRequest) : List Obstacle :=
  [ ⟨r.status = .cancelled, .bornTerminal r.status⟩,
    ⟨¬ r.starts < r.ends, .badSlot r.starts r.ends⟩ ] ++ supportObstacles catalog r.support

/-- What is in the way of an import. -/
def MigrateRequest.obstacles (r : MigrateRequest) : List Obstacle :=
  [⟨¬ r.starts < r.ends, .badSlot r.starts r.ends⟩]

theorem CreateRequest.clear_obstacles_iff {catalog : List SupportType} {r : CreateRequest} :
    Clear (r.obstacles catalog) ↔ r.status ≠ .cancelled ∧ r.starts < r.ends ∧
      ∀ need ∈ r.support, ∃ t ∈ catalog, t.name = need.type := by
  rw [obstacles, List.cons_append, List.cons_append, List.nil_append, clear_cons_iff,
    clear_cons_iff, clear_supportObstacles_iff, not_not]

theorem MigrateRequest.clear_obstacles_iff {r : MigrateRequest} :
    Clear r.obstacles ↔ r.starts < r.ends := by
  rw [obstacles, clear_cons_iff, not_not]
  exact and_iff_left clear_nil

namespace Service

variable {svc : Service} {c : Call} {s : Store} {d : Details} {obstacles : List Obstacle}

/-! ### Calls that put a visit in -/

/-- A call has put the visit with these details in, and tells of it what `told` says. -/
structure Adds (svc : Service) (c : Call) (s : Store) (d : Details) (told : Visit → Answer) :
    Prop where
  /-- There is one row more. -/
  store : svc.next c s = s.add (s.newRow svc.codec c.readings.write d)
  /-- The visit is found under its reference. -/
  found : (svc.next c s).findByReference (svc.codec.encode (s.lastId + 1)) =
    if c.readings.write.HasPlainYear then .ok (some (s.newVisit svc.codec c.readings.write d))
    else .error .unreadableTime
  answer : svc.Responds c s
    (if c.readings.write.HasPlainYear then
      .ok (told (s.newVisit svc.codec c.readings.write d))
    else .error (.store .unreadableTime))

theorem Adds.next_ne {told : Visit → Answer} (h : svc.Adds c s d told) : svc.next c s ≠ s := by
  intro heq
  have hlast : (svc.next c s).lastId = s.lastId + 1 := by rw [h.store]; rfl
  rw [heq] at hlast
  omega

section Insertion

variable (hs : s.Keyed svc.codec) (hop : c.operation.insertion? = some d)
  (hprepare : Decides obstacles (svc.prepare s.catalog c.readings.now c.operation)
    (svc.transaction c.readings.now c.operation))

include hprepare in
theorem declines_of_firstObstacle {reason : Refusal} (h : FirstObstacle obstacles reason) :
    svc.Declines c s (.refused reason) :=
  declines_of_perform_eq_error (perform_of_prepare_eq_error (hprepare.refused reason h))

include hs hop hprepare in
/-- With nothing in the way of a call, its visit is put in. -/
theorem adds_of_clear (htimes : ∀ t ∈ c.operation.times, t.HasPlainYear) (h : Clear obstacles)
    {told : Visit → Answer} (htold : ∀ v, (c.operation.written (.ok v)).result = .ok (told v)) :
    svc.Adds c s d told := by
  obtain ⟨hcheck, hsupport, -⟩ := prepare_eq_ok_iff.1 (hprepare.accepted h)
  have hready : c.operation.Ready s.catalog := ⟨hcheck, hsupport⟩
  have hadmits := admits_of_ready hs hop hready htimes c.readings.write
  have hperform := perform_of_commits hs.toWellFormed (.insertion d hop hready hadmits)
  have hstore : svc.next c s = s.add (s.newRow svc.codec c.readings.write d) :=
    congrArg Prod.snd hperform
  have htakes : s.Takes svc.codec d := Store.admits_newRow_iff.1 hadmits
  have hfound := Store.findByReference_add_newRow hs.toWellFormed htakes c.readings.write
  have hanswer : svc.Responds c s _ := exists_responds hs.toWellFormed c
  rw [← hstore] at hfound
  rw [hperform] at hanswer
  by_cases hwrite : c.readings.write.HasPlainYear
  · rw [Store.visit_newRow hwrite] at hfound hanswer
    refine ⟨hstore, ?_, ?_⟩
    · rw [if_pos hwrite, hfound]
      rfl
    · rw [if_pos hwrite, Store.newVisit, ← htold]
      exact hanswer
  · rw [Store.visit_newRow_eq_error hwrite] at hfound hanswer
    refine ⟨hstore, ?_, ?_⟩
    · rw [if_neg hwrite, hfound]
      rfl
    · rw [if_neg hwrite]
      exact hanswer

include hs hop hprepare in
/-- A call puts its visit in just if nothing is in its way, and is refused otherwise. -/
theorem insertion_decided (htimes : ∀ t ∈ c.operation.times, t.HasPlainYear)
    {told : Visit → Answer} (htold : ∀ v, (c.operation.written (.ok v)).result = .ok (told v)) :
    (svc.next c s ≠ s ↔ Clear obstacles) ∧
    (∀ reason, FirstObstacle obstacles reason → svc.Declines c s (.refused reason)) ∧
    (svc.next c s ≠ s → svc.Adds c s d told) := by
  have hdeclines : ∀ reason, FirstObstacle obstacles reason → svc.Declines c s (.refused reason) :=
    fun _ hfirst => declines_of_firstObstacle hprepare hfirst
  have hadds : Clear obstacles → svc.Adds c s d told :=
    fun hclear => adds_of_clear hs hop hprepare htimes hclear htold
  have hclear : svc.next c s ≠ s → Clear obstacles := fun hne => by
    rcases exists_firstObstacle_or_clear obstacles with ⟨reason, hfirst⟩ | hclear
    · exact absurd (hdeclines reason hfirst).store hne
    · exact hclear
  exact ⟨⟨hclear, fun h => (hadds h).next_ne⟩, hdeclines, fun hne => hadds (hclear hne)⟩

end Insertion

end Service

/-! ### The headline -/

/-- A store on which services with one codec work. It may be closed and opened again in between. -/
inductive Store.Served (codec : Codec) : Store → Prop where
  | empty : Served codec .empty
  | call {s : Store} (h : s.Served codec) (svc : Service) (hcodec : svc.codec = codec) (c : Call) :
      Served codec (svc.next c s)
  | reopen {s : Store} (h : s.Served codec) : Served codec s.reopen

theorem Store.Served.keyed {codec : Codec} {s : Store} (h : s.Served codec) : s.Keyed codec := by
  induction h with
  | empty => exact keyed_empty codec
  | call _ svc hcodec c ih =>
    cases hcodec
    exact Service.keyed_next ih c
  | reopen _ ih => exact ⟨ih.toWellFormed.reopen, ih.reference_eq⟩

/-- **What can be booked or imported, and what is then stored.** Let services with one codec work on
a store, and take a request with times in the years 0 to 9999.

A booking changes the store just if it is not cancelled, begins before it ends and asks for known
support only; an import just if it begins before it ends. Otherwise the call is refused with the
first obstacle in the table of the request. If the store changes, it has one row more, for a visit
with the details that the request asks for, and this visit is told and found under its reference,
if the clock of the store shows a year of four digits. -/
theorem Service.booking_of_served (svc : Service) {s : Store} (hs : s.Served svc.codec) (c : Call) :
    (∀ r : CreateRequest, c.operation = .create r → r.starts.HasPlainYear → r.ends.HasPlainYear →
      (svc.next c s ≠ s ↔ r.status ≠ .cancelled ∧ r.starts < r.ends ∧
        ∀ need ∈ r.support, ∃ t ∈ s.catalog, t.name = need.type) ∧
      (∀ reason, FirstObstacle (r.obstacles s.catalog) reason →
        svc.Declines c s (.refused reason)) ∧
      (svc.next c s ≠ s → ∃ d, r.Books d ∧ svc.Adds c s d .visit)) ∧
    ∀ r : MigrateRequest, c.operation = .migrate r → r.starts.HasPlainYear → r.ends.HasPlainYear →
      (svc.next c s ≠ s ↔ r.starts < r.ends) ∧
      (∀ reason, FirstObstacle r.obstacles reason → svc.Declines c s (.refused reason)) ∧
      (svc.next c s ≠ s → ∃ d, r.Imports d ∧ svc.Adds c s d fun v => .reference v.reference) := by
  refine ⟨?_, ?_⟩
  · intro r hc hstarts hends
    have hcheck : Decides _ (Operation.create r).check () := decides_checkCreate r
    have hprepare : Decides (r.obstacles s.catalog)
        (svc.prepare s.catalog c.readings.now c.operation)
        (svc.transaction c.readings.now c.operation) := by
      rw [hc]
      exact decides_prepare hcheck s.catalog c.readings.now
    have hop : c.operation.insertion? = some r.details := by rw [hc]; rfl
    have htimes : ∀ t ∈ c.operation.times, t.HasPlainYear := by
      simpa [hc, Operation.times] using ⟨hstarts, hends⟩
    have htold : ∀ v, (c.operation.written (.ok v)).result = .ok (.visit v) := by
      rw [hc]
      exact fun _ => rfl
    obtain ⟨hiff, hdeclines, hadds⟩ := insertion_decided hs.keyed hop hprepare htimes htold
    exact ⟨hiff.trans CreateRequest.clear_obstacles_iff, hdeclines,
      fun hne => ⟨r.details, r.books_details, hadds hne⟩⟩
  · intro r hc hstarts hends
    have hcheck : Decides _ (Operation.migrate r).check () := decides_checkSlot r.details
    have hprepare : Decides r.obstacles (svc.prepare s.catalog c.readings.now c.operation)
        (svc.transaction c.readings.now c.operation) := by
      rw [hc]
      exact decides_prepare hcheck s.catalog c.readings.now
    have hop : c.operation.insertion? = some r.details := by rw [hc]; rfl
    have htimes : ∀ t ∈ c.operation.times, t.HasPlainYear := by
      simpa [hc, Operation.times] using ⟨hstarts, hends⟩
    have htold : ∀ v, (c.operation.written (.ok v)).result = .ok (.reference v.reference) := by
      rw [hc]
      exact fun _ => rfl
    obtain ⟨hiff, hdeclines, hadds⟩ := insertion_decided hs.keyed hop hprepare htimes htold
    exact ⟨hiff.trans MigrateRequest.clear_obstacles_iff, hdeclines,
      fun hne => ⟨r.details, r.imports_details, hadds hne⟩⟩

/-- A visit is imported with half a contact, and another one is booked with a visitor and a kind of
support given twice. The same booking with a final status and an empty slot is refused because of
the status. -/
theorem Service.booking_of_served_duplicates :
    let svc : Service := default
    let ends : LocalTime := ⟨⟨⟨1970, 1, 2, by decide⟩, default⟩, by decide⟩
    let m : MigrateRequest :=
      { (default : MigrateRequest) with ends, contact := some ⟨some "A", none⟩ }
    let r : CreateRequest :=
      { (default : CreateRequest) with
        ends
        visitors := [⟨1⟩, ⟨2⟩, ⟨1⟩]
        support := [⟨"OTHER", none⟩, ⟨"OTHER", some "B"⟩] }
    let r' : CreateRequest := { r with status := .cancelled, ends := r.starts }
    let migrate : Call := ⟨default, .refused, .migrate m⟩
    let create : Call := ⟨default, .refused, .create r⟩
    let create' : Call := ⟨default, .refused, .create r'⟩
    let s := svc.next migrate .empty
    s.Served svc.codec ∧
      (∃ d, m.Imports d ∧ svc.Adds migrate .empty d fun v => .reference v.reference) ∧
      (∃ d, r.Books d ∧ svc.Adds create s d .visit) ∧
      ((svc.next create s).rows.map fun row => (row.columns.contact, row.columns.visitors)) =
        [(some ("A", "UNKNOWN"), []), (none, [1, 2])] ∧
      svc.Declines create' s (.refused (.bornTerminal .cancelled)) := by
  intro svc ends m r r' migrate create create' s
  have hempty : Store.Served svc.codec .empty := .empty
  have hs : s.Served svc.codec := .call hempty svc rfl migrate
  have hstarts : r.starts.HasPlainYear := by decide
  have hends : ends.HasPlainYear := by decide
  obtain ⟨-, hmigrate⟩ := svc.booking_of_served hempty migrate
  obtain ⟨hcommits, -, himported⟩ := hmigrate m rfl hstarts hends
  obtain ⟨hcreate, -⟩ := svc.booking_of_served hs create
  obtain ⟨hcommits', -, hbooked⟩ := hcreate r rfl hstarts hends
  obtain ⟨hcreate', -⟩ := svc.booking_of_served hs create'
  obtain ⟨-, hrefused, -⟩ := hcreate' r' rfl hstarts hstarts
  exact ⟨hs, himported (hcommits.2 (by decide)), hbooked (hcommits'.2 (by decide +kernel)),
    by decide +kernel, hrefused _ (.here rfl)⟩

/-- A booking that the store writes in the year 10000 is committed, and is not found afterwards. -/
theorem Service.booking_unreadable_in_year_10000 :
    let svc : Service := default
    let ends : LocalTime := ⟨⟨⟨1970, 1, 2, by decide⟩, default⟩, by decide⟩
    let late : Instant := ⟨⟨⟨10000, 1, 1, by decide⟩, default⟩, by decide⟩
    let r : CreateRequest := { (default : CreateRequest) with ends }
    let c : Call := ⟨⟨default, late⟩, .accepted "", .create r⟩
    Store.Served svc.codec .empty ∧ r.starts.HasPlainYear ∧ r.ends.HasPlainYear ∧
      svc.next c .empty ≠ .empty ∧
      (svc.next c .empty).findByReference (svc.codec.encode 1) = .error .unreadableTime := by
  intro svc ends late r c
  exact ⟨.empty, by decide +kernel⟩

end VisitBooking
