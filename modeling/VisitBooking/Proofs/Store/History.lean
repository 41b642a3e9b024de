import VisitBooking.Proofs.Store.Keyed

/-!
# Identities and references over the life of a store

A run is a list of actions on the store, each of which may fail. What never changes of a row, its
identity, its reference and the instant of its creation, comes from the insert that put it in: it is
the *origin* of the row. The origins of all rows that a run put in are kept in a list beside the
store. The list accounts for the store at any time: the `k`-th origin has identity `k` and the
reference that the scheme of its insert makes of it, and each row in the store has one of them.

An insert is successful if it is answered with a visit, and then it *issues* that visit. The answer
is read back from the row, so an insert may put a row in and fail: it does so where the clock shows
a year without four digits. Such an insert has used up an identity. What is issued has its origins
in the list, in the same order, and makes up the list if no clock of an insert shows such a year.

Schemes may change from insert to insert, and then a reference may come up again after its visit was
deleted, or an insert may fail because its reference is taken. Under one codec neither can happen:
references of different identities differ.

## Main definitions

* `Store.Action`, `Store.runActions`: what is done to a store, and a run.
* `Store.Origin`, `Store.origins`: what the rows that a run put in have from their inserts.
* `Store.Issue`, `Store.issues`: the visits that a run issued.
* `Store.Numbered`: origins are numbered from one on, and have the references of their numbers.
* `Store.Accounts`: a list of origins accounts for a store.

## Main results

* `Store.Accounts.apply`: one action keeps the account.
* `Store.accounts_origins`: so does a run.
* `Store.issues_sublist_origins`, `Store.issues_eq_origins`: what is issued is in the account.
* `Store.survives_runActions`: a row stays until it is deleted.
* `Store.identities_of_run`: the headline.
-/

namespace VisitBooking

open Calendar Reference

/-- A later version of the same stored visit: identity, reference and creation are the same. -/
structure Row.SameOrigin (old new : Row) : Prop where
  id : new.id = old.id
  reference : new.reference = old.reference
  created : new.created = old.created

theorem Row.SameOrigin.refl (r : Row) : r.SameOrigin r := ⟨rfl, rfl, rfl⟩

theorem Row.SameOrigin.trans {a b c : Row} (h : a.SameOrigin b) (h' : b.SameOrigin c) :
    a.SameOrigin c :=
  ⟨h'.id.trans h.id, h'.reference.trans h.reference, h'.created.trans h.created⟩

theorem Row.sameOrigin_write (c : Columns) (now : Instant) (r : Row) :
    r.SameOrigin (r.write c now) := ⟨rfl, rfl, rfl⟩

/-- What a row has from the insert that put it in, and the scheme of the insert. -/
structure Origin where
  scheme : Scheme
  id : Int
  reference : String
  /-- The column with the instant of the insert. -/
  created : String

/-- The origin of a row that was put in under the scheme. -/
def Row.origin (scheme : Scheme) (r : Row) : Origin := ⟨scheme, r.id, r.reference, r.created⟩

theorem Row.SameOrigin.origin_eq {old new : Row} (h : old.SameOrigin new) (scheme : Scheme) :
    new.origin scheme = old.origin scheme := by
  rw [Row.origin, h.id, h.reference, h.created, Row.origin]

namespace Store

/-! ### Actions and runs -/

/-- A change to a visit that leaves its identity alone. It may be refused. -/
structure Mutation where
  apply : Visit → Except Refusal Visit
  keeps_id : ∀ v w, apply v = .ok w → w.id = v.id

/-- What is done to a store. -/
inductive Action where
  | insert (scheme : Scheme) (now : Instant) (details : Details)
  | save (now : Instant) (visit : Visit)
  | update (now : Instant) (reference : String) (change : Mutation)
  | delete (reference : String)
  | deleteMany (references : List String)
  | reopen

/-- The store after an action, whether or not it failed. -/
def Action.apply : Action → Store → Store
  | .insert scheme now d, s => (s.insert scheme now d).2
  | .save now v, s => (s.save now v).2
  | .update now reference change, s => (s.update now reference change.apply).2
  | .delete reference, s => (s.delete reference).2
  | .deleteMany references, s => (s.deleteMany references).2
  | .reopen, s => s.reopen

/-- The references whose rows an action takes out. -/
def Action.deletes : Action → List String
  | .delete reference => [reference]
  | .deleteMany references => references
  | _ => []

/-- If the action is an insert, then the clock shows a year of four digits to it. -/
def Action.InsertsInPlainYear : Action → Prop
  | .insert _ now _ => now.HasPlainYear
  | _ => True

/-- If the action is an insert, then under this scheme. -/
def Action.InsertsUnder (scheme : Scheme) : Action → Prop
  | .insert scheme' _ _ => scheme' = scheme
  | _ => True

/-- The store after actions one after the other. -/
def runActions (actions : List Action) (s : Store) : Store := actions.foldl (fun s a => a.apply s) s

/-- The origin of the row that an action puts in, if it is an insert and the store takes the row. -/
def Action.origin? : Action → Store → Option Origin
  | .insert scheme now d, s =>
    if s.Admits (s.newRow scheme now d) then some ((s.newRow scheme now d).origin scheme) else none
  | _, _ => none

/-- The origins of the rows that a run puts in, in order. -/
def origins : List Action → Store → List Origin
  | [], _ => []
  | a :: actions, s => (a.origin? s).toList ++ origins actions (a.apply s)

/-- A visit that an insert was answered with, and the scheme of the insert. -/
structure Issue where
  scheme : Scheme
  visit : Visit

/-- What an issued visit has from its insert. -/
def Issue.origin (i : Issue) : Origin :=
  ⟨i.scheme, i.visit.id, i.visit.reference, i.visit.created.column⟩

/-- What an action issues: the visit that it is answered with, if it is an insert that succeeds. -/
def Action.issue? : Action → Store → Option Issue
  | .insert scheme now d, s => (s.insert scheme now d).1.toOption.map (Issue.mk scheme)
  | _, _ => none

/-- What a run issues, in order. -/
def issues : List Action → Store → List Issue
  | [], _ => []
  | a :: actions, s => (a.issue? s).toList ++ issues actions (a.apply s)

variable {s : Store}

/-! ### One action -/

theorem Action.apply_of_origin?_eq_some {a : Action} {o : Origin} (h : a.origin? s = some o) :
    ∃ scheme now d, o = (s.newRow scheme now d).origin scheme ∧
      s.Admits (s.newRow scheme now d) ∧ a.apply s = s.add (s.newRow scheme now d) := by
  unfold Action.origin? at h
  split at h
  case h_1 scheme now d =>
    split at h
    · rename_i hadmits
      cases h
      exact ⟨scheme, now, d, rfl, hadmits, congrArg Prod.snd (insert_of_admits hadmits)⟩
    · cases h
  case h_2 => cases h

/-- An action that puts no row in writes into one row, takes rows out, or opens the store again. -/
theorem Action.apply_of_origin?_eq_none (wf : s.WellFormed) {a : Action} (h : a.origin? s = none) :
    (∃ (id : Int) (d : Details) (now : Instant), a.apply s = s.writeRow id d.columns now) ∨
      a.apply s = s.without a.deletes ∨ a.apply s = s.reopen := by
  cases a with
  | insert scheme now d =>
    have hadmits : ¬ s.Admits (s.newRow scheme now d) := by simpa [Action.origin?] using h
    refine .inr (.inl ?_)
    rw [Action.apply, insert_of_not_admits hadmits]
    exact (without_nil s).symm
  | save now v =>
    rcases save_cases now v s with ⟨_, hs⟩ | ⟨_, -, -, hs⟩
    · exact .inr (.inl (by rw [Action.apply, hs]; exact (without_nil s).symm))
    · exact .inl ⟨_, _, _, by rw [Action.apply, hs]⟩
  | update now reference change =>
    rcases wf.update_cases now reference change.keeps_id with
      ⟨_, hs⟩ | ⟨_, -, -, _, _, -, -, -, hs⟩
    · exact .inr (.inl (by rw [Action.apply, hs]; exact (without_nil s).symm))
    · exact .inl ⟨_, _, _, by rw [Action.apply, hs]⟩
  | delete reference => exact .inr (.inl (delete_snd reference s))
  | deleteMany references => exact .inr (.inl (deleteMany_snd references s))
  | reopen => exact .inr (.inr rfl)

theorem WellFormed.apply (wf : s.WellFormed) (a : Action) : (a.apply s).WellFormed := by
  cases h : a.origin? s with
  | some o =>
    obtain ⟨scheme, now, d, -, hadmits, happly⟩ := Action.apply_of_origin?_eq_some h
    rw [happly]
    exact wf.add hadmits
  | none =>
    rcases Action.apply_of_origin?_eq_none wf h with ⟨id, d, now, ha⟩ | ha | ha
    · exact ha ▸ wf.writeRow id d now
    · exact ha ▸ wf.without _
    · exact ha ▸ wf.reopen

/-- A row after an action has the origin of the row that the action puts in, or is a later version
of a row before it. -/
theorem origin_of_mem_apply (wf : s.WellFormed) {a : Action} {r : Row}
    (hr : r ∈ (a.apply s).rows) :
    (∃ scheme, a.origin? s = some (r.origin scheme)) ∨ ∃ old ∈ s.rows, old.SameOrigin r := by
  cases h : a.origin? s with
  | some o =>
    obtain ⟨scheme, now, d, ho, -, happly⟩ := Action.apply_of_origin?_eq_some h
    rw [happly] at hr
    rcases mem_add.1 hr with hr | rfl
    · exact .inr ⟨r, hr, .refl r⟩
    · exact .inl ⟨scheme, by rw [ho]⟩
  | none =>
    refine .inr ?_
    rcases Action.apply_of_origin?_eq_none wf h with ⟨id, d, now, ha⟩ | ha | ha
    · rw [ha] at hr
      rcases mem_writeRow.1 hr with ⟨hr, -⟩ | ⟨old, hold, -, rfl⟩
      · exact ⟨r, hr, .refl r⟩
      · exact ⟨old, hold, old.sameOrigin_write _ _⟩
    · rw [ha] at hr
      exact ⟨r, (List.mem_filter.1 hr).1, .refl r⟩
    · rw [ha] at hr
      exact ⟨r, hr, .refl r⟩

/-- A row that an action does not delete is there after it, perhaps in a later version. -/
theorem survives_apply (wf : s.WellFormed) (a : Action) {r : Row} (hr : r ∈ s.rows) :
    r.reference ∈ a.deletes ∨ ∃ new ∈ (a.apply s).rows, r.SameOrigin new := by
  cases h : a.origin? s with
  | some o =>
    obtain ⟨scheme, now, d, -, -, happly⟩ := Action.apply_of_origin?_eq_some h
    exact .inr ⟨r, happly ▸ mem_add.2 (.inl hr), .refl r⟩
  | none =>
    rcases Action.apply_of_origin?_eq_none wf h with ⟨id, d, now, ha⟩ | ha | ha
    · by_cases hid : r.id = id
      · exact .inr ⟨_, ha ▸ mem_writeRow.2 (.inr ⟨r, hr, hid, rfl⟩), r.sameOrigin_write _ _⟩
      · exact .inr ⟨r, ha ▸ mem_writeRow.2 (.inl ⟨hr, hid⟩), .refl r⟩
    · by_cases hdel : r.reference ∈ a.deletes
      · exact .inl hdel
      · exact .inr ⟨r, ha ▸ List.mem_filter.2 ⟨hr, by simpa using hdel⟩, .refl r⟩
    · exact .inr ⟨r, ha ▸ hr, .refl r⟩

theorem lastId_apply (wf : s.WellFormed) (a : Action) :
    (a.apply s).lastId = s.lastId + (a.origin? s).toList.length := by
  cases h : a.origin? s with
  | some o =>
    obtain ⟨scheme, now, d, -, -, happly⟩ := Action.apply_of_origin?_eq_some h
    rw [happly]
    rfl
  | none =>
    rcases Action.apply_of_origin?_eq_none wf h with ⟨id, d, now, ha⟩ | ha | ha <;>
      rw [ha] <;> rfl

/-! ### The account -/

/-- The `k`-th origin, counting from one, has identity `k` and the reference that its scheme makes
of `k`. -/
def Numbered (history : List Origin) : Prop :=
  ∀ k (h : k < history.length), history[k].id = (k + 1 : Nat) ∧
    history[k].reference = history[k].scheme.encode (k + 1)

/-- A list of origins accounts for a store. -/
structure Accounts (history : List Origin) (s : Store) : Prop where
  wf : s.WellFormed
  /-- As many rows were put in as identities were given out. -/
  length_eq : history.length = s.lastId
  numbered : Numbered history
  /-- Each row has its origin in the list. -/
  origin : ∀ r ∈ s.rows, ∃ scheme, r.origin scheme ∈ history

theorem numbered_nil : Numbered [] := fun _ h => absurd h (Nat.not_lt_zero _)

variable {history : List Origin}

theorem Numbered.concat (h : Numbered history) {o : Origin}
    (hid : o.id = (history.length + 1 : Nat))
    (href : o.reference = o.scheme.encode (history.length + 1)) :
    Numbered (history ++ [o]) := by
  intro k hk
  by_cases hlt : k < history.length
  · rw [List.getElem_append_left hlt]
    exact h k hlt
  · -- The only new position is the one after the last.
    obtain rfl : k = history.length := by
      rw [List.length_append, List.length_singleton] at hk
      omega
    rw [List.getElem_concat_length]
    · exact ⟨hid, href⟩
    · rfl

theorem accounts_empty : Accounts [] .empty where
  wf := wellFormed_empty
  length_eq := rfl
  numbered := numbered_nil
  origin := by simp [empty]

theorem Accounts.apply (acc : Accounts history s) (a : Action) :
    Accounts (history ++ (a.origin? s).toList) (a.apply s) where
  wf := acc.wf.apply a
  length_eq := by rw [List.length_append, acc.length_eq, lastId_apply acc.wf a]
  numbered := by
    cases h : a.origin? s with
    | none => exact (List.append_nil history).symm ▸ acc.numbered
    | some o =>
      obtain ⟨scheme, now, d, rfl, -, -⟩ := Action.apply_of_origin?_eq_some h
      refine acc.numbered.concat ?_ ?_
      · rw [acc.length_eq]; rfl
      · rw [acc.length_eq]; rfl
  origin r hr := by
    rcases origin_of_mem_apply acc.wf hr with ⟨scheme, ho⟩ | ⟨old, hold, hor⟩
    · exact ⟨scheme, by simp [ho]⟩
    · obtain ⟨scheme, ho⟩ := acc.origin old hold
      exact ⟨scheme, List.mem_append_left _ (hor.origin_eq scheme ▸ ho)⟩

/-! ### Runs -/

theorem Accounts.run (acc : Accounts history s) (actions : List Action) :
    Accounts (history ++ origins actions s) (runActions actions s) := by
  induction actions generalizing history s with
  | nil => simpa [origins, runActions] using acc
  | cons a actions ih => simpa [origins, runActions] using ih (acc.apply a)

/-- The origins of what a run on the empty store put in account for the store. -/
theorem accounts_origins (actions : List Action) :
    Accounts (origins actions .empty) (runActions actions .empty) := by
  simpa using accounts_empty.run actions

/-- A row stays until it is deleted. -/
theorem survives_runActions (wf : s.WellFormed) (actions : List Action) {r : Row}
    (hr : r ∈ s.rows) :
    (∃ a ∈ actions, r.reference ∈ a.deletes) ∨
      ∃ new ∈ (runActions actions s).rows, r.SameOrigin new := by
  induction actions generalizing s r with
  | nil => exact .inr ⟨r, hr, .refl r⟩
  | cons a actions ih =>
    rcases survives_apply wf a hr with hdel | ⟨mid, hmid, hor⟩
    · exact .inl ⟨a, List.mem_cons_self .., hdel⟩
    · rcases ih (wf.apply a) hmid with ⟨b, hb, hdel⟩ | ⟨new, hnew, hor'⟩
      · exact .inl ⟨b, List.mem_cons_of_mem _ hb, hor.reference ▸ hdel⟩
      · exact .inr ⟨new, hnew, hor.trans hor'⟩

/-! ### Answers of inserts -/

/-- An insert that puts a row in issues its visit, if the clock shows a year of four digits, and
otherwise nothing. -/
theorem Action.issue?_of_origin?_eq_some {a : Action} {o : Origin} (h : a.origin? s = some o) :
    (a.InsertsInPlainYear ∧ (a.issue? s).map Issue.origin = some o) ∨
      (¬ a.InsertsInPlainYear ∧ a.issue? s = none) := by
  unfold Action.origin? at h
  split at h
  case h_1 scheme now d =>
    split at h
    · rename_i hadmits
      cases h
      by_cases hnow : now.HasPlainYear
      · refine .inl ⟨hnow, ?_⟩
        rw [Action.issue?, insert_of_admits hadmits, visit_newRow hnow d]
        rfl
      · refine .inr ⟨hnow, ?_⟩
        rw [Action.issue?, insert_of_admits hadmits, visit_newRow_eq_error hnow d]
        rfl
    · cases h
  case h_2 => cases h

/-- An action that puts no row in issues nothing. -/
theorem Action.issue?_of_origin?_eq_none {a : Action} (h : a.origin? s = none) :
    a.issue? s = none := by
  cases a with
  | insert scheme now d =>
    have hadmits : ¬ s.Admits (s.newRow scheme now d) := by simpa [Action.origin?] using h
    rw [Action.issue?, insert_of_not_admits hadmits]
    rfl
  | save | update | delete | deleteMany | reopen => rfl

/-- What is issued has its origins among those of the rows that are put in, in the same order. -/
theorem issues_sublist_origins (actions : List Action) (s : Store) :
    ((issues actions s).map Issue.origin).Sublist (origins actions s) := by
  induction actions generalizing s with
  | nil => exact .slnil
  | cons a actions ih =>
    rw [issues, origins, List.map_append]
    refine List.Sublist.append ?_ (ih (a.apply s))
    cases h : a.origin? s with
    | none =>
      rw [Action.issue?_of_origin?_eq_none h]
      exact .slnil
    | some o =>
      rcases Action.issue?_of_origin?_eq_some h with ⟨-, hissue⟩ | ⟨-, hissue⟩
      · rw [← hissue, Option.toList_map]
      · rw [hissue]
        exact List.nil_sublist _

/-- If the clock shows a year of four digits to each insert, each row that is put in is issued. -/
theorem issues_eq_origins {actions : List Action} (hclock : ∀ a ∈ actions, a.InsertsInPlainYear)
    (s : Store) : (issues actions s).map Issue.origin = origins actions s := by
  induction actions generalizing s with
  | nil => rfl
  | cons a actions ih =>
    obtain ⟨ha, hrest⟩ := List.forall_mem_cons.1 hclock
    rw [issues, origins, List.map_append, ih hrest]
    congr 1
    cases h : a.origin? s with
    | none =>
      rw [Action.issue?_of_origin?_eq_none h]
      rfl
    | some o =>
      rcases Action.issue?_of_origin?_eq_some h with ⟨-, hissue⟩ | ⟨hnot, -⟩
      · rw [← hissue, Option.toList_map]
      · exact absurd ha hnot

/-- Where the clock shows a year of four digits, an insert breaks a constraint and changes nothing,
or is answered with the visit whose row it adds. -/
theorem insert_cases (scheme : Scheme) {now : Instant} (hnow : now.HasPlainYear) (d : Details)
    (s : Store) :
    s.insert scheme now d = (.error .constraint, s) ∨
      ∃ v r, s.insert scheme now d = (.ok v, s.add r) ∧ r.visit = .ok v ∧ v.details = d ∧
        v.created = now := by
  by_cases h : s.Admits (s.newRow scheme now d)
  · have hvisit : (s.newRow scheme now d).visit = .ok (_ : Visit) := visit_newRow hnow d
    refine .inr ⟨_, _, ?_, hvisit, rfl, rfl⟩
    rw [insert_of_admits h, hvisit]
  · exact .inl (insert_of_not_admits h)

/-! ### Identities -/

theorem Numbered.exists_of_mem (h : Numbered history) {o : Origin} (ho : o ∈ history) :
    ∃ k, k < history.length ∧ o.id = (k + 1 : Nat) ∧ o.reference = o.scheme.encode (k + 1) := by
  obtain ⟨k, hk, rfl⟩ := List.mem_iff_getElem.1 ho
  exact ⟨k, hk, h k hk⟩

/-- The identity tells the origin. -/
theorem Numbered.eq_of_id_eq (h : Numbered history) {o p : Origin} (ho : o ∈ history)
    (hp : p ∈ history) (heq : o.id = p.id) : o = p := by
  obtain ⟨k, hk, rfl⟩ := List.mem_iff_getElem.1 ho
  obtain ⟨l, hl, rfl⟩ := List.mem_iff_getElem.1 hp
  have hkl : k = l := by
    rw [(h k hk).1, (h l hl).1] at heq
    omega
  subst hkl
  rfl

/-- Identities are given out in ascending order. -/
theorem Numbered.pairwise_id_lt (h : Numbered history) :
    history.Pairwise fun o p => o.id < p.id := by
  refine List.pairwise_iff_getElem.2 fun k l hk hl hkl => ?_
  rw [(h k hk).1, (h l hl).1]
  omega

/-- A row with an identity that was given out has the origin that the identity was given to. -/
theorem Accounts.origin_eq (acc : Accounts history s) {o : Origin} (ho : o ∈ history) {r : Row}
    (hr : r ∈ s.rows) (heq : r.id = o.id) : r.origin o.scheme = o := by
  obtain ⟨scheme, hmem⟩ := acc.origin r hr
  obtain rfl : r.origin scheme = o := acc.numbered.eq_of_id_eq hmem ho heq
  rfl

/-! ### One codec -/

variable {codec : Codec}

theorem Accounts.keyed (acc : Accounts history s) (hcodec : ∀ o ∈ history, o.scheme = codec) :
    s.Keyed codec where
  toWellFormed := acc.wf
  reference_eq r hr := by
    obtain ⟨scheme, hmem⟩ := acc.origin r hr
    obtain ⟨k, hk, hid, href⟩ := acc.numbered.exists_of_mem hmem
    refine ⟨k + 1, acc.length_eq ▸ hk, hid, ?_⟩
    rw [← hcodec _ hmem]
    exact href

/-- Under one codec a row with a reference that was given out has the identity that it was given out
with. -/
theorem Accounts.id_eq_of_reference_eq (acc : Accounts history s)
    (hcodec : ∀ o ∈ history, o.scheme = codec) {o : Origin} (ho : o ∈ history) {r : Row}
    (hr : r ∈ s.rows) (heq : r.reference = o.reference) : r.id = o.id := by
  obtain ⟨l, -, hidr, hrefr⟩ := (acc.keyed hcodec).reference_eq r hr
  obtain ⟨k, -, hido, hrefo⟩ := acc.numbered.exists_of_mem ho
  have hlk : l = k + 1 := by
    refine codec.encode_injective ?_
    calc codec.encode l = o.reference := hrefr.symm.trans heq
      _ = codec.encode (k + 1) := by rw [hrefo, hcodec o ho]
  rw [hidr, hido, hlk]

/-- A run whose inserts are under one scheme puts rows in under that scheme. -/
theorem scheme_of_mem_origins {scheme : Scheme} {actions : List Action}
    (h : ∀ a ∈ actions, a.InsertsUnder scheme) (s : Store) :
    ∀ o ∈ origins actions s, o.scheme = scheme := by
  induction actions generalizing s with
  | nil => exact nofun
  | cons a actions ih =>
    obtain ⟨ha, hrest⟩ := List.forall_mem_cons.1 h
    refine List.forall_mem_append.2 ⟨fun o ho => ?_, ih hrest (a.apply s)⟩
    rw [Option.mem_toList] at ho
    unfold Action.origin? at ho
    split at ho
    case h_1 =>
      split at ho
      · cases ho
        exact ha
      · cases ho
    case h_2 => cases ho

/-! ### The headline -/

/-- Whatever is done to a store, failures included: what inserts are answered with has the
references that their schemes make of the identities, in ascending order, and if the clock shows a
year of four digits to each insert, then the visits are numbered from one on. Where it does, an
insert adds the row of the visit that it is answered with, unless it breaks a constraint. Identity,
reference and creation of an issued visit are never rewritten, a stored visit stays until it is
deleted, and references are unique. If all inserts are under one codec, then no insert fails because
of its reference, references are decoded to identities, and a reference that was issued finds the
visit it was issued to or none. -/
theorem identities_of_run (actions : List Action) :
    let s := runActions actions .empty
    let history := issues actions .empty
    ((∀ a ∈ actions, a.InsertsInPlainYear) →
      Numbered (history.map Issue.origin) ∧
      ∀ r ∈ s.rows, ∃ i ∈ history, r.origin i.scheme = i.origin) ∧
    (∀ i ∈ history, ∃ n : Nat, i.visit.id = n ∧ i.visit.reference = i.scheme.encode n) ∧
    (history.Pairwise fun i j => i.visit.id < j.visit.id) ∧
    (∀ scheme now d, now.HasPlainYear → s.insert scheme now d = (.error .constraint, s) ∨
      ∃ v r, s.insert scheme now d = (.ok v, s.add r) ∧ r.visit = .ok v ∧ v.details = d ∧
        v.created = now) ∧
    (∀ i ∈ history, ∀ r ∈ s.rows, r.id = i.visit.id → r.origin i.scheme = i.origin) ∧
    (∀ later, ∀ r ∈ s.rows, (∃ a ∈ later, r.reference ∈ a.deletes) ∨
      ∃ new ∈ (runActions later s).rows, r.SameOrigin new) ∧
    (s.rows.map Row.reference).Nodup ∧
    ∀ codec : Codec, (∀ a ∈ actions, a.InsertsUnder codec) →
      (∀ now d, s.insert codec now d = (.error .constraint, s) ↔ ¬ d.columns.Valid) ∧
      (∀ r ∈ s.rows, ∀ n : Nat, codec.decode r.reference = .ok n ↔ r.id = n ∧ n < identityBound) ∧
      ∀ i ∈ history, ∀ r, s.rowByReference? i.visit.reference = some r →
        r.origin i.scheme = i.origin := by
  intro s history
  have acc : Accounts (origins actions .empty) s := accounts_origins actions
  have hsublist : (history.map Issue.origin).Sublist (origins actions .empty) :=
    issues_sublist_origins actions .empty
  have hmem : ∀ i ∈ history, i.origin ∈ origins actions .empty :=
    fun i hi => hsublist.subset (List.mem_map_of_mem hi)
  refine ⟨fun hclock => ?_, fun i hi => ?_, ?_,
    fun scheme now d hnow => insert_cases scheme hnow d s,
    fun i hi r hr hid => acc.origin_eq (hmem i hi) hr hid,
    fun later r hr => survives_runActions acc.wf later hr, acc.wf.references_nodup,
    fun codec hcodec => ?_⟩
  · have hall : history.map Issue.origin = origins actions .empty := issues_eq_origins hclock .empty
    refine ⟨hall ▸ acc.numbered, fun r hr => ?_⟩
    obtain ⟨scheme, horigin⟩ := acc.origin r hr
    obtain ⟨i, hi, heq⟩ := List.mem_map.1 (hall ▸ horigin)
    exact ⟨i, hi, acc.origin_eq (hmem i hi) hr (congrArg Origin.id heq).symm⟩
  · obtain ⟨k, -, hid, href⟩ := acc.numbered.exists_of_mem (hmem i hi)
    exact ⟨k + 1, hid, href⟩
  · have hascending : (history.map Issue.origin).Pairwise fun o p => o.id < p.id :=
      acc.numbered.pairwise_id_lt.sublist hsublist
    rw [List.pairwise_map] at hascending
    exact hascending
  · have hscheme := scheme_of_mem_origins hcodec .empty
    have hkeyed : s.Keyed codec := acc.keyed hscheme
    refine ⟨fun now d => ?_, fun r hr n => hkeyed.decode_reference hr n, fun i hi r hr => ?_⟩
    · rw [← hkeyed.admits_iff now d]
      constructor
      · intro hs hadmits
        rw [insert_of_admits hadmits] at hs
        have hlast : s.lastId + 1 = s.lastId := congrArg (fun p => p.2.lastId) hs
        omega
      · exact insert_of_not_admits
    · obtain ⟨hrow, href⟩ := acc.wf.rowByReference?_eq_some_iff.1 hr
      exact acc.origin_eq (hmem i hi) hrow
        (acc.id_eq_of_reference_eq hscheme (hmem i hi) hrow href)

/-- A visit is put in and deleted, an insert fails, and the same visit is put in again: it has the
second identity, and nothing else is found under either reference. -/
theorem identities_of_run_insert_after_delete :
    let ends : LocalTime := ⟨⟨⟨1970, 1, 2, by decide⟩, default⟩, by decide⟩
    let visit : Details := { (default : Details) with ends := ends }
    let actions : List Action := [.insert .standard default visit,
      .delete (Codec.standard.encode 1), .insert .standard default default,
      .insert .standard default visit]
    (∀ a ∈ actions, a.InsertsInPlainYear ∧ a.InsertsUnder Codec.standard) ∧
    (issues actions .empty).map (fun i => i.visit.id) = [1, 2] ∧
    Numbered ((issues actions .empty).map Issue.origin) ∧
    ∀ i ∈ issues actions .empty, ∀ r,
      (runActions actions .empty).rowByReference? i.visit.reference = some r →
        r.origin i.scheme = i.origin := by
  intro ends visit actions
  have hplain : (default : Instant).HasPlainYear := by decide +kernel
  have hactions : ∀ a ∈ actions, a.InsertsInPlainYear ∧ a.InsertsUnder Codec.standard := by
    simp [actions, Action.InsertsInPlainYear, Action.InsertsUnder, Codec.standard, hplain]
  obtain ⟨hnumbered, -, -, -, -, -, -, hcodec⟩ := identities_of_run actions
  exact ⟨hactions, by decide +kernel, (hnumbered fun a ha => (hactions a ha).1).1,
    (hcodec .standard fun a ha => (hactions a ha).2).2.2⟩

/-- An insert in the year 10000 fails and uses up the first identity: the only insert that succeeds
is answered with the second one. -/
theorem identities_after_insert_in_year_10000 :
    let ends : LocalTime := ⟨⟨⟨1970, 1, 2, by decide⟩, default⟩, by decide⟩
    let visit : Details := { (default : Details) with ends := ends }
    let late : Instant := ⟨⟨⟨10000, 1, 1, by decide⟩, default⟩, by decide⟩
    let actions : List Action := [.insert .standard late visit, .insert .standard default visit]
    (Store.empty.insert .standard late visit).1 = .error .unreadableTime ∧
      (issues actions .empty).map (fun i => i.visit.id) = [2] ∧
      ¬ Numbered ((issues actions .empty).map Issue.origin) := by
  intro ends visit late actions
  have hissued : (issues actions .empty).map (fun i => i.visit.id) = [2] := by decide +kernel
  refine ⟨by decide +kernel, hissued, fun hnumbered => ?_⟩
  obtain ⟨i, hi, hid⟩ := List.mem_map.1 (hissued ▸ List.mem_singleton_self (2 : Int))
  obtain ⟨k, hk, hnumber, -⟩ := hnumbered.exists_of_mem (List.mem_map_of_mem hi)
  have hlen : (issues actions .empty).length = 1 := by simpa using congrArg List.length hissued
  have htwo : (2 : Int) = (k + 1 : Nat) := hid.symm.trans hnumber
  rw [List.length_map, hlen] at hk
  omega

end Store

end VisitBooking
