import Mathlib.Data.List.Nodup
import VisitBooking.Proofs.Json.Printed

/-!
# Records are read back

A record that is written as an object is read back from it, if each field reads its own value back.
The order of the members does not matter, nor which optional fields are left out: what is asked for
is that the names of the members are names of fields and that none comes twice.

So a statement about a record is a statement about each of its fields, put together as the record
is: `Record.Reads` has a rule for each of `Record.required`, `Record.optional`, `Record.defaulted`,
`Record.map` and `Record.and`.

## Main definitions

* `Record.Reads`: a record is a value, if its fields have the given values.

## Main results

* `Record.Reads.ofValue_object`: the record is read from an object.
* `Record.Reads.ofValue_fields`: the same for an object with the fields in their order.
-/

namespace VisitBooking.Json

/-! ### Members by name -/

variable {γ : Type} {name : String}

theorem mem_of_lookup_eq_some {ps : List (String × γ)} {c : γ} (h : ps.lookup name = some c) :
    (name, c) ∈ ps := by
  obtain ⟨before, after, rfl, -⟩ := List.lookup_eq_some_iff.1 h
  exact List.mem_append_right before (List.mem_cons_self ..)

theorem exists_lookup_eq_some {ps : List (String × γ)} (h : name ∈ ps.map Prod.fst) :
    ∃ c, ps.lookup name = some c := by
  obtain ⟨p, hp, rfl⟩ := List.mem_map.1 h
  exact Option.isSome_iff_exists.1 (List.lookup_isSome_iff.2 ⟨p, hp, beq_self_eq_true p.1⟩)

theorem lookup_eq_some_of_mem {ps : List (String × γ)} (hnodup : (ps.map Prod.fst).Nodup)
    {p : String × γ} (hp : p ∈ ps) : ps.lookup p.1 = some p.2 := by
  obtain ⟨c, hc⟩ := exists_lookup_eq_some (List.mem_map_of_mem hp)
  have heq : p = (p.1, c) :=
    List.inj_on_of_nodup_map hnodup hp (mem_of_lookup_eq_some hc) rfl
  rw [hc, heq]

theorem lookup_eq_none_of_notMem {ps : List (String × γ)} (h : name ∉ ps.map Prod.fst) :
    ps.lookup name = none := by
  refine List.lookup_eq_none_iff.2 fun p hp => ?_
  rw [bne_iff_ne]
  rintro rfl
  exact h (List.mem_map_of_mem hp)

namespace Record

variable {α β : Type} {value : String → Option Tree}

/-! ### Fields -/

/-- A record is `a`, if its fields have the given values. -/
structure Reads (r : Record α) (value : String → Option Tree) (a : α) : Prop where
  /-- Each field that has a value passes. -/
  checked : ∀ p ∈ r.fields, ∀ t, value p.1 = some t → p.2 t = .ok ()
  read : r.ofMembers value = .ok a

theorem Reads.field {d : Decoder α} {absent short : Option α} {t : Tree} {a : α}
    (hvalue : value name = some t) (hd : d t = .ok a) :
    (Record.field name d absent short).Reads value a := by
  refine ⟨?_, ?_⟩
  · intro p hp u hu
    obtain rfl := List.mem_singleton.1 hp
    obtain rfl : t = u := Option.some.inj (hvalue.symm.trans hu)
    show (d t).map (fun _ => ()) = .ok ()
    rw [hd]
    rfl
  · simp only [Record.field, hvalue, hd]

theorem Reads.required {d : Decoder α} {t : Tree} {a : α} (hvalue : value name = some t)
    (hd : d t = .ok a) : (Record.required name d).Reads value a :=
  .field hvalue hd

theorem Reads.optional {d : Decoder α} {t : Tree} {a : Option α} (hvalue : value name = some t)
    (hd : decodeOption d t = .ok a) : (Record.optional name d).Reads value a :=
  .field hvalue hd

theorem Reads.defaulted {d : Decoder α} {t : Tree} {a default : α}
    (hvalue : value name = some t) (hd : d t = .ok a) :
    (Record.defaulted name d default).Reads value a :=
  .field hvalue hd

/-- A field that is left out has the value that stands for it. -/
theorem Reads.leftOut {d : Decoder α} {default : α} (hvalue : value name = none) :
    (Record.defaulted name d default).Reads value default := by
  refine ⟨?_, ?_⟩
  · intro p hp u hu
    obtain rfl := List.mem_singleton.1 hp
    exact absurd (hvalue.symm.trans hu) nofun
  · simp only [Record.defaulted, Record.field, hvalue]

theorem Reads.map {r : Record α} {a : α} (h : r.Reads value a) (f : α → β) :
    (r.map f).Reads value (f a) := by
  refine ⟨h.checked, ?_⟩
  simp only [Record.map, h.read, Except.map]

theorem Reads.and {r : Record (α → β)} {s : Record α} {f : α → β} {a : α} (hr : r.Reads value f)
    (hs : s.Reads value a) : (r.and s).Reads value (f a) := by
  refine ⟨fun p hp => ?_, ?_⟩
  · exact (List.mem_append.1 hp).elim (hr.checked p) (hs.checked p)
  · simp only [Record.and, hr.read, hs.read]
    rfl

/-! ### Objects -/

theorem memberNamed_memberTrees (members : List (String × Value)) (name : String) :
    memberNamed (Value.memberTrees members) name = (members.lookup name).map Value.tree := by
  induction members with
  | nil => rfl
  | cons m members ih =>
    obtain ⟨k, v⟩ := m
    have hkey : (Key.text name == Key.text k) = (name == k) := by
      rw [Bool.eq_iff_iff, beq_iff_eq, beq_iff_eq, Key.text.injEq]
    rw [Value.memberTrees, memberNamed, List.lookup_cons, List.lookup_cons, hkey]
    cases name == k with
    | true => rfl
    | false => exact ih

/-- Members pass if each of them is a field that lets it pass and no name comes twice. -/
theorem checkMembers_eq_ok {fields : List (String × Decoder Unit)} {members : List (String × Value)}
    (hnodup : (members.map Prod.fst).Nodup)
    (hfields : ∀ m ∈ members, ∃ check, fields.lookup m.1 = some check ∧ check m.2.tree = .ok ())
    {seen : List String} (hseen : ∀ m ∈ members, m.1 ∉ seen) :
    checkMembers fields seen (Value.memberTrees members) = .ok () := by
  induction members generalizing seen with
  | nil => rfl
  | cons m members ih =>
    obtain ⟨k, v⟩ := m
    obtain ⟨check, hlookup, hcheck⟩ := hfields _ (List.mem_cons_self ..)
    obtain ⟨hnew, hnodup⟩ := List.nodup_cons.1 hnodup
    have hk : k ∉ seen := hseen _ (List.mem_cons_self ..)
    rw [Value.memberTrees, checkMembers, hlookup]
    simp only [hk, if_false, hcheck]
    refine ih hnodup (fun m hm => hfields m (List.mem_cons_of_mem _ hm)) fun m hm => ?_
    -- The names seen are now those before and that of the first member.
    rw [List.mem_cons, not_or]
    refine ⟨?_, hseen m (List.mem_cons_of_mem _ hm)⟩
    intro heq
    exact hnew (List.mem_map.2 ⟨m, hm, heq⟩)

/-- A record is read from an object that has the values of its fields as members. -/
theorem Reads.ofValue_object {r : Record α} {members : List (String × Value)} {a : α}
    (h : r.Reads (fun name => (members.lookup name).map Value.tree) a)
    (hnodup : (members.map Prod.fst).Nodup)
    (hnames : ∀ name ∈ members.map Prod.fst, name ∈ r.fields.map Prod.fst) :
    r.decode.ofValue (.object members) = .ok a := by
  have hfields : ∀ m ∈ members, ∃ check, r.fields.lookup m.1 = some check ∧
      check m.2.tree = .ok () := by
    intro m hm
    obtain ⟨check, hcheck⟩ := exists_lookup_eq_some (hnames m.1 (List.mem_map_of_mem hm))
    refine ⟨check, hcheck, h.checked _ (mem_of_lookup_eq_some hcheck) m.2.tree ?_⟩
    simp only [lookup_eq_some_of_mem hnodup hm, Option.map_some]
  have hchecked : checkMembers r.fields [] (Value.memberTrees members) = .ok () :=
    checkMembers_eq_ok hnodup hfields fun _ _ => List.not_mem_nil
  show (do
    checkMembers r.fields [] (Value.memberTrees members)
    Ending.closed.check
    r.ofMembers (memberNamed (Value.memberTrees members))) = .ok a
  rw [hchecked, funext (memberNamed_memberTrees members), h.read]
  rfl

/-- A record is read from an object whose members are its fields in their order, some of which may
be left out. -/
theorem Reads.ofValue_fields {r : Record α} {members : List (String × Value)} {a : α}
    (h : r.Reads (fun name => (members.lookup name).map Value.tree) a)
    (hnodup : (r.fields.map Prod.fst).Nodup)
    (hnames : (members.map Prod.fst).Sublist (r.fields.map Prod.fst)) :
    r.decode.ofValue (.object members) = .ok a :=
  h.ofValue_object (hnames.nodup hnodup) fun _ hname => hnames.subset hname

end Record

end VisitBooking.Json
