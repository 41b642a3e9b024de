import Mathlib.Data.List.Forall2
import VisitBooking.Enumeration
import VisitBooking.Json.Decode
import VisitBooking.Proofs.Json.Grammar
import VisitBooking.Proofs.Json.ReadBack
import VisitBooking.Proofs.Json.Record

/-!
# What trees say

A relation between trees and values for each kind of value, and for each decoder an equivalence with
the relation. The relations do not mention faults nor the order in which a tree is looked at.

What a record says depends on its fields alone. They come from an object by their names, or from a
list by their places. The two differ in one respect: a field that may be null may be left out of an
object and not of a list.

## Main definitions

* `Decoder.Decides`: a decoder reads what a relation says, and nothing else.
* `Nullable`, `ListOf`, `Named`, `Integer`: values other than records.
* `Form`, `Tree.IsRecord`, `Required`, `Optional`, `Defaulted`: records and their fields.
* `Record.Decides`: the fields of a record are read as a relation on them says.

## Main results

* `Tree.pass_eq_ok_iff`, `Record.checkMembers_eq_ok_iff`.
* `Record.Decides.decode`: a record is read as what its fields say.
* `Decoder.Decides.run`: a text is read as what the tree that is written in it means.
-/

namespace VisitBooking.Json

/-! ### What may be passed over -/

theorem bind_eq_ok_iff {α β : Type} {x : Except Fault α} {f : α → Except Fault β} {b : β} :
    (x >>= f) = .ok b ↔ ∃ a, x = .ok a ∧ f a = .ok b := by
  cases x with
  | error e => exact ⟨by rintro ⟨⟩, by rintro ⟨_, ⟨⟩, _⟩⟩
  | ok a => exact ⟨fun h => ⟨a, rfl, h⟩, by rintro ⟨_, ⟨⟩, h⟩; exact h⟩

theorem then_eq_ok_iff {β : Type} {x : Except Fault Unit} {f : Unit → Except Fault β} {b : β} :
    (x >>= f) = .ok b ↔ x = .ok () ∧ f () = .ok b :=
  bind_eq_ok_iff.trans ⟨by rintro ⟨_, h⟩; exact h, fun h => ⟨(), h⟩⟩

theorem checkNone_eq_ok_iff {f : Option Fault} : checkNone f = .ok () ↔ f = none := by
  cases f with
  | none => exact iff_of_true rfl rfl
  | some f => exact iff_of_false (by rintro ⟨⟩) (by rintro ⟨⟩)

theorem Ending.check_eq_ok_iff {ending : Ending} : ending.check = .ok () ↔ ending = .closed := by
  cases ending with
  | closed => exact iff_of_true rfl rfl
  | brokenOff f => exact iff_of_false (by rintro ⟨⟩) (by rintro ⟨⟩)
  | noMember f => exact iff_of_false (by rintro ⟨⟩) (by rintro ⟨⟩)

theorem Key.pass_eq_ok_iff {k : Key} : k.pass = .ok () ↔ k.Skipped := by
  cases k with
  | text s => exact iff_of_true rfl (.text s)
  | broken f passed =>
    rw [Key.pass, checkNone_eq_ok_iff]
    exact ⟨fun h => h ▸ .broken f, by rintro ⟨⟩; rfl⟩

mutual

/-- A tree may be passed over exactly if it is passed over. -/
theorem Tree.pass_eq_ok_iff : ∀ t : Tree, t.pass = .ok () ↔ t.Skipped
  | .null => iff_of_true rfl .null
  | .bool b => iff_of_true rfl (.bool b)
  | .number n => iff_of_true rfl (.number n)
  | .text s => iff_of_true rfl (.text s)
  | .list items ending => by
    rw [Tree.pass, then_eq_ok_iff, Tree.passItems_eq_ok_iff items, Ending.check_eq_ok_iff]
    constructor
    · rintro ⟨h, rfl⟩
      exact .list h
    · rintro ⟨⟩
      exact ⟨‹_›, rfl⟩
  | .object members ending => by
    rw [Tree.pass, then_eq_ok_iff, Tree.passMembers_eq_ok_iff members, Ending.check_eq_ok_iff]
    constructor
    · rintro ⟨h, rfl⟩
      exact .object (fun m hm => (h m hm).1) fun m hm => (h m hm).2
    · intro h
      cases h with
      | object hkeys h => exact ⟨fun m hm => ⟨hkeys m hm, h m hm⟩, rfl⟩
  | .brokenText f passed => by
    rw [Tree.pass, checkNone_eq_ok_iff]
    exact ⟨fun h => h ▸ .brokenText f, by rintro ⟨⟩; rfl⟩
  | .brokenNull f => iff_of_false (by rintro ⟨⟩) (by rintro ⟨⟩)
  | .broken f g => iff_of_false (by rintro ⟨⟩) (by rintro ⟨⟩)
  | .missing f => iff_of_false (by rintro ⟨⟩) (by rintro ⟨⟩)

theorem Tree.passItems_eq_ok_iff : ∀ ts : List Tree,
    Tree.passItems ts = .ok () ↔ ∀ t ∈ ts, t.Skipped
  | [] => iff_of_true rfl (List.forall_mem_nil _)
  | t :: ts => by
    rw [Tree.passItems, then_eq_ok_iff, List.forall_mem_cons, Tree.pass_eq_ok_iff t,
      Tree.passItems_eq_ok_iff ts]

theorem Tree.passMembers_eq_ok_iff : ∀ ms : List (Key × Tree),
    Tree.passMembers ms = .ok () ↔ ∀ m ∈ ms, m.1.Skipped ∧ m.2.Skipped
  | [] => iff_of_true rfl (List.forall_mem_nil _)
  | (k, t) :: ms => by
    rw [Tree.passMembers, then_eq_ok_iff, then_eq_ok_iff, List.forall_mem_cons,
      Key.pass_eq_ok_iff, Tree.pass_eq_ok_iff t, Tree.passMembers_eq_ok_iff ms, and_assoc]

end

/-! ### Values other than records -/

variable {α β : Type} {Means : Tree → α → Prop}

/-- The decoder reads from a tree what the relation says of it, and nothing else. -/
structure Decoder.Decides (d : Decoder α) (Means : Tree → α → Prop) : Prop where
  iff : ∀ t a, d t = .ok a ↔ Means t a
  /-- What is read may be passed over as well. -/
  skipped : ∀ t a, Means t a → t.Skipped

/-- A text that stands for a value. -/
def TextOf (Stands : String → α → Prop) (t : Tree) (a : α) : Prop :=
  ∃ s, t = .text s ∧ Stands s a

/-- Null for none. -/
inductive Nullable (Means : Tree → α → Prop) : Tree → Option α → Prop
  | null : Nullable Means .null none
  | value {t : Tree} {a : α} (hne : t ≠ .null) (h : Means t a) : Nullable Means t (some a)

/-- A list of values. -/
inductive ListOf (Means : Tree → α → Prop) : Tree → List α → Prop
  | intro {items : List Tree} {as : List α} (h : List.Forall₂ Means items as) :
      ListOf Means (.list items .closed) as

/-- The name of a value, as a text or as the name of the only member, which is null. -/
inductive Named [Enumeration α] : Tree → α → Prop
  | text (a : α) : Named (.text (Enumeration.name a)) a
  | member (a : α) : Named (.object [(.text (Enumeration.name a), .null)] .closed) a

/-- The number is written as an integer. Minus zero is none. -/
inductive Integer : Tree → Int → Prop
  | natural (digits : Nat) : Integer (.number ⟨false, digits, none⟩) digits
  | negative {digits : Nat} (h : digits ≠ 0) : Integer (.number ⟨true, digits, none⟩) (-digits)

theorem skipped_of_textOf {Stands : String → α → Prop} (t : Tree) (a : α)
    (h : TextOf Stands t a) : t.Skipped := by
  obtain ⟨s, rfl, -⟩ := h
  exact .text s

theorem decides_text : decodeText.Decides (TextOf Eq) := by
  refine ⟨fun t s => ?_, skipped_of_textOf⟩
  cases t with
  | text s' =>
    constructor
    · rintro ⟨⟩
      exact ⟨s, rfl, rfl⟩
    · rintro ⟨_, ⟨⟩, rfl⟩
      rfl
  | _ => exact iff_of_false (by rintro ⟨⟩) (by rintro ⟨_, ⟨⟩, _⟩)

theorem decides_parsed {read? : String → Option α} {Stands : String → α → Prop}
    (h : ∀ s a, read? s = some a ↔ Stands s a) :
    (decodeParsed read?).Decides (TextOf Stands) := by
  refine ⟨fun t a => ?_, skipped_of_textOf⟩
  rw [decodeParsed, bind_eq_ok_iff]
  constructor
  · rintro ⟨s, hs, ha⟩
    obtain ⟨_, rfl, rfl⟩ := (decides_text.iff t s).1 hs
    split at ha
    · cases ha
      exact ⟨_, rfl, (h _ a).1 ‹_›⟩
    · cases ha
  · rintro ⟨s, rfl, hs⟩
    refine ⟨s, rfl, ?_⟩
    rw [(h s a).2 hs]

/-- A word that begins as null is no value. -/
theorem Decoder.Decides.not_brokenNull {d : Decoder α} (h : d.Decides Means) (f : Fault) (a : α) :
    ¬ Means (.brokenNull f) a := by
  intro hmeans
  cases h.skipped _ a hmeans

theorem Decoder.Decides.option {d : Decoder α} (h : d.Decides Means) :
    (decodeOption d).Decides (Nullable Means) := by
  refine ⟨fun t o => ?_, ?_⟩
  · have hvalue : t ≠ .null → (d t).map some = .ok o → Nullable Means t o := by
      intro hne hmap
      cases hd : d t with
      | error f =>
        rw [hd] at hmap
        cases hmap
      | ok a =>
        rw [hd] at hmap
        cases hmap
        exact .value hne ((h.iff t a).1 hd)
    constructor
    · intro hread
      unfold decodeOption at hread
      split at hread
      · cases hread
        exact .null
      · cases hread
      · exact hvalue ‹_› hread
    · rintro (_ | ⟨hne, ha⟩)
      · rfl
      · unfold decodeOption
        split
        · exact absurd rfl hne
        · exact absurd ha (h.not_brokenNull _ _)
        · rw [(h.iff t _).2 ha]
          rfl
  · rintro t o (_ | ⟨-, ha⟩)
    · exact .null
    · exact h.skipped t _ ha

theorem Decoder.Decides.list {d : Decoder α} (h : d.Decides Means) :
    (decodeList d).Decides (ListOf Means) := by
  have hitems : ∀ (ts : List Tree) (as : List α),
      decodeItems d ts = .ok as ↔ List.Forall₂ Means ts as := by
    intro ts
    induction ts with
    | nil =>
      intro as
      rw [decodeItems, List.forall₂_nil_left_iff, Except.ok.injEq, eq_comm]
    | cons t ts ih =>
      intro as
      rw [decodeItems, bind_eq_ok_iff]
      simp only [bind_eq_ok_iff, h.iff t, ih]
      rw [List.forall₂_cons_left_iff]
      constructor
      · rintro ⟨a, ha, as, has, ⟨⟩⟩
        exact ⟨a, as, ha, has, rfl⟩
      · rintro ⟨a, as, ha, has, rfl⟩
        exact ⟨a, ha, as, has, rfl⟩
  refine ⟨fun t as => ?_, ?_⟩
  · cases t with
    | list items ending =>
      rw [decodeList, bind_eq_ok_iff]
      simp only [then_eq_ok_iff, hitems, Ending.check_eq_ok_iff]
      constructor
      · rintro ⟨_, has, rfl, ⟨⟩⟩
        exact .intro has
      · rintro ⟨has⟩
        exact ⟨as, has, rfl, rfl⟩
    | _ => exact iff_of_false (by rintro ⟨⟩) (by rintro ⟨⟩)
  · rintro _ _ ⟨has⟩
    refine .list ?_
    induction has with
    | nil => exact List.forall_mem_nil _
    | cons ha _ ih => exact List.forall_mem_cons.2 ⟨h.skipped _ _ ha, ih⟩

theorem decodeName_eq_ok_iff {named? : String → Option α} {s : String} {a : α} :
    decodeName named? s = .ok a ↔ named? s = some a := by
  rw [decodeName]
  cases named? s with
  | none => exact iff_of_false (by rintro ⟨⟩) (by rintro ⟨⟩)
  | some b => exact ⟨by rintro ⟨⟩; rfl, by rintro ⟨⟩; rfl⟩

theorem decodeNull_eq_ok_iff {t : Tree} : decodeNull t = .ok () ↔ t = .null := by
  cases t with
  | null => exact iff_of_true rfl rfl
  | _ => exact iff_of_false (by rintro ⟨⟩) (by rintro ⟨⟩)

theorem Named.skipped [Enumeration α] {t : Tree} {a : α} (h : Named t a) : t.Skipped := by
  cases h with
  | text => exact .text _
  | member =>
    exact .object (List.forall_mem_singleton.2 (.text _)) (List.forall_mem_singleton.2 .null)

theorem decides_named [Enumeration α] : (Enumeration.decode (α := α)).Decides Named := by
  have hname : ∀ {s : String} {a : α}, Enumeration.named? s = some a ↔ Enumeration.name a = s :=
    ⟨Enumeration.name_of_named?, fun h => h ▸ Enumeration.named?_name _⟩
  refine ⟨fun t a => ?_, fun _ _ => Named.skipped⟩
  rw [Enumeration.decode]
  constructor
  · intro h
    unfold decodeEnum at h
    split at h
    case h_1 s =>
      obtain rfl := hname.1 (decodeName_eq_ok_iff.1 h)
      exact .text a
    case h_5 s t ms ending =>
      obtain ⟨b, hb, hrest⟩ := bind_eq_ok_iff.1 h
      obtain ⟨hnull, hend⟩ := then_eq_ok_iff.1 hrest
      obtain rfl := hname.1 (decodeName_eq_ok_iff.1 hb)
      obtain rfl := decodeNull_eq_ok_iff.1 hnull
      split at hend
      · cases hend
        exact .member a
      · cases hend
      · cases hend
    case h_6 ending =>
      obtain ⟨-, h⟩ := then_eq_ok_iff.1 h
      cases h
    all_goals cases h
  · rintro (_ | _)
    · exact decodeName_eq_ok_iff.2 (Enumeration.named?_name a)
    · rw [decodeEnum, decodeName_eq_ok_iff.2 (Enumeration.named?_name a)]
      rfl

theorem int?_eq_some_iff {n : Number} {i : Int} : n.int? = some i ↔ Integer (.number n) i := by
  obtain ⟨negative, digits, exponent⟩ := n
  constructor
  · intro h
    rw [Number.int?] at h
    split at h
    case isFalse => cases h
    case isTrue hexponent =>
      obtain rfl : exponent = none := hexponent
      cases negative with
      | false =>
        cases h
        exact .natural digits
      | true =>
        split at h
        · split at h
          · cases h
          · cases h
            exact .negative ‹_›
        · contradiction
  · rintro (_ | h)
    · rfl
    · simp [Number.int?, h]

theorem Integer.skipped {t : Tree} {i : Int} (h : Integer t i) : t.Skipped := by
  cases h with
  | natural digits => exact .number _
  | negative => exact .number _

theorem decides_int64 : decodeInt64.Decides fun t (i : Int64) => Integer t i.toInt := by
  refine ⟨fun t i => ?_, fun _ _ => Integer.skipped⟩
  cases t with
  | number n =>
    show _ ↔ Integer (.number n) i.toInt
    rw [decodeInt64, decodeNumber, ← int?_eq_some_iff]
    have hread : n.int64? = some i ↔ n.int? = some i.toInt := by
      rw [Number.int64?, Option.bind_eq_some_iff]
      constructor
      · rintro ⟨j, hj, hi⟩
        rw [hj, Text.toInt_of_int64OfInt? hi]
      · exact fun h => ⟨_, h, int64OfInt?_toInt i⟩
    rw [← hread]
    cases n.int64? with
    | none => exact iff_of_false (by rintro ⟨⟩) (by rintro ⟨⟩)
    | some j => exact ⟨by rintro ⟨⟩; rfl, by rintro ⟨⟩; rfl⟩
  | _ => exact iff_of_false (by rintro ⟨⟩) (by rintro ⟨⟩)

/-! ### Records -/

/-- How a record is given. -/
inductive Form where
  /-- As an object with its fields as members. -/
  | object
  /-- As the list of its fields. -/
  | list
deriving DecidableEq

/-- The members of an object that is read as a record with the given names of fields: all of them
have names, no field comes twice, and what is no field may be passed over. -/
structure Members (names : List String) (members : List (Key × Tree)) : Prop where
  keys : ∀ m ∈ members, ∃ name, m.1 = .text name
  once : members.Pairwise fun m m' => ∀ name ∈ names, m.1 = .text name → m'.1 ≠ .text name
  others : ∀ m ∈ members, (∀ name ∈ names, m.1 ≠ .text name) → m.2.Skipped

/-- The tree is a record with the given names of fields, of which those that are there are found by
their names. -/
inductive Tree.IsRecord (names : List String) : Tree → Form → (String → Option Tree) → Prop
  | object {members : List (Key × Tree)} (h : Members names members) :
      IsRecord names (.object members .closed) .object fun name => members.lookup (.text name)
  | list {items : List Tree} (h : items.length ≤ names.length) :
      IsRecord names (.list items .closed) .list fun name => (names.zip items).lookup name

/-- A field that has to be there. -/
def Required (Means : Tree → α → Prop) (_ : Form) (t : Option Tree) (a : α) : Prop :=
  ∃ u, t = some u ∧ Means u a

/-- A field that may be null, or left out of an object. -/
def Optional (Means : Tree → α → Prop) (form : Form) (t : Option Tree) (o : Option α) : Prop :=
  (∃ u, t = some u ∧ Nullable Means u o) ∨ t = none ∧ form = .object ∧ o = none

/-- A field that may be left out. -/
def Defaulted (default : α) (Means : Tree → α → Prop) (_ : Form) (t : Option Tree) (a : α) : Prop :=
  (∃ u, t = some u ∧ Means u a) ∨ t = none ∧ a = default

/-- The fields of the record are read as the relation on them says. -/
structure Record.Decides (r : Record α) (Says : Form → (String → Option Tree) → α → Prop) :
    Prop where
  /-- What is read as a field may be passed over as well. -/
  skipped : ∀ form value a, Says form value a →
    ∀ p ∈ r.fields, ∀ t, value p.1 = some t → t.Skipped
  object : ∀ value a, r.ofMembers value = .ok a ↔ Says .object value a
  /-- A field that is read passes. -/
  checked : ∀ value a, r.ofMembers value = .ok a →
    ∀ p ∈ r.fields, ∀ t, value p.1 = some t → p.2 t = .ok ()
  list : ∀ (value : String → Option Tree) (items : List Tree),
    (∀ (i : Nat) (name : String), (r.fields.map Prod.fst)[i]? = some name →
      value name = items[i]?) →
    ∀ a rest, r.ofItems .closed items = .ok (a, rest) ↔
      rest = items.drop r.fields.length ∧ Says .list value a

namespace Record

variable {name : String} {d : Decoder α}

theorem decides_field {absent short : Option α} (h : d.Decides Means) :
    (field name d absent short).Decides fun form value a =>
      (∃ u, value name = some u ∧ Means u a) ∨
        value name = none ∧ (match form with | .object => absent | .list => short) = some a := by
  refine ⟨fun form value a hsays => ?_, fun value a => ?_, fun value a hread => ?_,
    fun value items hvalue a rest => ?_⟩
  · intro p hp t ht
    obtain rfl := List.mem_singleton.1 hp
    rcases hsays with ⟨u, hu, hmeans⟩ | ⟨hnone, -⟩
    · obtain rfl := Option.some.inj (ht.symm.trans hu)
      exact h.skipped t a hmeans
    · cases hnone.symm.trans ht
  · cases hvalue : value name with
    | some u => simp [field, hvalue, h.iff u a]
    | none => cases absent <;> simp [field, hvalue]
  · intro p hp t ht
    obtain rfl := List.mem_singleton.1 hp
    simp only [field, ht] at hread
    show (d t).map (fun _ => ()) = .ok ()
    rw [hread]
    rfl
  · have hfirst : value name = items[0]? := hvalue 0 name rfl
    cases items with
    | cons t items =>
      have hsome : value name = some t := hfirst
      have hdrop : (t :: items).drop (field name d absent short).fields.length = items := rfl
      rw [hdrop]
      simp only [field, hsome, Option.some.injEq, exists_eq_left', reduceCtorEq, false_and,
        or_false, ← h.iff t a]
      cases d t with
      | error f => simp [Except.map]
      | ok b => simp [Except.map, and_comm, eq_comm]
    | nil =>
      have hnone : value name = none := hfirst
      cases short <;> simp [field, hnone, Ending.check, bind, Except.bind, and_comm, eq_comm]

variable {Says Says' : Form → (String → Option Tree) → α → Prop} {r : Record α}

theorem Decides.congr (h : r.Decides Says)
    (heq : ∀ form value a, Says form value a ↔ Says' form value a) : r.Decides Says' where
  skipped form value a ha := h.skipped form value a ((heq _ _ _).2 ha)
  object value a := (h.object value a).trans (heq _ _ _)
  checked := h.checked
  list value items hvalue a rest := by rw [h.list value items hvalue a rest, heq]

theorem decides_required (name : String) (h : d.Decides Means) :
    (required name d).Decides fun form value a => Required Means form (value name) a :=
  (decides_field h).congr fun form value a => by cases form <;> simp [Required]

theorem decides_optional (name : String) (h : d.Decides Means) :
    (optional name d).Decides fun form value a => Optional Means form (value name) a :=
  (decides_field h.option).congr fun form value a => by
    cases form <;> simp [Optional, eq_comm]

theorem decides_defaulted (name : String) (h : d.Decides Means) (default : α) :
    (defaulted name d default).Decides fun form value a =>
      Defaulted default Means form (value name) a :=
  (decides_field h).congr fun form value a => by cases form <;> simp [Defaulted, eq_comm]

theorem Decides.map (h : r.Decides Says) (f : α → β) :
    (r.map f).Decides fun form value b => ∃ a, Says form value a ∧ b = f a := by
  have hmap : ∀ {γ δ : Type} {x : Except Fault γ} {g : γ → δ} {b : δ},
      x.map g = .ok b ↔ ∃ a, x = .ok a ∧ b = g a := by
    intro γ δ x g b
    cases x <;> simp [Except.map, eq_comm]
  refine ⟨?_, fun value b => ?_, fun value b hread => ?_, fun value items hvalue b rest => ?_⟩
  · rintro form value _ ⟨a, ha, -⟩
    exact h.skipped form value a ha
  · simp only [Record.map, hmap, h.object]
  · obtain ⟨a, ha, -⟩ := hmap.1 hread
    exact h.checked value a ha
  · simp only [Record.map, hmap, Prod.exists, h.list value items hvalue, Prod.mk.injEq]
    constructor
    · rintro ⟨a, _, ⟨hrest, ha⟩, rfl, rfl⟩
      exact ⟨hrest, a, ha, rfl⟩
    · rintro ⟨hrest, a, ha, rfl⟩
      exact ⟨a, rest, ⟨hrest, ha⟩, rfl, rfl⟩

theorem Decides.and {r : Record (α → β)} {s : Record α}
    {SaysLeft : Form → (String → Option Tree) → (α → β) → Prop} (hr : r.Decides SaysLeft)
    (hs : s.Decides Says) :
    (r.and s).Decides fun form value b => ∃ f a, SaysLeft form value f ∧ Says form value a ∧
      b = f a := by
  refine ⟨?_, fun value b => ?_, fun value b hread => ?_, fun value items hvalue b rest => ?_⟩
  · rintro form value _ ⟨f, a, hf, ha, -⟩ p hp
    exact (List.mem_append.1 hp).elim (hr.skipped form value f hf p) (hs.skipped form value a ha p)
  · simp only [Record.and, bind_eq_ok_iff, hr.object, hs.object, pure, Except.pure, Except.ok.injEq]
    constructor
    · rintro ⟨f, hf, a, ha, hb⟩
      exact ⟨f, a, hf, ha, hb.symm⟩
    · rintro ⟨f, a, hf, ha, hb⟩
      exact ⟨f, hf, a, ha, hb.symm⟩
  · obtain ⟨f, hf, hread⟩ := bind_eq_ok_iff.1 hread
    obtain ⟨a, ha, -⟩ := bind_eq_ok_iff.1 hread
    exact fun p hp =>
      (List.mem_append.1 hp).elim (hr.checked value f hf p) (hs.checked value a ha p)
  · have hnames : (r.and s).fields.map Prod.fst = r.fields.map Prod.fst ++ s.fields.map Prod.fst :=
      List.map_append
    have hlength : (r.and s).fields.length = r.fields.length + s.fields.length :=
      List.length_append
    have hleft := hr.list value items fun i name hname => hvalue i name (by
      rw [hnames, List.getElem?_append_left (List.getElem?_eq_some_iff.1 hname).1]
      exact hname)
    -- The fields of the second record are found behind those of the first.
    have hright := hs.list value (items.drop r.fields.length) fun i name hname => by
      rw [List.getElem?_drop]
      refine hvalue _ name ?_
      rw [hnames, List.getElem?_append_right (by simp), List.length_map, Nat.add_sub_cancel_left]
      exact hname
    have hread : (r.and s).ofItems .closed items =
        r.ofItems .closed items >>= fun p =>
          s.ofItems .closed p.2 >>= fun q => pure (p.1 q.1, q.2) := rfl
    rw [hread, hlength, ← List.drop_drop]
    simp only [bind_eq_ok_iff, Prod.exists, hleft]
    constructor
    · rintro ⟨f, _, ⟨rfl, hf⟩, a, _, hitems, ⟨⟩⟩
      obtain ⟨rfl, ha⟩ := (hright a _).1 hitems
      exact ⟨rfl, f, a, hf, ha, rfl⟩
    · rintro ⟨rfl, f, a, hf, ha, rfl⟩
      exact ⟨f, _, ⟨rfl, hf⟩, a, _, (hright a _).2 ⟨rfl, ha⟩, rfl⟩

/-! ### Objects -/

/-- One member more. -/
theorem members_cons_iff {names : List String} {name : String} {t : Tree}
    {members : List (Key × Tree)} : Members names ((.text name, t) :: members) ↔
      Members names members ∧ (name ∈ names → ∀ m ∈ members, m.1 ≠ .text name) ∧
        (name ∉ names → t.Skipped) := by
  constructor
  · rintro ⟨hkeys, honce, hothers⟩
    obtain ⟨hfirst, honce⟩ := List.pairwise_cons.1 honce
    refine ⟨⟨(List.forall_mem_cons.1 hkeys).2, honce, (List.forall_mem_cons.1 hothers).2⟩,
      fun hname m hm => hfirst m hm name hname rfl, fun hname => ?_⟩
    refine hothers _ List.mem_cons_self fun name' hname' heq => hname ?_
    cases heq
    exact hname'
  · rintro ⟨⟨hkeys, honce, hothers⟩, hfirst, hskipped⟩
    refine ⟨List.forall_mem_cons.2 ⟨⟨name, rfl⟩, hkeys⟩, List.pairwise_cons.2 ⟨?_, honce⟩,
      List.forall_mem_cons.2 ⟨?_, hothers⟩⟩
    · rintro m hm _ hname ⟨⟩
      exact hfirst hname m hm
    · exact fun hnot => hskipped fun hname => hnot name hname rfl

theorem lookup_eq_none_iff_not_mem {γ : Type} {fields : List (String × γ)} {name : String} :
    fields.lookup name = none ↔ name ∉ fields.map Prod.fst := by
  constructor
  · intro h hmem
    obtain ⟨c, hc⟩ := exists_lookup_eq_some hmem
    cases h.symm.trans hc
  · exact lookup_eq_none_of_notMem

theorem checkMembers_eq_ok_iff {fields : List (String × Decoder Unit)} {seen : List String}
    {members : List (Key × Tree)} : checkMembers fields seen members = .ok () ↔
      Members (fields.map Prod.fst) members ∧
      (∀ m ∈ members, ∀ name ∈ seen, name ∈ fields.map Prod.fst → m.1 ≠ .text name) ∧
      ∀ m ∈ members, ∀ name check, m.1 = .text name → fields.lookup name = some check →
        check m.2 = .ok () := by
  induction members generalizing seen with
  | nil =>
    have hnone : ∀ {p : Key × Tree → Prop}, ∀ m ∈ [], p m := List.forall_mem_nil _
    exact iff_of_true rfl ⟨⟨hnone, .nil, hnone⟩, hnone, hnone⟩
  | cons m members ih =>
    obtain ⟨key, t⟩ := m
    cases key with
    | broken f passed =>
      refine iff_of_false (by rintro ⟨⟩) ?_
      rintro ⟨h, -⟩
      obtain ⟨_, hname⟩ := h.keys _ List.mem_cons_self
      cases hname
    | text name =>
      rw [checkMembers]
      cases hlookup : fields.lookup name with
      | none =>
        have hnot : name ∉ fields.map Prod.fst := lookup_eq_none_iff_not_mem.1 hlookup
        simp only [then_eq_ok_iff, Tree.pass_eq_ok_iff, ih, members_cons_iff, List.forall_mem_cons,
          Key.text.injEq]
        constructor
        · rintro ⟨hskipped, hmembers, hseen, hchecks⟩
          refine ⟨⟨hmembers, fun h => absurd h hnot, fun _ => hskipped⟩,
            ⟨?_, hseen⟩, ?_, hchecks⟩
          · rintro _ - hname ⟨⟩
            exact hnot hname
          · rintro _ check rfl hcheck
            cases hlookup.symm.trans hcheck
        · rintro ⟨⟨hmembers, -, hskipped⟩, ⟨-, hseen⟩, -, hchecks⟩
          exact ⟨hskipped hnot, hmembers, hseen, hchecks⟩
      | some check =>
        have hmem : name ∈ fields.map Prod.fst := by
          by_contra h
          cases hlookup.symm.trans (lookup_eq_none_iff_not_mem.2 h)
        simp only [members_cons_iff, List.forall_mem_cons, Key.text.injEq]
        split
        case isTrue hseen =>
          refine iff_of_false (by rintro ⟨⟩) ?_
          rintro ⟨-, ⟨h, -⟩, -⟩
          exact h name hseen hmem rfl
        case isFalse hnew =>
          simp only [then_eq_ok_iff, ih, List.forall_mem_cons]
          constructor
          · rintro ⟨hcheck, hmembers, hseen, hchecks⟩
            refine ⟨⟨hmembers, fun _ m hm => (hseen m hm).1 hmem, fun h => absurd hmem h⟩,
              ⟨?_, fun m hm => (hseen m hm).2⟩, ?_, hchecks⟩
            · rintro _ hname - ⟨⟩
              exact hnew hname
            · rintro _ check' rfl hcheck'
              obtain rfl : check = check' := Option.some.inj (hlookup.symm.trans hcheck')
              exact hcheck
          · rintro ⟨⟨hmembers, honce, -⟩, ⟨-, hseen⟩, hcheck, hchecks⟩
            exact ⟨hcheck name check rfl hlookup, hmembers,
              fun m hm => ⟨fun _ => honce hmem m hm, hseen m hm⟩, hchecks⟩

/-- A field is found by its name, since it comes once. -/
theorem memberNamed_eq {names : List String} {members : List (Key × Tree)}
    (h : Members names members) {m : Key × Tree} (hm : m ∈ members) {name : String}
    (hname : name ∈ names) (hkey : m.1 = .text name) : memberNamed members name = some m.2 := by
  obtain ⟨before, after, rfl⟩ := List.append_of_mem hm
  obtain ⟨-, -, hbefore⟩ := List.pairwise_append.1 h.once
  refine List.lookup_eq_some_iff.2 ⟨before, after, by rw [← hkey], fun p hp => bne_iff_ne.2 ?_⟩
  exact fun heq => hbefore p hp m List.mem_cons_self name hname heq.symm hkey

/-! ### Lists -/

theorem lookup_zip {names : List String} (hnodup : names.Nodup) (items : List Tree) {i : Nat}
    {name : String} (h : names[i]? = some name) : (names.zip items).lookup name = items[i]? := by
  induction names generalizing items i with
  | nil => cases h
  | cons n names ih =>
    obtain ⟨hn, hnodup⟩ := List.nodup_cons.1 hnodup
    cases items with
    | nil => rfl
    | cons t items =>
      rw [List.zip_cons_cons]
      cases i with
      | zero =>
        obtain rfl := Option.some.inj h
        exact List.lookup_cons_self
      | succ i =>
        have hne : (name == n) = false :=
          beq_eq_false_iff_ne.2 (ne_of_mem_of_not_mem (List.mem_of_getElem? (l := names) h) hn)
        rw [List.lookup_cons, hne]
        exact ih hnodup items h

/-! ### Records -/

/-- A record may be passed over if its fields may. -/
theorem skipped_of_isRecord {names : List String} {form : Form} {value : String → Option Tree}
    {t : Tree} (h : t.IsRecord names form value) (hnodup : names.Nodup)
    (hvalue : ∀ name ∈ names, ∀ u, value name = some u → u.Skipped) : t.Skipped := by
  cases h with
  | @object members h =>
    refine .object (fun m hm => ?_) fun m hm => ?_
    · obtain ⟨name, hkey⟩ := h.keys m hm
      rw [hkey]
      exact .text name
    · by_cases hfield : ∃ name ∈ names, m.1 = .text name
      · obtain ⟨name, hname, hkey⟩ := hfield
        exact hvalue name hname m.2 (memberNamed_eq h hm hname hkey)
      · exact h.others m hm fun name hname hkey => hfield ⟨name, hname, hkey⟩
  | @list items hle =>
    refine .list fun t ht => ?_
    obtain ⟨i, hi, rfl⟩ := List.getElem_of_mem ht
    have hname : names[i]? = some names[i] := List.getElem?_eq_getElem (by omega)
    exact hvalue _ (List.getElem_mem _) _
      ((lookup_zip hnodup items hname).trans (List.getElem?_eq_getElem hi))

/-- **A record is read as what its fields say.** -/
theorem Decides.decode (h : r.Decides Says) (hnodup : (r.fields.map Prod.fst).Nodup) :
    r.decode.Decides fun t a => ∃ form value,
      t.IsRecord (r.fields.map Prod.fst) form value ∧ Says form value a := by
  have hlist : ∀ items a rest, r.ofItems .closed items = .ok (a, rest) ↔
      rest = items.drop r.fields.length ∧
        Says .list (fun name => ((r.fields.map Prod.fst).zip items).lookup name) a :=
    fun items => h.list _ items fun _ _ => lookup_zip hnodup items
  have hskipped : ∀ (t : Tree) a, (∃ form value, t.IsRecord (r.fields.map Prod.fst) form value ∧
      Says form value a) → t.Skipped := by
    rintro t a ⟨form, value, hrecord, ha⟩
    refine skipped_of_isRecord hrecord hnodup fun name hname u hu => ?_
    obtain ⟨p, hp, rfl⟩ := List.mem_map.1 hname
    exact h.skipped form value a ha p hp u hu
  refine ⟨fun t a => ?_, hskipped⟩
  constructor
  · intro hread
    unfold Record.decode at hread
    split at hread
    case h_1 members ending =>
      obtain ⟨hcheck, hread⟩ := then_eq_ok_iff.1 hread
      obtain ⟨hending, hread⟩ := then_eq_ok_iff.1 hread
      obtain rfl := Ending.check_eq_ok_iff.1 hending
      exact ⟨_, _, .object (checkMembers_eq_ok_iff.1 hcheck).1, (h.object _ a).1 hread⟩
    case h_2 items ending =>
      obtain ⟨⟨b, rest⟩, hitems, hend⟩ := bind_eq_ok_iff.1 hread
      dsimp only at hend
      split at hend
      · cases hend
      · rename_i hrest
        obtain ⟨hending, heq⟩ := then_eq_ok_iff.1 hend
        obtain rfl := Ending.check_eq_ok_iff.1 hending
        obtain rfl := Except.ok.inj heq
        obtain ⟨rfl, ha⟩ := (hlist items _ rest).1 hitems
        refine ⟨_, _, .list ?_, ha⟩
        rw [List.length_map]
        exact List.drop_eq_nil_iff.1 (by simpa using hrest)
    case h_3 => cases hread
  · rintro ⟨_, _, hmembers | hle, ha⟩
    · have hread := (h.object _ a).2 ha
      refine then_eq_ok_iff.2 ⟨checkMembers_eq_ok_iff.2 ⟨hmembers, (by rintro _ - _ ⟨⟩), ?_⟩,
        then_eq_ok_iff.2 ⟨rfl, hread⟩⟩
      intro m hm name check hkey hcheck
      have hmem := mem_of_lookup_eq_some hcheck
      exact h.checked _ a hread _ hmem m.2
        (memberNamed_eq hmembers hm (List.mem_map_of_mem hmem) hkey)
    · rw [List.length_map] at hle
      refine bind_eq_ok_iff.2 ⟨(a, []), (hlist _ a []).2 ⟨?_, ha⟩, rfl⟩
      exact (List.drop_eq_nil_iff.2 hle).symm

end Record

/-! ### Texts -/

/-- **A text is read as what the tree that is written in it means.** -/
theorem Decoder.Decides.run {α : Type} {d : Decoder α} {Means : Tree → α → Prop}
    (h : d.Decides Means) {s : List (Option Char)} {a : α} :
    d.run (.ofChars s) = .ok a ↔ ∃ t, Writes s t ∧ Means t a := by
  rw [Decoder.run, bind_eq_ok_iff]
  constructor
  · rintro ⟨b, hb, hend⟩
    split at hend
    case isTrue => cases hend
    case isFalse htrailing =>
      cases hend
      have hmeans := (h.iff _ a).1 hb
      refine ⟨_, (Document.ofChars_eq_iff (h.skipped _ a hmeans)).1 ?_, hmeans⟩
      rw [← Bool.eq_false_iff.2 htrailing]
  · rintro ⟨t, hwrites, hmeans⟩
    rw [(Document.ofChars_eq_iff (h.skipped t a hmeans)).2 hwrites]
    exact ⟨a, (h.iff t a).2 hmeans, rfl⟩

end VisitBooking.Json
