import VisitBooking.Json.Tree
import VisitBooking.Proofs.Json.Lexemes

/-!
# The grammar of JSON

What tokens spell which tree, in the form of a grammar, and the proof that the reader finds the tree
that is spelled and no other. The grammar speaks of trees that are in order. The reader also makes a
tree of a text that is not, but it makes none that could be passed over.

The reader takes one token after the other and keeps the lists and objects that are open. What the
tokens so far spell can be told from its state: the values in the open lists and objects, and the
brackets, names and commas between them. This is the invariant from which it follows that nothing
else is read.

## Main definitions

* `Tree.Skipped`: what may be passed over.
* `Spells`: tokens and the tree that they spell.
* `Writes`: a text and the tree that is written in it.
* `Reaches`: what the tokens so far spell in a state of the reader.

## Main results

* `Spells.foldl_step`: tokens that spell a tree make it.
* `Reaches.step`, `reaches_foldl`: the invariant, for one token and for all.
* `Document.ofChars_eq_iff`: a text is read as the tree that is written in it.
-/

namespace VisitBooking.Json

/-! ### Trees and their tokens -/

/-- The name of a member may be passed over even if it cannot be read. -/
inductive Key.Skipped : Key → Prop
  | text (s : String) : Skipped (.text s)
  | broken (f : Fault) : Skipped (.broken f none)

/-- The tree is in order, apart from texts that cannot be read. -/
inductive Tree.Skipped : Tree → Prop
  | null : Skipped .null
  | bool (b : Bool) : Skipped (.bool b)
  | number (n : Number) : Skipped (.number n)
  | text (s : String) : Skipped (.text s)
  | brokenText (f : Fault) : Skipped (.brokenText f none)
  | list {items : List Tree} (h : ∀ t ∈ items, Skipped t) : Skipped (.list items .closed)
  | object {members : List (Key × Tree)} (hkeys : ∀ m ∈ members, m.1.Skipped)
      (h : ∀ m ∈ members, Skipped m.2) : Skipped (.object members .closed)

mutual

/-- Tokens and the tree that they spell. -/
inductive Spells : List Token → Tree → Prop
  | null : Spells [.null] .null
  | bool (b : Bool) : Spells [.bool b] (.bool b)
  | number (n : Number) : Spells [.number n] (.number n)
  | text (s : String) : Spells [.text s] (.text s)
  | brokenText (f : Fault) : Spells [.brokenText f none] (.brokenText f none)
  | emptyList : Spells [.openList, .closeList] (.list [] .closed)
  | list {ts : List Token} {items : List Tree} (h : SpellsItems ts items) :
      Spells (.openList :: (ts ++ [.closeList])) (.list items .closed)
  | emptyObject : Spells [.openObject, .closeObject] (.object [] .closed)
  | object {ts : List Token} {members : List (Key × Tree)} (h : SpellsMembers ts members) :
      Spells (.openObject :: (ts ++ [.closeObject])) (.object members .closed)

/-- Items with commas between them. -/
inductive SpellsItems : List Token → List Tree → Prop
  | one {ts : List Token} {t : Tree} (h : Spells ts t) : SpellsItems ts [t]
  | more {ts us : List Token} {items : List Tree} {t : Tree} (hitems : SpellsItems ts items)
      (h : Spells us t) : SpellsItems (ts ++ .comma :: us) (items ++ [t])

/-- A name and, after a colon, what it names. -/
inductive SpellsMember : List Token → Key × Tree → Prop
  | text (name : String) {ts : List Token} {t : Tree} (h : Spells ts t) :
      SpellsMember (.text name :: .colon :: ts) (.text name, t)
  | brokenText (f : Fault) {ts : List Token} {t : Tree} (h : Spells ts t) :
      SpellsMember (.brokenText f none :: .colon :: ts) (.broken f none, t)

/-- Members with commas between them. -/
inductive SpellsMembers : List Token → List (Key × Tree) → Prop
  | one {ts : List Token} {m : Key × Tree} (h : SpellsMember ts m) : SpellsMembers ts [m]
  | more {ts us : List Token} {members : List (Key × Tree)} {m : Key × Tree}
      (hmembers : SpellsMembers ts members) (h : SpellsMember us m) :
      SpellsMembers (ts ++ .comma :: us) (members ++ [m])

end

variable {s : List (Option Char)} {ts us : List Token} {t : Tree} {frames : List Frame}

mutual

/-- Tokens that spell something can be written. -/
theorem Spells.proper : ∀ {ts : List Token} {t : Tree}, Spells ts t → ∀ u ∈ ts, u.Proper
  | _, _, .null | _, _, .bool _ | _, _, .number _ | _, _, .text _ | _, _, .brokenText _
  | _, _, .emptyList | _, _, .emptyObject => by simp [Token.Proper]
  | _, _, .list h => by simpa [Token.Proper, or_imp, forall_and] using h.proper
  | _, _, .object h => by simpa [Token.Proper, or_imp, forall_and] using h.proper

theorem SpellsItems.proper : ∀ {ts : List Token} {items : List Tree}, SpellsItems ts items →
    ∀ u ∈ ts, u.Proper
  | _, _, .one h => h.proper
  | _, _, .more hitems h =>
    List.forall_mem_append.2 ⟨hitems.proper, List.forall_mem_cons.2 ⟨trivial, h.proper⟩⟩

theorem SpellsMember.proper : ∀ {ts : List Token} {m : Key × Tree}, SpellsMember ts m →
    ∀ u ∈ ts, u.Proper
  | _, _, .text _ h =>
    List.forall_mem_cons.2 ⟨trivial, List.forall_mem_cons.2 ⟨trivial, h.proper⟩⟩
  | _, _, .brokenText _ h =>
    List.forall_mem_cons.2 ⟨rfl, List.forall_mem_cons.2 ⟨trivial, h.proper⟩⟩

theorem SpellsMembers.proper : ∀ {ts : List Token} {members : List (Key × Tree)},
    SpellsMembers ts members → ∀ u ∈ ts, u.Proper
  | _, _, .one h => h.proper
  | _, _, .more hmembers h =>
    List.forall_mem_append.2 ⟨hmembers.proper, List.forall_mem_cons.2 ⟨trivial, h.proper⟩⟩

end

/-! ### What is spelled is read -/

/-- A value does not begin with the end of a list. -/
theorem Spells.foldl_step_firstItem (h : Spells ts t) (frames : List Frame) :
    ts.foldl State.step (.firstItem frames) =
      ts.foldl State.step (.value (.list [] :: frames)) := by
  cases h <;> rfl

theorem SpellsMember.foldl_step_firstMember {m : Key × Tree} (h : SpellsMember ts m)
    (frames : List Frame) :
    ts.foldl State.step (.firstMember frames) = ts.foldl State.step (.member frames []) := by
  cases h <;> rfl

mutual

/-- Tokens that spell a tree make it, whatever lists and objects are around it. -/
theorem Spells.foldl_step : ∀ {ts : List Token} {t : Tree}, Spells ts t → ∀ frames : List Frame,
    ts.foldl State.step (.value frames) = .complete t frames
  | _, _, .null, _ | _, _, .bool _, _ | _, _, .number _, _ | _, _, .text _, _
  | _, _, .brokenText _, _ | _, _, .emptyList, _ | _, _, .emptyObject, _ => rfl
  | _, _, @Spells.list ts items h, frames => by
    have hitems : ts.foldl State.step (.firstItem frames) = .afterItem frames items.reverse :=
      h.foldl_step frames
    show (ts ++ [Token.closeList]).foldl State.step (.firstItem frames) = _
    rw [List.foldl_append, hitems]
    show State.complete (.list items.reverse.reverse .closed) frames = _
    rw [List.reverse_reverse]
  | _, _, @Spells.object ts members h, frames => by
    have hmembers : ts.foldl State.step (.firstMember frames) =
      .afterMember frames members.reverse := h.foldl_step frames
    show (ts ++ [Token.closeObject]).foldl State.step (.firstMember frames) = _
    rw [List.foldl_append, hmembers]
    show State.complete (.object members.reverse.reverse .closed) frames = _
    rw [List.reverse_reverse]

theorem SpellsItems.foldl_step : ∀ {ts : List Token} {items : List Tree}, SpellsItems ts items →
    ∀ frames : List Frame,
    ts.foldl State.step (.firstItem frames) = .afterItem frames items.reverse
  | _, _, .one h, frames => (h.foldl_step_firstItem frames).trans (h.foldl_step _)
  | _, _, @SpellsItems.more _ _ items _ hitems h, frames => by
    rw [List.foldl_append, hitems.foldl_step frames, List.reverse_append]
    exact h.foldl_step (.list items.reverse :: frames)

theorem SpellsMember.foldl_step : ∀ {ts : List Token} {m : Key × Tree}, SpellsMember ts m →
    ∀ (frames : List Frame) (before : List (Key × Tree)),
    ts.foldl State.step (.member frames before) = .afterMember frames (m :: before)
  | _, _, .text name h, frames, before => h.foldl_step (.object before (.text name) :: frames)
  | _, _, .brokenText f h, frames, before =>
    h.foldl_step (.object before (.broken f none) :: frames)

theorem SpellsMembers.foldl_step : ∀ {ts : List Token} {members : List (Key × Tree)},
    SpellsMembers ts members → ∀ frames : List Frame,
    ts.foldl State.step (.firstMember frames) = .afterMember frames members.reverse
  | _, _, .one h, frames => (h.foldl_step_firstMember frames).trans (h.foldl_step frames [])
  | _, _, @SpellsMembers.more _ _ members _ hmembers h, frames => by
    rw [List.foldl_append, hmembers.foldl_step frames, List.reverse_append]
    exact h.foldl_step frames members.reverse

end

/-! ### What is read is spelled -/

/-- Tokens of the items before another one. -/
inductive BeforeItem : List Token → List Tree → Prop
  | first : BeforeItem [] []
  | comma {ts : List Token} {items : List Tree} (h : SpellsItems ts items) :
      BeforeItem (ts ++ [.comma]) items

/-- Tokens of the members before another one. -/
inductive BeforeMember : List Token → List (Key × Tree) → Prop
  | first : BeforeMember [] []
  | comma {ts : List Token} {members : List (Key × Tree)} (h : SpellsMembers ts members) :
      BeforeMember (ts ++ [.comma]) members

/-- The token is a name. -/
inductive SpellsKey : Token → Key → Prop
  | text (name : String) : SpellsKey (.text name) (.text name)
  | brokenText (f : Fault) : SpellsKey (.brokenText f none) (.broken f none)

/-- Tokens of open lists and objects up to where a value is looked for. -/
inductive Around : List Token → List Frame → Prop
  | nil : Around [] []
  | item {ts us : List Token} {frames : List Frame} {items : List Tree} (h : Around ts frames)
      (hitems : BeforeItem us items) :
      Around (ts ++ .openList :: us) (.list items.reverse :: frames)
  | member {ts us : List Token} {frames : List Frame} {members : List (Key × Tree)} {u : Token}
      {key : Key} (h : Around ts frames) (hmembers : BeforeMember us members)
      (hkey : SpellsKey u key) :
      Around (ts ++ .openObject :: (us ++ [u, .colon])) (.object members.reverse key :: frames)

/-- What the tokens so far spell, by the state of the reader. -/
inductive Reaches : List Token → State → Prop
  | value {ts : List Token} {frames : List Frame} (h : Around ts frames) :
      Reaches ts (.value frames)
  | firstItem {ts : List Token} {frames : List Frame} (h : Around ts frames) :
      Reaches (ts ++ [.openList]) (.firstItem frames)
  | firstMember {ts : List Token} {frames : List Frame} (h : Around ts frames) :
      Reaches (ts ++ [.openObject]) (.firstMember frames)
  | member {ts us : List Token} {frames : List Frame} {members : List (Key × Tree)}
      (h : Around ts frames) (hmembers : BeforeMember us members) :
      Reaches (ts ++ .openObject :: us) (.member frames members.reverse)
  | colon {ts us : List Token} {frames : List Frame} {members : List (Key × Tree)} {u : Token}
      {key : Key} (h : Around ts frames) (hmembers : BeforeMember us members)
      (hkey : SpellsKey u key) :
      Reaches (ts ++ .openObject :: (us ++ [u])) (.colon frames members.reverse key)
  | afterItem {ts us : List Token} {frames : List Frame} {items : List Tree}
      (h : Around ts frames) (hitems : SpellsItems us items) :
      Reaches (ts ++ .openList :: us) (.afterItem frames items.reverse)
  | afterMember {ts us : List Token} {frames : List Frame} {members : List (Key × Tree)}
      (h : Around ts frames) (hmembers : SpellsMembers us members) :
      Reaches (ts ++ .openObject :: us) (.afterMember frames members.reverse)
  | done {ts : List Token} {t : Tree} (h : Spells ts t) : Reaches ts (.done t false)
  | trailing (ts : List Token) (t : Tree) : Reaches ts (.done t true)
  | failed (ts : List Token) {t : Tree} (h : ¬ t.Skipped) : Reaches ts (.failed t)

theorem BeforeItem.spells {items : List Tree} (hitems : BeforeItem ts items) (h : Spells us t) :
    SpellsItems (ts ++ us) (items ++ [t]) := by
  cases hitems with
  | first => exact .one h
  | comma hitems =>
    rw [List.append_assoc]
    exact .more hitems h

theorem BeforeMember.spells {members : List (Key × Tree)} {m : Key × Tree}
    (hmembers : BeforeMember ts members) (h : SpellsMember us m) :
    SpellsMembers (ts ++ us) (members ++ [m]) := by
  cases hmembers with
  | first => exact .one h
  | comma hmembers =>
    rw [List.append_assoc]
    exact .more hmembers h

theorem SpellsKey.spells {u : Token} {key : Key} (hkey : SpellsKey u key) (h : Spells ts t) :
    SpellsMember (u :: .colon :: ts) (key, t) := by
  cases hkey with
  | text name => exact .text name h
  | brokenText f => exact .brokenText f h

/-- A text that breaks off cannot be passed over. -/
theorem not_skipped_breakOff (h : ¬ t.Skipped) (frames : List Frame) :
    ¬ (breakOff t frames).Skipped := by
  induction frames generalizing t with
  | nil => exact h
  | cons frame frames ih => cases frame <;> exact ih (by rintro ⟨⟩)

/-- A value that is complete takes its place in the innermost list or object. -/
theorem reaches_complete (h : Around ts frames) (ht : Spells us t) :
    Reaches (ts ++ us) (.complete t frames) := by
  cases h with
  | nil => exact .done ht
  | @item ts vs frames items h hitems =>
    have hrev : t :: items.reverse = (items ++ [t]).reverse := by simp
    rw [List.append_assoc, List.cons_append, State.complete, hrev]
    exact .afterItem h (hitems.spells ht)
  | @member ts vs frames members u key h hmembers hkey =>
    have hrev : (key, t) :: members.reverse = (members ++ [(key, t)]).reverse := by simp
    rw [List.append_assoc, List.cons_append, List.append_assoc, State.complete, hrev]
    exact .afterMember h (hmembers.spells (hkey.spells ht))

theorem reaches_startValue (h : Around ts frames) (u : Token) :
    Reaches (ts ++ [u]) (.startValue frames u) := by
  cases u with
  | null => exact reaches_complete h .null
  | bool b => exact reaches_complete h (.bool b)
  | number n => exact reaches_complete h (.number n)
  | text s => exact reaches_complete h (.text s)
  | openList => exact .firstItem h
  | openObject => exact .firstMember h
  | brokenText f passed =>
    cases passed with
    | none => exact reaches_complete h (.brokenText f)
    | some g => exact .failed _ (not_skipped_breakOff (by rintro ⟨⟩) frames)
  | _ => exact .failed _ (not_skipped_breakOff (by rintro ⟨⟩) frames)

theorem reaches_startMember {members : List (Key × Tree)} (h : Around ts frames)
    (hmembers : BeforeMember us members) (u : Token) :
    Reaches (ts ++ .openObject :: (us ++ [u])) (.startMember frames members.reverse u) := by
  cases u with
  | text name => exact .colon h hmembers (.text name)
  | brokenText f passed =>
    cases passed with
    | none => exact .colon h hmembers (.brokenText f)
    | some g => exact .failed _ (not_skipped_breakOff (by rintro ⟨⟩) frames)
  | _ => exact .failed _ (not_skipped_breakOff (by rintro ⟨⟩) frames)

/-- One token more. -/
theorem Reaches.step {state : State} (h : Reaches ts state) (u : Token) :
    Reaches (ts ++ [u]) (state.step u) := by
  cases h with
  | value h => exact reaches_startValue h u
  | @firstItem ts frames h =>
    have hitem : Around (ts ++ [.openList]) (.list [] :: frames) := .item h .first
    by_cases hu : u = .closeList
    · rw [hu, List.append_assoc]
      exact reaches_complete h .emptyList
    · have hstep : State.step (.firstItem frames) u = .startValue (.list [] :: frames) u := by
        cases u with
        | closeList => exact absurd rfl hu
        | _ => rfl
      rw [hstep]
      exact reaches_startValue hitem u
  | @firstMember ts frames h =>
    by_cases hu : u = .closeObject
    · rw [hu, List.append_assoc]
      exact reaches_complete h .emptyObject
    · have hstep : State.step (.firstMember frames) u = .startMember frames [] u := by
        cases u with
        | closeObject => exact absurd rfl hu
        | _ => rfl
      rw [hstep, List.append_assoc]
      exact reaches_startMember h .first u
  | member h hmembers =>
    rw [List.append_assoc]
    exact reaches_startMember h hmembers u
  | @colon ts us frames members v key h hmembers hkey =>
    by_cases hu : u = .colon
    · rw [hu, List.append_assoc, List.cons_append, List.append_assoc]
      exact .value (.member h hmembers hkey)
    · have hstep : State.step (.colon frames members.reverse key) u =
          .failed (breakOff (.missing .malformed) (.object members.reverse key :: frames)) := by
        cases u with
        | colon => exact absurd rfl hu
        | _ => rfl
      rw [hstep]
      exact .failed _ (not_skipped_breakOff (by rintro ⟨⟩) _)
  | @afterItem ts us frames items h hitems =>
    rw [List.append_assoc, List.cons_append]
    cases u with
    | comma => exact .value (.item h (.comma hitems))
    | closeList =>
      show Reaches _ (.complete (.list items.reverse.reverse .closed) frames)
      rw [List.reverse_reverse]
      exact reaches_complete h (.list hitems)
    | _ => exact .failed _ (not_skipped_breakOff (by rintro ⟨⟩) frames)
  | @afterMember ts us frames members h hmembers =>
    rw [List.append_assoc, List.cons_append]
    cases u with
    | comma => exact .member h (.comma hmembers)
    | closeObject =>
      show Reaches _ (.complete (.object members.reverse.reverse .closed) frames)
      rw [List.reverse_reverse]
      exact reaches_complete h (.object hmembers)
    | _ => exact .failed _ (not_skipped_breakOff (by rintro ⟨⟩) frames)
  | done h => exact .trailing _ _
  | trailing ts t => exact .trailing _ _
  | failed ts h => exact .failed _ h

theorem reaches_foldl {state : State} (h : Reaches ts state) (us : List Token) :
    Reaches (ts ++ us) (us.foldl State.step state) := by
  induction us generalizing ts state with
  | nil => rwa [List.append_nil]
  | cons u us ih =>
    have hus := ih (h.step u)
    rwa [List.append_assoc] at hus

/-- A tree that is in order is made only by tokens that spell it. -/
theorem spells_of_ofTokens (ht : t.Skipped) (h : Document.ofTokens ts = ⟨t, false⟩) :
    Spells ts t := by
  have hreaches : Reaches ts (ts.foldl State.step (.value [])) := reaches_foldl (.value .nil) ts
  rw [Document.ofTokens] at h
  generalize ts.foldl State.step (.value []) = state at h hreaches
  have hbroken : ∀ {t' : Tree} {frames : List Frame}, ¬ t'.Skipped → breakOff t' frames ≠ t := by
    rintro t' frames hnot rfl
    exact not_skipped_breakOff hnot frames ht
  cases hreaches with
  | done hspells =>
    cases h
    exact hspells
  | trailing => cases h
  | failed _ hnot =>
    cases h
    exact absurd ht hnot
  | _ => exact absurd (congrArg Document.tree h) (hbroken (by rintro ⟨⟩))

/-! ### Texts -/

/-- A text and the tree that is written in it. -/
def Writes (s : List (Option Char)) (t : Tree) : Prop := ∃ ts, Lexes s ts ∧ Spells ts t

/-- **A text is read as the tree that is written in it.** -/
theorem Document.ofChars_eq_iff (ht : t.Skipped) :
    Document.ofChars s = ⟨t, false⟩ ↔ Writes s t := by
  constructor
  · intro h
    have hspells : Spells (tokens s) t := spells_of_ofTokens ht h
    exact ⟨tokens s, lexes_tokens hspells.proper, hspells⟩
  · rintro ⟨ts, hlexes, hspells⟩
    rw [Document.ofChars, hlexes.tokens_eq, Document.ofTokens, hspells.foldl_step]
    rfl

end VisitBooking.Json
