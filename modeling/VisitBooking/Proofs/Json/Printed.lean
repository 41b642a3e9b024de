import VisitBooking.Json.Decode
import VisitBooking.Proofs.Json.Grammar
import VisitBooking.Proofs.Json.Lexing

/-!
# Written values are read back

A value that is written is cut into its own tokens, and these make its own tree. So a whole text
that is written is read as the value it was written from, by any reader.

The two halves are inductions on the value, through its lists of items and of members. In the first,
what follows a value must be able to end it; in the second, the tokens of a value are shown to spell
its tree.

## Main definitions

* `written`: tokens as the input of the reader.
* `Cuts`: tokens that are written are cut again before what follows.

## Main results

* `cuts_value`: so are the tokens of a value.
* `spells_value`: the tokens of a value spell its tree.
* `Document.ofText_print`, `Decoder.run_print`: a written value is read back.
-/

namespace VisitBooking.Json

/-! ### Cutting -/

/-- Tokens as they are written. -/
def written (ts : List Token) : List (Option Char) := (ts.flatMap Token.chars).map some

theorem written_append (ts us : List Token) : written (ts ++ us) = written ts ++ written us := by
  rw [written, List.flatMap_append, List.map_append]
  rfl

theorem written_singleton (t : Token) : written [t] = t.chars.map some := by
  rw [written, List.flatMap_cons, List.flatMap_nil, List.append_nil]

/-- The tokens are cut again once they are written before `s`. -/
def Cuts (ts : List Token) (s : List (Option Char)) : Prop :=
  tokens (written ts ++ s) = ts ++ tokens s

variable {s : List (Option Char)} {ts us : List Token}

theorem Cuts.append (h : Cuts ts (written us ++ s)) (h' : Cuts us s) : Cuts (ts ++ us) s := by
  unfold Cuts at h h' ⊢
  rw [written_append, List.append_assoc, h, h', List.append_assoc]

theorem cuts_singleton {t : Token} (h : tokens (t.chars.map some ++ s) = t :: tokens s) :
    Cuts [t] s := by
  rw [Cuts, written_singleton, h, List.singleton_append]

theorem cuts_punctuation {c : Char} {t : Token} (h : Token.ofPunctuation? c = some t)
    (hchars : t.chars = [c]) : Cuts [t] s := by
  refine cuts_singleton ?_
  rw [hchars]
  exact tokens_punctuation h

theorem endsValue_comma : EndsValue (written (.comma :: ts) ++ s) := Or.inl rfl

theorem endsValue_closeList : EndsValue (written (.closeList :: ts) ++ s) := Or.inr (.inl rfl)

theorem endsValue_closeObject : EndsValue (written (.closeObject :: ts) ++ s) := Or.inr (.inr rfl)

theorem cuts_comma : Cuts [.comma] s := cuts_punctuation rfl rfl

/-- The name of a member is cut again with the colon after it. -/
theorem cuts_name (k : String) : Cuts [.text k, .colon] s :=
  (cuts_singleton (tokens_text k) : Cuts [.text k] _).append (cuts_punctuation rfl rfl)

mutual

/-- The tokens of a value are cut again if what follows can end the value. -/
theorem cuts_value : ∀ (v : Value) {s : List (Option Char)}, EndsValue s → Cuts v.tokens s
  | .null, _, _ => cuts_singleton tokens_null
  | .bool b, _, _ => cuts_singleton (tokens_bool b)
  | .number n, _, hs => cuts_singleton (tokens_number n hs)
  | .text t, _, _ => cuts_singleton (tokens_text t)
  | .list items, _, _ =>
    (cuts_punctuation rfl rfl : Cuts [.openList] _).append (cuts_items items)
  | .object members, _, _ =>
    (cuts_punctuation rfl rfl : Cuts [.openObject] _).append (cuts_members members)

theorem cuts_items : ∀ (items : List Value) {s : List (Option Char)},
    Cuts (Value.itemTokens items ++ [.closeList]) s
  | [], _ => cuts_punctuation rfl rfl
  | [v], _ => (cuts_value v endsValue_closeList).append (cuts_punctuation rfl rfl)
  | v :: w :: items, _ => by
    rw [Value.itemTokens, List.append_assoc]
    exact (cuts_value v endsValue_comma).append (cuts_comma.append (cuts_items (w :: items)))

theorem cuts_members : ∀ (members : List (String × Value)) {s : List (Option Char)},
    Cuts (Value.memberTokens members ++ [.closeObject]) s
  | [], _ => cuts_punctuation rfl rfl
  | [(k, v)], _ => by
    rw [Value.memberTokens]
    exact (cuts_name k).append
      ((cuts_value v endsValue_closeObject).append (cuts_punctuation rfl rfl))
  | (k, v) :: m :: members, _ => by
    rw [Value.memberTokens, List.cons_append, List.cons_append, List.append_assoc]
    exact (cuts_name k).append
      ((cuts_value v endsValue_comma).append (cuts_comma.append (cuts_members (m :: members))))

end

theorem tokens_print (v : Value) : tokens (v.print.toList.map some) = v.tokens := by
  have hcuts : tokens (written v.tokens ++ []) = v.tokens ++ tokens [] := cuts_value v trivial
  rw [List.append_nil, tokens, List.append_nil] at hcuts
  rw [Value.print, String.toList_ofList]
  exact hcuts

/-! ### Trees -/

mutual

/-- Items are spelled one after the other. -/
theorem SpellsItems.append {items : List Tree} (h : SpellsItems ts items) :
    ∀ {us : List Token} {more : List Tree}, SpellsItems us more →
      SpellsItems (ts ++ .comma :: us) (items ++ more)
  | _, _, .one hitem => .more h hitem
  | _, _, .more hmore hitem => by
    have happend := SpellsItems.more (h.append hmore) hitem
    rwa [List.append_assoc, List.cons_append, List.append_assoc] at happend

theorem SpellsMembers.append {members : List (Key × Tree)} (h : SpellsMembers ts members) :
    ∀ {us : List Token} {more : List (Key × Tree)}, SpellsMembers us more →
      SpellsMembers (ts ++ .comma :: us) (members ++ more)
  | _, _, .one hmember => .more h hmember
  | _, _, .more hmore hmember => by
    have happend := SpellsMembers.more (h.append hmore) hmember
    rwa [List.append_assoc, List.cons_append, List.append_assoc] at happend

end

mutual

/-- The tokens of a value spell its tree. -/
theorem spells_value : ∀ v : Value, Spells v.tokens v.tree
  | .null => .null
  | .bool b => .bool b
  | .number n => .number n
  | .text s => .text s
  | .list [] => .emptyList
  | .list (v :: items) => .list (spells_items (v :: items) (List.cons_ne_nil v items))
  | .object [] => .emptyObject
  | .object (m :: members) => .object (spells_members (m :: members) (List.cons_ne_nil m members))

theorem spells_items : ∀ items : List Value, items ≠ [] →
    SpellsItems (Value.itemTokens items) (Value.trees items)
  | [], h => absurd rfl h
  | [v], _ => .one (spells_value v)
  | v :: w :: items, _ =>
    (SpellsItems.one (spells_value v)).append
      (spells_items (w :: items) (List.cons_ne_nil w items))

theorem spells_members : ∀ members : List (String × Value), members ≠ [] →
    SpellsMembers (Value.memberTokens members) (Value.memberTrees members)
  | [], h => absurd rfl h
  | [(k, v)], _ => .one (.text k (spells_value v))
  | (k, v) :: m :: members, _ =>
    (SpellsMembers.one (.text k (spells_value v))).append
      (spells_members (m :: members) (List.cons_ne_nil m members))

end

/-! ### Whole texts -/

/-- A value that is written makes its tree, with nothing after it. -/
theorem Document.ofText_print (v : Value) : Document.ofText v.print = ⟨v.tree, false⟩ := by
  rw [Document.ofText, Document.ofChars, tokens_print, Document.ofTokens,
    (spells_value v).foldl_step]
  rfl

/-- A reader finds in the text of a value what it finds in the value. -/
theorem Decoder.run_print {α : Type} (d : Decoder α) (v : Value) :
    d.run (.ofText v.print) = d.ofValue v := by
  rw [Document.ofText_print]
  show (d v.tree >>= fun a => .ok a) = d v.tree
  cases d v.tree <;> rfl

end VisitBooking.Json
