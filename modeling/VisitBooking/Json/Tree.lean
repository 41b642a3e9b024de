import VisitBooking.Json.Lexer
import VisitBooking.Json.Value

/-!
# Trees of a text

The tokens of a text make a tree, whether or not the text is in order: where it breaks off, the
tree has a leaf or an ending that says what is wrong there. So a reader goes through the tree from
left to right, and the first thing that is wrong, be it a value of another type or a broken text, is
what it reports.

## Main definitions

* `Tree`, `Ending`, `Key`: a text in order or not.
* `State.step`: one token more, by the open lists and objects.
* `Document.ofTokens`: the tree of a whole text, and whether more follows it.
* `Value.tree`: the tree of a text that is in order.
-/

namespace VisitBooking.Json

/-- How the items of a list or the members of an object end. -/
inductive Ending where
  /-- With the closing bracket. -/
  | closed
  /-- With a fault after the last item or member, or where the first one should stand. -/
  | brokenOff (f : Fault)
  /-- With a fault where a member should stand, be it the first one or one after a comma. -/
  | noMember (f : Fault)
deriving DecidableEq, Repr, Inhabited

/-- The name of a member. -/
inductive Key where
  | text (s : String)
  /-- A text that cannot be read, and the fault in passing over it if it has one. -/
  | broken (read : Fault) (passed : Option Fault)
deriving DecidableEq, Repr, Inhabited

/-- A text, in order or not. -/
inductive Tree where
  | null
  | bool (b : Bool)
  | number (n : Number)
  | text (s : String)
  | list (items : List Tree) (ending : Ending)
  | object (members : List (Key × Tree)) (ending : Ending)
  /-- A text that cannot be read, and the fault in passing over it if it has one. -/
  | brokenText (read : Fault) (passed : Option Fault)
  /-- A word that begins as null and ends otherwise. -/
  | brokenNull (f : Fault)
  /-- Another word or a number that is broken. -/
  | broken (read passed : Fault)
  /-- No value begins here. -/
  | missing (f : Fault)
deriving Repr, Inhabited

/-- A tree and whether anything follows it. -/
structure Document where
  tree : Tree
  trailing : Bool
deriving Repr, Inhabited

/-! ### Open lists and objects -/

/-- A list or an object whose next value is being looked for; what it has so far stands last
first. -/
inductive Frame where
  | list (items : List Tree)
  | object (members : List (Key × Tree)) (key : Key)
deriving Repr, Inhabited

/-- What is looked for next. The frames are the lists and objects around it, the innermost first. -/
inductive State where
  /-- A value. -/
  | value (frames : List Frame)
  /-- The first item of a list, or its end. -/
  | firstItem (frames : List Frame)
  /-- The first member of an object, or its end. -/
  | firstMember (frames : List Frame)
  /-- A member after a comma. -/
  | member (frames : List Frame) (members : List (Key × Tree))
  /-- The colon after the name of a member. -/
  | colon (frames : List Frame) (members : List (Key × Tree)) (key : Key)
  /-- A comma or the end of a list. -/
  | afterItem (frames : List Frame) (items : List Tree)
  /-- A comma or the end of an object. -/
  | afterMember (frames : List Frame) (members : List (Key × Tree))
  /-- Nothing. -/
  | done (tree : Tree) (trailing : Bool)
  /-- Nothing, since the text has broken off. -/
  | failed (tree : Tree)
deriving Repr, Inhabited

/-- A value is complete. -/
def State.complete (t : Tree) : List Frame → State
  | [] => .done t false
  | .list items :: frames => .afterItem frames (t :: items)
  | .object members key :: frames => .afterMember frames ((key, t) :: members)

/-- The text breaks off inside `t`: the lists and objects around it end there too. -/
def breakOff (t : Tree) : List Frame → Tree
  | [] => t
  | .list items :: frames => breakOff (.list (items.reverse ++ [t]) (.brokenOff .malformed)) frames
  | .object members key :: frames =>
    breakOff (.object (members.reverse ++ [(key, t)]) (.brokenOff .malformed)) frames

/-- A value begins with the token. -/
def State.startValue (frames : List Frame) : Token → State
  | .null => .complete .null frames
  | .bool b => .complete (.bool b) frames
  | .number n => .complete (.number n) frames
  | .text s => .complete (.text s) frames
  | .openList => .firstItem frames
  | .openObject => .firstMember frames
  | .brokenText f none => .complete (.brokenText f none) frames
  | .brokenText f (some g) => .failed (breakOff (.brokenText f (some g)) frames)
  | .brokenNull f => .failed (breakOff (.brokenNull f) frames)
  | .broken f g => .failed (breakOff (.broken f g) frames)
  | .closeObject | .closeList | .colon | .comma | .stray =>
    .failed (breakOff (.missing .malformed) frames)

/-- A member begins with the token. -/
def State.startMember (frames : List Frame) (members : List (Key × Tree)) : Token → State
  | .text s => .colon frames members (.text s)
  | .brokenText f none => .colon frames members (.broken f none)
  | .brokenText f (some g) =>
    let member := (Key.broken f (some g), Tree.missing g)
    .failed (breakOff (.object (member :: members).reverse (.brokenOff g)) frames)
  | _ => .failed (breakOff (.object members.reverse (.noMember .malformed)) frames)

/-- Take one token more. -/
def State.step : State → Token → State
  | .value frames, t => .startValue frames t
  | .firstItem frames, .closeList => .complete (.list [] .closed) frames
  | .firstItem frames, t => .startValue (.list [] :: frames) t
  | .firstMember frames, .closeObject => .complete (.object [] .closed) frames
  | .firstMember frames, t => .startMember frames [] t
  | .member frames members, t => .startMember frames members t
  | .colon frames members key, .colon => .value (.object members key :: frames)
  | .colon frames members key, _ =>
    .failed (breakOff (.missing .malformed) (.object members key :: frames))
  | .afterItem frames items, .comma => .value (.list items :: frames)
  | .afterItem frames items, .closeList => .complete (.list items.reverse .closed) frames
  | .afterItem frames items, _ =>
    .failed (breakOff (.list items.reverse (.brokenOff .malformed)) frames)
  | .afterMember frames members, .comma => .member frames members
  | .afterMember frames members, .closeObject =>
    .complete (.object members.reverse .closed) frames
  | .afterMember frames members, _ =>
    .failed (breakOff (.object members.reverse (.brokenOff .malformed)) frames)
  | .done t _, _ => .done t true
  | .failed t, _ => .failed t

/-- The text ends. -/
def State.finish : State → Document
  | .value frames => ⟨breakOff (.missing .truncated) frames, false⟩
  | .firstItem frames => ⟨breakOff (.list [] (.brokenOff .truncated)) frames, false⟩
  | .firstMember frames => ⟨breakOff (.object [] (.noMember .truncated)) frames, false⟩
  | .member frames members =>
    ⟨breakOff (.object members.reverse (.noMember .truncated)) frames, false⟩
  | .colon frames members key =>
    ⟨breakOff (.missing .truncated) (.object members key :: frames), false⟩
  | .afterItem frames items =>
    ⟨breakOff (.list items.reverse (.brokenOff .truncated)) frames, false⟩
  | .afterMember frames members =>
    ⟨breakOff (.object members.reverse (.brokenOff .truncated)) frames, false⟩
  | .done t trailing => ⟨t, trailing⟩
  | .failed t => ⟨t, false⟩

/-- The document that tokens make. -/
def Document.ofTokens (ts : List Token) : Document := (ts.foldl State.step (.value [])).finish

/-- The document of a text; `none` stands for a byte that belongs to no character. -/
def Document.ofChars (s : List (Option Char)) : Document := .ofTokens (tokens s)

/-- The document of a text. -/
def Document.ofText (s : String) : Document := .ofChars (s.toList.map some)

/-! ### Trees and values -/

mutual

/-- The tree of a value. -/
def Value.tree : Value → Tree
  | .null => .null
  | .bool b => .bool b
  | .number n => .number n
  | .text s => .text s
  | .list items => .list (Value.trees items) .closed
  | .object members => .object (Value.memberTrees members) .closed

/-- The trees of the items of a list. -/
def Value.trees : List Value → List Tree
  | [] => []
  | v :: vs => v.tree :: Value.trees vs

/-- The trees of the members of an object. -/
def Value.memberTrees : List (String × Value) → List (Key × Tree)
  | [] => []
  | (k, v) :: ms => (.text k, v.tree) :: Value.memberTrees ms

end

/-- The members with one more; it takes the place of an earlier one of the same name. -/
def setMember (name : String) (v : Value) : List (String × Value) → List (String × Value)
  | [] => [(name, v)]
  | m :: ms => if m.1 = name then (name, v) :: ms else m :: setMember name v ms

mutual

/-- The value of a tree, if it is in order. Of members with one name the last one counts. -/
def Tree.value? : Tree → Option Value
  | .null => some .null
  | .bool b => some (.bool b)
  | .number n => if n.isFinite then some (.number n) else none
  | .text s => some (.text s)
  | .list items .closed => (Tree.values? items).map .list
  | .object members .closed => (Tree.memberValues? [] members).map .object
  | _ => none

/-- The values of the items of a list. -/
def Tree.values? : List Tree → Option (List Value)
  | [] => some []
  | t :: ts => do
    let v ← t.value?
    let vs ← Tree.values? ts
    return v :: vs

/-- The values of the members of an object, after those read before. -/
def Tree.memberValues? (before : List (String × Value)) :
    List (Key × Tree) → Option (List (String × Value))
  | [] => some before
  | (.text k, t) :: ms => do
    let v ← t.value?
    Tree.memberValues? (setMember k v before) ms
  | (.broken _ _, _) :: _ => none

end

/-- Read a value. -/
def Value.ofText? (s : String) : Option Value :=
  let d := Document.ofText s
  if d.trailing then none else d.tree.value?

end VisitBooking.Json
