import VisitBooking.Json.Tree

/-!
# Reading types from trees

A decoder goes through a tree from left to right and answers with what it reads or with the first
fault that it meets.

A record is read from an object or from the list of its fields in order. In an object, members that
are no fields are passed over whatever their values are, a field that comes twice is a mismatch, and
so is one that is missing and has no default. A list may be shorter by fields at its end that may
be left out of a list, and not longer.

## Main definitions

* `Decoder`, `decodeText`, `decodeInt64`, `decodeOption`, `decodeList`, `decodeEnum`.
* `Record`: the fields of a record, put together from `Record.required`, `Record.optional` and
  `Record.defaulted`.
* `Decoder.run`: read a whole text.
-/

namespace VisitBooking.Json

/-- A reader of trees. -/
abbrev Decoder (α : Type) := Tree → Except Fault α

/-! ### Faults of trees -/

/-- The fault of a tree where a value of another type is looked for. -/
def Tree.otherwise : Tree → Fault
  | .number n => if n.isFinite then .mismatch else .malformed
  | .brokenText f _ => f
  | .brokenNull f => f
  | .broken f _ => f
  | .missing f => f
  | .null | .bool _ | .text _ | .list _ _ | .object _ _ => .mismatch

/-- The fault of an ending. -/
def Ending.check : Ending → Except Fault Unit
  | .closed => .ok ()
  | .brokenOff f => .error f
  | .noMember f => .error f

/-- Nothing, or the fault. -/
def checkNone : Option Fault → Except Fault Unit
  | none => .ok ()
  | some f => .error f

/-- The fault in passing over a name. -/
def Key.pass : Key → Except Fault Unit
  | .text _ => .ok ()
  | .broken _ passed => checkNone passed

mutual

/-- Pass over a tree: it has to be in order, apart from what only a reader of texts and numbers
would see. -/
def Tree.pass : Decoder Unit
  | .null | .bool _ | .number _ | .text _ => .ok ()
  | .list items ending => do Tree.passItems items; ending.check
  | .object members ending => do Tree.passMembers members; ending.check
  | .brokenText _ passed => checkNone passed
  | .brokenNull f => .error f
  | .broken _ f => .error f
  | .missing f => .error f

/-- Pass over the items of a list. -/
def Tree.passItems : List Tree → Except Fault Unit
  | [] => .ok ()
  | t :: ts => do t.pass; Tree.passItems ts

/-- Pass over the members of an object. -/
def Tree.passMembers : List (Key × Tree) → Except Fault Unit
  | [] => .ok ()
  | (k, t) :: ms => do k.pass; t.pass; Tree.passMembers ms

end

/-! ### Simple types -/

/-- Read a text. -/
def decodeText : Decoder String
  | .text s => .ok s
  | t => .error t.otherwise

/-- Read a truth value. -/
def decodeBool : Decoder Bool
  | .bool b => .ok b
  | t => .error t.otherwise

/-- Read a number that `read?` accepts. -/
def decodeNumber {α : Type} (read? : Number → Option α) : Decoder α
  | .number n => match read? n with
    | some a => .ok a
    | none => .error (Tree.number n).otherwise
  | t => .error t.otherwise

/-- Read an integer of 64 bits with a sign. -/
def decodeInt64 : Decoder Int64 := decodeNumber Number.int64?

/-- Read a text that `read?` accepts. -/
def decodeParsed {α : Type} (read? : String → Option α) : Decoder α := fun t => do
  match read? (← decodeText t) with
  | some a => .ok a
  | none => .error .mismatch

/-- Read null as none, and anything else with `d`. -/
def decodeOption {α : Type} (d : Decoder α) : Decoder (Option α)
  | .null => .ok none
  | .brokenNull f => .error f
  | t => (d t).map some

/-- Read null. -/
def decodeNull : Decoder Unit
  | .null => .ok ()
  | t => .error t.otherwise

/-- Read the items of a list. -/
def decodeItems {α : Type} (d : Decoder α) : List Tree → Except Fault (List α)
  | [] => .ok []
  | t :: ts => do
    let a ← d t
    let as ← decodeItems d ts
    return a :: as

/-- Read a list. -/
def decodeList {α : Type} (d : Decoder α) : Decoder (List α)
  | .list items ending => do
    let as ← decodeItems d items
    ending.check
    return as
  | t => .error t.otherwise

/-- The name that `named?` accepts. -/
def decodeName {α : Type} (named? : String → Option α) (s : String) : Except Fault α :=
  match named? s with
  | some a => .ok a
  | none => .error .mismatch

/-- Read a value that has a name: its name as a text, or an object whose only member has that name
and is null. -/
def decodeEnum {α : Type} (named? : String → Option α) : Decoder α
  | .text s => decodeName named? s
  | .brokenText f _ => .error f
  | .missing f => .error f
  | .object ((.broken f _, _) :: _) _ => .error f
  | .object ((.text s, t) :: ms) ending => do
    let a ← decodeName named? s
    decodeNull t
    match ms, ending with
    | [], .closed => .ok a
    | [], .brokenOff f => .error f
    | _, _ => .error .malformed
  | .object [] ending => do
    ending.check
    .error .malformed
  | _ => .error .malformed

/-! ### Records -/

/-- How a record is read: its fields by name with a check of each, and the record from the fields
of an object or from the items of a list. -/
structure Record (α : Type) where
  /-- The names of the fields, each with what has to hold of its value. -/
  fields : List (String × Decoder Unit)
  /-- Read the record from the value that each field has, if it has one. -/
  ofMembers : (String → Option Tree) → Except Fault α
  /-- Read the record from the front of a list with the given ending. -/
  ofItems : Ending → List Tree → Except Fault (α × List Tree)

namespace Record

variable {α β : Type}

/-- A record with one field. `absent` stands for it where an object lacks it, `short` where a list
ends before it. -/
def field (name : String) (d : Decoder α) (absent short : Option α) : Record α where
  fields := [(name, fun t => (d t).map fun _ => ())]
  ofMembers value := match value name, absent with
    | some t, _ => d t
    | none, some a => .ok a
    | none, none => .error .mismatch
  ofItems ending
    | t :: ts => (d t).map fun a => (a, ts)
    | [] => do
      ending.check
      match short with
      | some a => .ok (a, [])
      | none => .error .mismatch

/-- A field that has to be there. -/
def required (name : String) (d : Decoder α) : Record α := field name d none none

/-- A field that may be null, or missing in an object. -/
def optional (name : String) (d : Decoder α) : Record (Option α) :=
  field name (decodeOption d) (some none) none

/-- A field that may be missing. -/
def defaulted (name : String) (d : Decoder α) (value : α) : Record α :=
  field name d (some value) (some value)

/-- The record with the result of `f`. -/
def map (f : α → β) (r : Record α) : Record β where
  fields := r.fields
  ofMembers value := (r.ofMembers value).map f
  ofItems ending items := (r.ofItems ending items).map fun p => (f p.1, p.2)

/-- The fields of two records, the first ones first. -/
def and (r : Record (α → β)) (s : Record α) : Record β where
  fields := r.fields ++ s.fields
  ofMembers value := do
    let f ← r.ofMembers value
    let a ← s.ofMembers value
    return f a
  ofItems ending items := do
    let (f, items) ← r.ofItems ending items
    let (a, items) ← s.ofItems ending items
    return (f a, items)

/-- The value of a member by its name. -/
def memberNamed (members : List (Key × Tree)) (name : String) : Option Tree :=
  members.lookup (.text name)

/-- Check the members of an object one after the other; `seen` are the names of fields that came
before. -/
def checkMembers (fields : List (String × Decoder Unit)) :
    List String → List (Key × Tree) → Except Fault Unit
  | _, [] => .ok ()
  | _, (.broken f _, _) :: _ => .error f
  | seen, (.text name, t) :: ms =>
    match fields.lookup name with
    | none => do
      t.pass
      checkMembers fields seen ms
    | some check =>
      if name ∈ seen then .error .mismatch
      else do
        check t
        checkMembers fields (name :: seen) ms

/-- Read a record. -/
def decode (r : Record α) : Decoder α
  | .object members ending => do
    checkMembers r.fields [] members
    ending.check
    r.ofMembers (memberNamed members)
  | .list items ending => do
    let (a, rest) ← r.ofItems ending items
    if !rest.isEmpty then .error .malformed
    else do
      ending.check
      return a
  | t => .error t.otherwise

end Record

/-! ### Whole texts -/

/-- Read a whole text. -/
def Decoder.run {α : Type} (d : Decoder α) (doc : Document) : Except Fault α := do
  let a ← d doc.tree
  if doc.trailing then .error .malformed else .ok a

/-- Read a value. -/
def Decoder.ofValue {α : Type} (d : Decoder α) (v : Value) : Except Fault α := d v.tree

end VisitBooking.Json
