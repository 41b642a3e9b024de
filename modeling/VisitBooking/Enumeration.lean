import VisitBooking.Json.Decode

/-!
# Enumerations

A closed list of values, each with a name of its own. The names are what requests, answers and
columns hold.

## Main definitions

* `Enumeration`: the values and their names.
* `Enumeration.named?`: the value with a name.
-/

namespace VisitBooking

/-- A type of finitely many values, each of which has a name. -/
class Enumeration (α : Type) where
  /-- All values. -/
  members : List α
  /-- The name of a value. -/
  name : α → String
  mem_members : ∀ a, a ∈ members
  names_nodup : (members.map name).Nodup

namespace Enumeration

variable {α : Type} [Enumeration α]

/-- The value with the given name. -/
def named? (s : String) : Option α := (members (α := α)).find? fun a => name a == s

theorem name_of_named? {s : String} {a : α} (h : named? s = some a) : name a = s := by
  simpa using List.find?_some h

theorem find?_name {as : List α} (nodup : (as.map name).Nodup) {a : α} (mem : a ∈ as) :
    as.find? (fun b => name b == name a) = some a := by
  induction as with
  | nil => simp at mem
  | cons b bs ih =>
    rw [List.map_cons, List.nodup_cons] at nodup
    rcases List.mem_cons.1 mem with rfl | hb
    · simp
    · have : name b ≠ name a := fun h => nodup.1 (h ▸ List.mem_map_of_mem hb)
      rw [List.find?_cons_of_neg (by simpa using this)]
      exact ih nodup.2 hb

@[simp] theorem named?_name (a : α) : named? (name a) = some a :=
  find?_name names_nodup (mem_members a)

/-- A value as its name. -/
def toJson (a : α) : Json.Value := .text (name a)

/-- Read a value by its name. -/
def decode : Json.Decoder α := Json.decodeEnum named?

end Enumeration

end VisitBooking
