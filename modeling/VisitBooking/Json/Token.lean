import VisitBooking.Json.Number

/-!
# Tokens

A text is first cut into tokens. What is no proper token is one too, so that nothing is refused
before a reader gets there: a reader that looks for a value of some type and a reader that passes
over a value may take different offence at the same token, or one of them none.

## Main definitions

* `Fault`: what may be wrong with a text.
* `Token`: punctuation, the simple values, and the ways in which they can be broken.
-/

namespace VisitBooking.Json

/-- Why a text is not read. -/
inductive Fault where
  /-- It does not keep to the grammar. -/
  | malformed
  /-- It ends too early. -/
  | truncated
  /-- It is a value, and not of the type that is looked for. -/
  | mismatch
deriving DecidableEq, Repr, Inhabited

/-- A piece of a text that has a meaning of its own. -/
inductive Token where
  | openObject
  | closeObject
  | openList
  | closeList
  | colon
  | comma
  | null
  | bool (b : Bool)
  | number (n : Number)
  | text (s : String)
  /-- A quoted text that cannot be read, and the fault in passing over it if it has one. -/
  | brokenText (read : Fault) (passed : Option Fault)
  /-- A word that begins as null and ends otherwise. -/
  | brokenNull (f : Fault)
  /-- Another word or a number that is broken: the fault in reading and in passing over it. -/
  | broken (read passed : Fault)
  /-- A character with which no token begins. -/
  | stray
deriving DecidableEq, Repr, Inhabited

end VisitBooking.Json
