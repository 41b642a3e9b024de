import VisitBooking.Text.Quoted

/-!
# Settings of a reference codec

The symbols of a booking reference, its least length, and how its symbols are grouped. Settings
are plain data as read from a configuration; only the ones without a `ConfigFault` make a codec.

## Main definitions

* `Config`: the settings, with the built-in ones as defaults.
* `ConfigFault`: what can be wrong with them, and `ConfigFault.message`.
* `InvalidToken`: a text that no identity is written as.
-/

namespace VisitBooking.Reference

/-- Settings of a reference codec. The built-in alphabet leaves out the symbols that are easily
taken for one another. -/
structure Config where
  /-- The symbols, the first one counting as zero. -/
  alphabet : String := "23456789abcdefghjkmnpqrstuvwxyz"
  /-- The least number of symbols. -/
  minLength : Nat := 8
  /-- The number of symbols in a group; every reference fills its groups. -/
  chunkSize : Nat := 2
  /-- What stands between two groups: nothing or one character. -/
  delimiter : String := "-"
deriving DecidableEq, Repr, Inhabited

/-- Why settings make no codec. -/
inductive ConfigFault where
  /-- The least length is zero. -/
  | minLengthZero
  /-- The group size is zero. -/
  | chunkSizeZero
  /-- The delimiter is a letter or a digit. -/
  | delimiterAlphanumeric (delimiter : String)
  /-- The delimiter has more than one character. -/
  | delimiterLong (delimiter : String)
  /-- The alphabet has fewer than two symbols. -/
  | alphabetShort
  /-- A symbol stands in the alphabet twice. -/
  | symbolRepeated (symbol : Char)
  /-- The delimiter is one of the symbols. -/
  | symbolIsDelimiter (symbol : Char)
deriving DecidableEq, Repr

/-- What is wrong, in words. -/
def ConfigFault.reason : ConfigFault → String
  | .minLengthZero => "minimum length must be greater than zero"
  | .chunkSizeZero => "chunk size must be greater than zero"
  | .delimiterAlphanumeric d => "delimiter " ++ Text.quote d ++ " must not be alphanumeric"
  | .delimiterLong d => "delimiter " ++ Text.quote d ++ " must be a single character"
  | .alphabetShort => "alphabet needs at least two symbols"
  | .symbolRepeated c => "alphabet contains " ++ Text.quoteChar c ++ " more than once"
  | .symbolIsDelimiter c => "alphabet contains the delimiter " ++ Text.quoteChar c

/-- The fault as a sentence of its own. -/
def ConfigFault.message (f : ConfigFault) : String :=
  "invalid reference codec configuration: " ++ f.reason

/-- A text that is the reference of no identity. -/
structure InvalidToken where
  /-- The text, unchanged. -/
  token : String
deriving DecidableEq, Repr

/-- The refusal of a token, in words. -/
def InvalidToken.message (e : InvalidToken) : String :=
  "invalid reference token: " ++ Text.quote e.token

end VisitBooking.Reference
