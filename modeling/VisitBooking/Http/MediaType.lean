/-!
# Media types

A media type is a type and a subtype with a slash between them, both made of token characters, and
parameters, each after a semicolon. The value of a parameter is made of token characters or stands
between quotes. The subtype may end in a plus sign and a suffix.

## Main definitions

* `isJsonType`: the text is the media type of JSON.
-/

namespace VisitBooking.Http

/-- A character of which names in a media type are made. -/
def isTokenChar (c : Char) : Bool :=
  c.isAlphanum ||
    ['!', '#', '$', '%', '&', '\'', '*', '+', '-', '.', '^', '_', '\x60', '|', '~'].contains c

/-- A character that may stand between quotes. -/
def isQuotedChar (c : Char) : Bool := 0x20 ≤ c.toNat && c.toNat ≤ 0x7E

/-- Where in the parameters a reader is. -/
inductive ParameterState where
  /-- Before a name; blanks may stand here. -/
  | before
  /-- In a name. -/
  | name
  /-- After the equals sign. -/
  | equals
  /-- In a value. -/
  | value
  /-- After the opening quote. -/
  | quote
  /-- Between quotes. -/
  | quoted
  /-- After the closing quote; blanks may stand here. -/
  | closed
deriving DecidableEq, Repr

/-- Take one character more, unless it cannot stand there. What follows the opening quote belongs
to the value even if it is a quote. -/
def ParameterState.step? (c : Char) : ParameterState → Option ParameterState
  | .before => if c = ' ' then some .before else if isTokenChar c then some .name else none
  | .name => if c = '=' then some .equals else if isTokenChar c then some .name else none
  | .equals => if c = '"' then some .quote else if isTokenChar c then some .value else none
  | .value => if c = ';' then some .before else if isTokenChar c then some .value else none
  | .quote => if isQuotedChar c then some .quoted else none
  | .quoted => if c = '"' then some .closed else if isQuotedChar c then some .quoted else none
  | .closed => if c = ';' then some .before else if c = ' ' then some .closed else none

/-- Parameters may end here. -/
def ParameterState.isEnd : ParameterState → Bool
  | .before | .equals | .value | .closed => true
  | .name | .quote | .quoted => false

/-- The text is a list of parameters. -/
def areParameters (s : List Char) : Bool :=
  match s.foldlM (fun state c => ParameterState.step? c state) .before with
  | some state => state.isEnd
  | none => false

/-- The name without its suffix, and the suffix after the last plus sign if there is one that is not
at the beginning. -/
def splitSuffix (subtype : List Char) : List Char × Option (List Char) :=
  let suffix := (subtype.reverse.takeWhile (· ≠ '+')).reverse
  let name := subtype.take (subtype.length - suffix.length - 1)
  if suffix.length < subtype.length ∧ name ≠ [] then (name, some suffix) else (subtype, none)

/-- The text is the media type of JSON: its subtype or its suffix is `json`. -/
def isJsonType (s : String) : Bool :=
  let lower := s.toList.map Char.toLower
  let (type, rest) := lower.span isTokenChar
  match rest with
  | '/' :: rest =>
    let (subtype, rest) := rest.span isTokenChar
    let (name, suffix) := splitSuffix subtype
    type = "application".toList && (name = "json".toList || suffix = some "json".toList) &&
      match rest with
      | [] => true
      | ';' :: parameters => areParameters parameters
      | _ => false
  | _ => false

end VisitBooking.Http
