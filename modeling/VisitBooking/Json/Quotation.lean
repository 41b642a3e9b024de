import VisitBooking.Json.Token

/-!
# Quoted texts

What stands between two quotes is cut into pieces: characters, bytes that are no character, and
16-bit units written as four hexadecimal digits. A reader joins surrogate units to characters and
refuses lone ones and stray bytes; whoever only passes over the text does not look at them.

The input is a list of characters in which `none` stands for a byte that belongs to no character.

## Main definitions

* `Piece`, `scanQuotation`: the pieces up to the closing quote.
* `readPieces`: the text that pieces denote.
* `escaped`: a text as it is written between quotes.
-/

namespace VisitBooking.Json

/-! ### Cutting -/

/-- A piece of a quoted text. -/
inductive Piece where
  /-- A character, plain or after a backslash. -/
  | char (c : Char)
  /-- A byte that belongs to no character. -/
  | byte
  /-- A 16-bit unit. -/
  | unit (n : Nat)
deriving DecidableEq, Repr, Inhabited

/-- The pieces of a quoted text, the fault at their end if the text is not closed, and what follows
the closing quote. -/
structure Scan where
  pieces : List Piece
  fault : Option Fault
  rest : List (Option Char)

/-- The scan with a piece in front. -/
def Scan.push (p : Piece) (s : Scan) : Scan := { s with pieces := p :: s.pieces }

/-- A scan that ends in a fault. -/
def Scan.stop (f : Fault) : Scan := ⟨[], some f, []⟩

/-- The value of a hexadecimal digit. -/
def hexValue? : Option Char → Option Nat
  | none => none
  | some c =>
    if '0' ≤ c ∧ c ≤ '9' then some (c.toNat - '0'.toNat)
    else if 'a' ≤ c ∧ c ≤ 'f' then some (c.toNat - 'a'.toNat + 10)
    else if 'A' ≤ c ∧ c ≤ 'F' then some (c.toNat - 'A'.toNat + 10)
    else none

/-- The value of four hexadecimal digits. -/
def hexUnit? (a b c d : Option Char) : Option Nat := do
  let high := (← hexValue? a) * 16 + (← hexValue? b)
  let low := (← hexValue? c) * 16 + (← hexValue? d)
  return high * 256 + low

/-- The number of bytes of a text. -/
def byteCount : List (Option Char) → Nat
  | [] => 0
  | none :: s => 1 + byteCount s
  | some c :: s => c.utf8Size + byteCount s

/-- The fault of a unit that lacks its four digits: fewer than four bytes are the end of the
text. -/
def unitFault (s : List (Option Char)) : Fault :=
  if byteCount (s.take 4) < 4 then .truncated else .malformed

/-- The character that a letter after a backslash denotes. -/
def shortEscape? (c : Char) : Option Char :=
  match c with
  | '"' => some '"'
  | '\\' => some '\\'
  | '/' => some '/'
  | 'b' => some '\x08'
  | 'f' => some '\x0c'
  | 'n' => some '\n'
  | 'r' => some '\r'
  | 't' => some '\t'
  | _ => none

/-- Cut a text after its opening quote. -/
def scanQuotation : List (Option Char) → Scan
  | [] => .stop .truncated
  | some '"' :: s => ⟨[], none, s⟩
  | some '\\' :: some 'u' :: a :: b :: c :: d :: s =>
    match hexUnit? a b c d with
    | some n => (scanQuotation s).push (.unit n)
    | none => .stop (unitFault [a, b, c, d])
  | some '\\' :: some 'u' :: s => .stop (unitFault s)
  | some '\\' :: some e :: s =>
    match shortEscape? e with
    | some c => (scanQuotation s).push (.char c)
    | none => .stop .malformed
  | some '\\' :: none :: _ => .stop .malformed
  | [some '\\'] => .stop .truncated
  | some c :: s => if c.toNat < 0x20 then .stop .malformed else (scanQuotation s).push (.char c)
  | none :: s => (scanQuotation s).push .byte

theorem length_rest_scanQuotation (s : List (Option Char)) :
    (scanQuotation s).rest.length ≤ s.length := by
  fun_induction scanQuotation s <;> simp_all [Scan.stop, Scan.push] <;> omega

/-! ### Reading -/

/-- The unit is the first half of a character. -/
def isLeadingSurrogate (n : Nat) : Bool := 0xD800 ≤ n && n ≤ 0xDBFF

/-- The unit is the second half of a character. -/
def isTrailingSurrogate (n : Nat) : Bool := 0xDC00 ≤ n && n ≤ 0xDFFF

/-- The character of two halves. -/
def joinSurrogates (n m : Nat) : Char :=
  Char.ofNat (0x10000 + (n - 0xD800) * 0x400 + (m - 0xDC00))

/-- The characters that pieces denote; `fault` is the fault at their end. A lone surrogate is
refused where it stands; a byte that is no character spoils the text only if the text is closed. -/
def readPieces (fault : Option Fault) : List Piece → Except Fault (List Char × Bool)
  | [] => match fault with
    | none => .ok ([], false)
    | some f => .error f
  | .char c :: ps => do
    let (cs, spoilt) ← readPieces fault ps
    return (c :: cs, spoilt)
  | .byte :: ps => do
    let (cs, _) ← readPieces fault ps
    return (cs, true)
  | [.unit n] =>
    if isTrailingSurrogate n then .error .malformed
    else if isLeadingSurrogate n then
      if fault = some .truncated then .error .truncated else .error .malformed
    else match fault with
      | none => .ok ([Char.ofNat n], false)
      | some f => .error f
  | .unit n :: .unit m :: ps =>
    if isTrailingSurrogate n then .error .malformed
    else if isLeadingSurrogate n then
      if isTrailingSurrogate m then do
        let (cs, spoilt) ← readPieces fault ps
        return (joinSurrogates n m :: cs, spoilt)
      else .error .malformed
    else do
      let (cs, spoilt) ← readPieces fault (.unit m :: ps)
      return (Char.ofNat n :: cs, spoilt)
  | .unit n :: p :: ps =>
    if isTrailingSurrogate n || isLeadingSurrogate n then .error .malformed
    else do
      let (cs, spoilt) ← readPieces fault (p :: ps)
      return (Char.ofNat n :: cs, spoilt)

/-- The token of a quoted text. -/
def Scan.token (s : Scan) : Token :=
  match readPieces s.fault s.pieces with
  | .ok (cs, false) => .text (String.ofList cs)
  | .ok (_, true) => .brokenText .malformed s.fault
  | .error f => .brokenText f s.fault

/-! ### Writing -/

/-- A hexadecimal digit in lower case. -/
def hexDigit (n : Nat) : Char := Nat.digitChar n

/-- A character as it is written between quotes. -/
def escapedChar (c : Char) : List Char :=
  if c = '"' then ['\\', '"']
  else if c = '\\' then ['\\', '\\']
  else if c = '\x08' then ['\\', 'b']
  else if c = '\x0c' then ['\\', 'f']
  else if c = '\n' then ['\\', 'n']
  else if c = '\r' then ['\\', 'r']
  else if c = '\t' then ['\\', 't']
  else if c.toNat < 0x20 then
    ['\\', 'u', '0', '0', hexDigit (c.toNat / 16), hexDigit (c.toNat % 16)]
  else [c]

/-- A text between quotes. -/
def quotation (s : String) : List Char := '"' :: s.toList.flatMap escapedChar ++ ['"']

end VisitBooking.Json
