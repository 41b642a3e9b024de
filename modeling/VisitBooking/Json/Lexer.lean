import VisitBooking.Json.Quotation
import VisitBooking.Text.Decimal

/-!
# Cutting a text into tokens

Blanks between tokens are dropped. Cutting ends at the first broken token that nobody can get past.

The input is a list of characters in which `none` stands for a byte that belongs to no character.

## Main definitions

* `tokens`: the tokens of a text.
* `Token.chars`: a token as it is written.
-/

namespace VisitBooking.Json

/-! ### Words -/

/-- The rest of a text after `word`, or the fault in the text where `word` should stand. -/
def expectWord : List Char → List (Option Char) → Except Fault (List (Option Char))
  | [], s => .ok s
  | _, [] => .error .truncated
  | w :: ws, c :: s => if c = some w then expectWord ws s else .error .malformed

theorem length_expectWord {w : List Char} {s r : List (Option Char)} (h : expectWord w s = .ok r) :
    r.length ≤ s.length := by
  fun_induction expectWord w s with
  | case1 => cases h; simp
  | case2 => cases h
  | case3 ws c s ih => have := ih h; simp; omega
  | case4 => cases h

/-! ### Numbers -/

/-- The digits at the front of a text. -/
def digitsOf : List (Option Char) → List Char
  | some c :: s => if c.isDigit then c :: digitsOf s else []
  | _ => []

/-- What follows the digits at the front of a text. -/
def afterDigits : List (Option Char) → List (Option Char)
  | some c :: s => if c.isDigit then afterDigits s else some c :: s
  | s => s

theorem length_afterDigits (s : List (Option Char)) : (afterDigits s).length ≤ s.length := by
  fun_induction afterDigits s with
  | case1 c s hc ih => exact Nat.le_succ_of_le ih
  | case2 => exact Nat.le_refl _
  | case3 => exact Nat.le_refl _

theorem length_afterDigits_lt {s : List (Option Char)} (h : digitsOf s ≠ []) :
    (afterDigits s).length < s.length := by
  match s with
  | [] => simp [digitsOf] at h
  | none :: _ => simp [digitsOf] at h
  | some c :: s =>
    by_cases hc : c.isDigit
    · have := length_afterDigits s
      simp [afterDigits, hc]
      omega
    · simp [digitsOf, hc] at h

/-- The token of a number that lacks a digit before `s`. Whoever passes over it does not care
whether the text ends there. -/
def digitMissing (s : List (Option Char)) : Token :=
  match s with
  | [] => .broken .truncated .malformed
  | _ => .broken .malformed .malformed

/-- An exponent with its letter, if there is one. -/
def scanExponent (s : List (Option Char)) : Except Token (Option Int × List (Option Char)) :=
  let number (negative : Bool) (s : List (Option Char)) :=
    match digitsOf s with
    | [] => .error (digitMissing s)
    | ds =>
      let n : Int := Text.value ds
      .ok (some (if negative then -n else n), afterDigits s)
  let signed (s : List (Option Char)) :=
    match s with
    | some '+' :: s => number false s
    | some '-' :: s => number true s
    | s => number false s
  match s with
  | some 'e' :: s => signed s
  | some 'E' :: s => signed s
  | s => .ok (none, s)

/-- The digits of a fraction, if there is a point. -/
def scanFraction (s : List (Option Char)) :
    Except Token (Option (List Char) × List (Option Char)) :=
  match s with
  | some '.' :: s =>
    match digitsOf s with
    | [] => .error (digitMissing s)
    | ds => .ok (some ds, afterDigits s)
  | s => .ok (none, s)

/-- A number after its sign. -/
def scanNumber (negative : Bool) (s : List (Option Char)) :
    Except Token (Number × List (Option Char)) :=
  match digitsOf s with
  | [] => .error (digitMissing s)
  | ds =>
    if ds.head? = some '0' ∧ 1 < ds.length then .error (.broken .malformed .malformed)
    else do
      let (fraction, s) ← scanFraction (afterDigits s)
      let (exponent, s) ← scanExponent s
      let places := (fraction.getD []).length
      let power := if fraction = none ∧ exponent = none then none
        else some (exponent.getD 0 - places)
      return (⟨negative, Text.value (ds ++ fraction.getD []), power⟩, s)

theorem length_scanExponent {s r : List (Option Char)} {e : Option Int}
    (h : scanExponent s = .ok (e, r)) : r.length ≤ s.length := by
  have key : ∀ t : List (Option Char), (afterDigits t).length ≤ t.length := length_afterDigits
  unfold scanExponent at h
  grind

theorem length_scanFraction {s r : List (Option Char)} {f : Option (List Char)}
    (h : scanFraction s = .ok (f, r)) : r.length ≤ s.length := by
  have key : ∀ t : List (Option Char), (afterDigits t).length ≤ t.length := length_afterDigits
  unfold scanFraction at h
  grind

theorem length_scanNumber {negative : Bool} {s r : List (Option Char)} {n : Number}
    (h : scanNumber negative s = .ok (n, r)) : r.length < s.length := by
  unfold scanNumber at h
  split at h
  · cases h
  · rename_i hd
    split at h
    · cases h
    · simp only [bind, Except.bind, pure, Except.pure] at h
      split at h
      · cases h
      · rename_i p hp
        split at h
        · cases h
        · rename_i q hq
          have h1 := length_scanFraction hp
          have h2 := length_scanExponent hq
          have h3 := length_afterDigits_lt hd
          cases h
          omega

/-! ### All tokens -/

/-- The character is a blank between tokens. -/
def isSpace (c : Char) : Bool := c = ' ' || c = '\n' || c = '\t' || c = '\r'

/-- The token for one character that stands for itself. -/
def Token.ofPunctuation? : Char → Option Token
  | '\x7b' => some .openObject
  | '\x7d' => some .closeObject
  | '[' => some .openList
  | ']' => some .closeList
  | ':' => some .colon
  | ',' => some .comma
  | _ => none

/-- The tokens of a text. -/
def tokens : List (Option Char) → List Token
  | [] => []
  | none :: _ => [.stray]
  | some c :: s =>
    if isSpace c then tokens s
    else match Token.ofPunctuation? c with
    | some t => t :: tokens s
    | none =>
      if c = '"' then
        have : (scanQuotation s).rest.length ≤ s.length := length_rest_scanQuotation s
        (scanQuotation s).token ::
          (if (scanQuotation s).fault = none then tokens (scanQuotation s).rest else [])
      else if c = 'n' then
        match h : expectWord ['u', 'l', 'l'] s with
        | .ok r =>
          have : r.length ≤ s.length := length_expectWord h
          .null :: tokens r
        | .error f => [.brokenNull f]
      else if c = 't' then
        match h : expectWord ['r', 'u', 'e'] s with
        | .ok r =>
          have : r.length ≤ s.length := length_expectWord h
          .bool true :: tokens r
        | .error f => [.broken f f]
      else if c = 'f' then
        match h : expectWord ['a', 'l', 's', 'e'] s with
        | .ok r =>
          have : r.length ≤ s.length := length_expectWord h
          .bool false :: tokens r
        | .error f => [.broken f f]
      else if c = '-' then
        match h : scanNumber true s with
        | .ok (n, r) =>
          have : r.length < s.length := length_scanNumber h
          .number n :: tokens r
        | .error t => [t]
      else if c.isDigit then
        match h : scanNumber false (some c :: s) with
        | .ok (n, r) =>
          have : r.length < s.length + 1 := length_scanNumber h
          .number n :: tokens r
        | .error t => [t]
      else [.stray]
termination_by s => s.length
decreasing_by
  all_goals grind

end VisitBooking.Json
