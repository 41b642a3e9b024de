import VisitBooking.Json.Lexer

/-!
# How tokens are written

A grammar of tokens as characters, which does not say how a text is cut, and the proof that a text
is cut into the tokens that are written in it. Blanks may stand before any token. A number goes on
as long as it can: what follows it is no digit, point or letter of an exponent.

A text between quotes that is in order may still have no meaning, because half of a character is
missing in it or a byte belongs to no character. Whoever passes over it does not mind, so that it is
a token too.

## Main definitions

* `NumberText`: a number as it is written.
* `PieceText`, `Denotes`: what stands between quotes, and the text that it denotes.
* `Lexes`: a text and the tokens in it.
* `Token.Proper`: the tokens that can be written.

## Main results

* `scanNumber_of_text`, `exists_text_of_scanNumber`: numbers are cut as they are written.
* `scanQuotation_of_pieces`, `exists_pieces_of_scanQuotation`, `readPieces_eq_ok_iff`: so is what
  stands between quotes, and it is read as what it denotes.
* `Lexes.tokens_eq`, `lexes_tokens`: a text is cut into the tokens in it.
-/

namespace VisitBooking.Json

open Text

/-! ### Numbers -/

/-- Digits, at least one. -/
def Digits (ds : List Char) : Prop := ds ≠ [] ∧ ∀ c ∈ ds, c.isDigit

/-- A fraction behind its point, if there is one, and its digits. -/
inductive FractionText : List Char → Option (List Char) → Prop
  | none : FractionText [] none
  | point {ds : List Char} (h : Digits ds) : FractionText ('.' :: ds) (some ds)

/-- An exponent behind its letter, if there is one. -/
inductive ExponentText : List Char → Option Int → Prop
  | none : ExponentText [] none
  | plain {letter : Char} {ds : List Char} (hletter : letter = 'e' ∨ letter = 'E')
      (h : Digits ds) : ExponentText (letter :: ds) (some (value ds))
  | plus {letter : Char} {ds : List Char} (hletter : letter = 'e' ∨ letter = 'E')
      (h : Digits ds) : ExponentText (letter :: '+' :: ds) (some (value ds))
  | minus {letter : Char} {ds : List Char} (hletter : letter = 'e' ∨ letter = 'E')
      (h : Digits ds) : ExponentText (letter :: '-' :: ds) (some (-(value ds : Int)))

/-- The power of ten that all digits are multiplied with, if there is a fraction or an exponent. -/
def powerOfTen : Option (List Char) → Option Int → Option Int
  | none, none => none
  | fraction, exponent => some (exponent.getD 0 - (fraction.getD []).length)

/-- A number as it is written behind its sign. No zero stands before another digit. -/
inductive MagnitudeText (negative : Bool) : List Char → Number → Prop
  | intro {ds s t : List Char} {fraction : Option (List Char)} {exponent : Option Int}
      (h : Digits ds) (hzero : ds.head? = some '0' → ds.length = 1)
      (hfraction : FractionText s fraction) (hexponent : ExponentText t exponent) :
      MagnitudeText negative (ds ++ s ++ t)
        ⟨negative, value (ds ++ fraction.getD []), powerOfTen fraction exponent⟩

/-- A number as it is written. -/
inductive NumberText : List Char → Number → Prop
  | positive {s : List Char} {n : Number} (h : MagnitudeText false s n) : NumberText s n
  | negative {s : List Char} {n : Number} (h : MagnitudeText true s n) : NumberText ('-' :: s) n

/-- What follows does not go on with digits. -/
def EndsDigits (s : List (Option Char)) : Prop := ∀ c, s.head? = some (some c) → c.isDigit = false

/-- What follows does not go on with a number. -/
def EndsNumber (s : List (Option Char)) : Prop :=
  ∀ c, s.head? = some (some c) → c.isDigit = false ∧ c ≠ '.' ∧ c ≠ 'e' ∧ c ≠ 'E'

variable {s r : List (Option Char)} {ds w : List Char} {negative : Bool} {n : Number}

theorem digitsOf_append {ds : List Char} {s : List (Option Char)} (hds : ∀ c ∈ ds, c.isDigit)
    (hs : ∀ c, s.head? = some (some c) → c.isDigit = false) :
    digitsOf (ds.map some ++ s) = ds ∧ afterDigits (ds.map some ++ s) = s := by
  induction ds with
  | nil =>
    match s with
    | [] => exact ⟨rfl, rfl⟩
    | none :: s => exact ⟨rfl, rfl⟩
    | some c :: s =>
      have hc := hs c rfl
      simp [digitsOf, afterDigits, hc]
  | cons c ds ih =>
    have hc : c.isDigit := hds c (List.mem_cons_self ..)
    obtain ⟨hdigits, hafter⟩ := ih fun d hd => hds d (List.mem_cons_of_mem c hd)
    simp [digitsOf, afterDigits, hc, hdigits, hafter]

theorem digitsOf_spec (s : List (Option Char)) :
    s = (digitsOf s).map some ++ afterDigits s ∧ (∀ c ∈ digitsOf s, c.isDigit) ∧
      EndsDigits (afterDigits s) := by
  fun_induction digitsOf s with
  | case1 c s hc ih =>
    obtain ⟨heq, hdigits, hend⟩ := ih
    rw [afterDigits, if_pos hc, List.map_cons, List.cons_append, ← heq]
    exact ⟨rfl, List.forall_mem_cons.2 ⟨hc, hdigits⟩, hend⟩
  | case2 c s hc =>
    rw [afterDigits, if_neg hc]
    refine ⟨rfl, List.forall_mem_nil _, fun d hd => ?_⟩
    obtain rfl := Option.some.inj (Option.some.inj hd)
    exact Bool.eq_false_iff.2 hc
  | case3 s hs =>
    have hafter : afterDigits s = s := by
      rw [afterDigits]
      exact hs
    rw [hafter]
    exact ⟨rfl, List.forall_mem_nil _, fun c hc => by
      obtain ⟨s, rfl⟩ := List.head?_eq_some_iff.1 hc
      exact absurd rfl (hs c s)⟩

/-- Digits are read up to the first other character. -/
theorem Digits.read (h : Digits ds) (hs : EndsDigits s) : ∃ c cs, ds = c :: cs ∧ c.isDigit ∧
    digitsOf (some c :: (cs.map some ++ s)) = c :: cs ∧
    afterDigits (some c :: (cs.map some ++ s)) = s := by
  obtain ⟨c, cs, rfl⟩ := List.exists_cons_of_ne_nil h.1
  exact ⟨c, cs, rfl, h.2 c List.mem_cons_self, digitsOf_append h.2 hs⟩

theorem EndsNumber.endsDigits (h : EndsNumber s) : EndsDigits s := fun c hc => (h c hc).1

theorem scanFraction_of_text {fraction : Option (List Char)} (h : FractionText w fraction)
    (hdigits : EndsDigits s) (hpoint : s.head? ≠ some (some '.')) :
    scanFraction (w.map some ++ s) = .ok (fraction, s) := by
  cases h with
  | none =>
    rw [List.map_nil, List.nil_append, scanFraction.eq_def]
    split
    case h_1 => exact absurd rfl hpoint
    case h_2 => rfl
  | @point ds h =>
    obtain ⟨c, cs, rfl, -, hread, hafter⟩ := h.read hdigits
    simp only [List.map_cons, List.cons_append, scanFraction, hread, hafter]

/-- What follows the letter of an exponent. -/
theorem scanExponent_letter {letter : Char} (hletter : letter = 'e' ∨ letter = 'E')
    (s : List (Option Char)) : scanExponent (some letter :: s) = scanExponent (some 'e' :: s) := by
  rcases hletter with rfl | rfl
  · rfl
  · rfl

theorem scanExponent_of_text {exponent : Option Int} (h : ExponentText w exponent)
    (hs : EndsNumber s) : scanExponent (w.map some ++ s) = .ok (exponent, s) := by
  cases h with
  | none =>
    rw [List.map_nil, List.nil_append, scanExponent.eq_def]
    split
    case h_1 => exact absurd rfl (hs 'e' rfl).2.2.1
    case h_2 => exact absurd rfl (hs 'E' rfl).2.2.2
    case h_3 => rfl
  | @plain letter ds hletter h =>
    obtain ⟨c, cs, rfl, hc, hread, hafter⟩ := h.read hs.endsDigits
    have hplus : c ≠ '+' := by rintro rfl; cases hc
    have hminus : c ≠ '-' := by rintro rfl; cases hc
    rw [List.map_cons, List.cons_append, scanExponent_letter hletter]
    simp [scanExponent, hplus, hminus, hread, hafter]
  | @plus letter ds hletter h =>
    obtain ⟨c, cs, rfl, -, hread, hafter⟩ := h.read hs.endsDigits
    rw [List.map_cons, List.cons_append, scanExponent_letter hletter]
    simp [scanExponent, hread, hafter]
  | @minus letter ds hletter h =>
    obtain ⟨c, cs, rfl, -, hread, hafter⟩ := h.read hs.endsDigits
    rw [List.map_cons, List.cons_append, scanExponent_letter hletter]
    simp [scanExponent, hread, hafter]

theorem ExponentText.ends {exponent : Option Int} (h : ExponentText w exponent)
    (hs : EndsNumber s) :
    EndsDigits (w.map some ++ s) ∧ (w.map some ++ s).head? ≠ some (some '.') := by
  have hletter : ∀ {letter : Char} {t : List (Option Char)}, letter = 'e' ∨ letter = 'E' →
      EndsDigits (some letter :: t) ∧ (some letter :: t).head? ≠ some (some '.') := by
    intro letter t hletter
    refine ⟨fun c hc => ?_, ?_⟩
    · obtain rfl := Option.some.inj (Option.some.inj hc)
      rcases hletter with rfl | rfl <;> rfl
    · rcases hletter with rfl | rfl <;> simp
  cases h with
  | none => exact ⟨hs.endsDigits, fun hpoint => (hs '.' hpoint).2.1 rfl⟩
  | plain h => exact hletter h
  | plus h => exact hletter h
  | minus h => exact hletter h

theorem FractionText.endsDigits {fraction : Option (List Char)} (h : FractionText w fraction)
    (hs : EndsDigits s) : EndsDigits (w.map some ++ s) := by
  cases h with
  | none => exact hs
  | point h =>
    intro c hc
    obtain rfl := Option.some.inj (Option.some.inj hc)
    rfl

/-- A number is cut as it is written. -/
theorem scanNumber_of_text (h : MagnitudeText negative w n) (hs : EndsNumber s) :
    scanNumber negative (w.map some ++ s) = .ok (n, s) := by
  obtain @⟨ds, t, u, fraction, exponent, h, hzero, hfraction, hexponent⟩ := h
  obtain ⟨hdigits, hpoint⟩ := hexponent.ends hs
  obtain ⟨c, cs, rfl, -, hread, hafter⟩ := h.read (hfraction.endsDigits hdigits)
  have hone : ¬ ((c :: cs).head? = some '0' ∧ 1 < (c :: cs).length) := by
    rintro ⟨hhead, hlength⟩
    rw [hzero hhead] at hlength
    exact absurd hlength (Nat.lt_irrefl 1)
  rw [List.map_append, List.map_append, List.append_assoc, List.append_assoc, List.map_cons,
    List.cons_append, scanNumber, hread, hafter]
  simp only [if_neg hone, scanFraction_of_text hfraction hdigits hpoint,
    scanExponent_of_text hexponent hs, bind, Except.bind, pure, Except.pure]
  cases fraction <;> cases exponent <;> rfl

theorem exists_text_of_scanFraction {fraction : Option (List Char)} (hs : EndsDigits s)
    (h : scanFraction s = .ok (fraction, r)) :
    ∃ w, s = w.map some ++ r ∧ FractionText w fraction ∧ EndsDigits r := by
  rw [scanFraction.eq_def] at h
  split at h
  case h_1 s =>
    obtain ⟨heq, hdigits, hend⟩ := digitsOf_spec s
    split at h
    case h_1 => cases h
    case h_2 hne =>
      cases h
      exact ⟨'.' :: digitsOf s, by rw [List.map_cons, List.cons_append, ← heq],
        .point ⟨hne, hdigits⟩, hend⟩
  case h_2 =>
    cases h
    exact ⟨[], rfl, .none, hs⟩

theorem exists_text_of_scanExponent {exponent : Option Int} (hs : EndsDigits s)
    (h : scanExponent s = .ok (exponent, r)) :
    ∃ w, s = w.map some ++ r ∧ ExponentText w exponent ∧ EndsDigits r := by
  -- What follows the letter may have a sign.
  have hsigned : ∀ {letter : Char} {s : List (Option Char)}, letter = 'e' ∨ letter = 'E' →
      scanExponent (some 'e' :: s) = .ok (exponent, r) →
      ∃ w, some letter :: s = w.map some ++ r ∧ ExponentText w exponent ∧ EndsDigits r := by
    intro letter s hletter h
    simp only [scanExponent] at h
    split at h
    case h_1 s =>
      obtain ⟨heq, hdigits, hend⟩ := digitsOf_spec s
      split at h
      case h_1 => cases h
      case h_2 hne =>
        cases h
        refine ⟨letter :: '+' :: digitsOf s, ?_, .plus hletter ⟨hne, hdigits⟩, hend⟩
        rw [List.map_cons, List.map_cons, List.cons_append, List.cons_append, ← heq]
    case h_2 s =>
      obtain ⟨heq, hdigits, hend⟩ := digitsOf_spec s
      split at h
      case h_1 => cases h
      case h_2 hne =>
        cases h
        refine ⟨letter :: '-' :: digitsOf s, ?_, .minus hletter ⟨hne, hdigits⟩, hend⟩
        rw [List.map_cons, List.map_cons, List.cons_append, List.cons_append, ← heq]
    case h_3 =>
      obtain ⟨heq, hdigits, hend⟩ := digitsOf_spec s
      split at h
      case h_1 => cases h
      case h_2 hne =>
        cases h
        exact ⟨letter :: digitsOf s, by rw [List.map_cons, List.cons_append, ← heq],
          .plain hletter ⟨hne, hdigits⟩, hend⟩
  rw [scanExponent.eq_def] at h
  split at h
  case h_1 => exact hsigned (.inl rfl) h
  case h_2 => exact hsigned (.inr rfl) h
  case h_3 =>
    cases h
    exact ⟨[], rfl, .none, hs⟩

/-- What is cut as a number is written as one. -/
theorem exists_text_of_scanNumber (h : scanNumber negative s = .ok (n, r)) :
    ∃ w, s = w.map some ++ r ∧ MagnitudeText negative w n ∧ EndsDigits r := by
  obtain ⟨heq, hdigits, hend⟩ := digitsOf_spec s
  rw [scanNumber] at h
  split at h
  case h_1 => cases h
  case h_2 hne =>
    split at h
    case isTrue => cases h
    case isFalse hzero =>
      simp only [bind, Except.bind, pure, Except.pure] at h
      split at h
      case h_1 => cases h
      case h_2 p hfraction =>
        split at h
        case h_1 => cases h
        case h_2 q hexponent =>
          cases h
          obtain ⟨t, ht, hfraction, hend⟩ := exists_text_of_scanFraction hend hfraction
          obtain ⟨u, hu, hexponent, hend⟩ := exists_text_of_scanExponent hend hexponent
          have hpower : (if p.1 = none ∧ q.1 = none then none
              else some (q.1.getD 0 - ((p.1.getD []).length : Int))) = powerOfTen p.1 q.1 := by
            rcases p with ⟨_ | _, _⟩ <;> rcases q with ⟨_ | _, _⟩ <;> rfl
          refine ⟨digitsOf s ++ t ++ u, ?_, ?_, hend⟩
          · rw [List.map_append, List.map_append, List.append_assoc, List.append_assoc, ← hu, ← ht,
              ← heq]
          · rw [hpower]
            refine .intro ⟨hne, hdigits⟩ (fun hhead => ?_) hfraction hexponent
            have hpos : 0 < (digitsOf s).length := List.length_pos_iff.2 hne
            have hnot : ¬ 1 < (digitsOf s).length := fun hlt => hzero ⟨hhead, hlt⟩
            omega

/-! ### What stands between quotes -/

/-- The character is a hexadecimal digit of the value `x`. -/
def HexChar (c : Char) (x : Nat) : Prop :=
  (x < 10 ∧ c.toNat = 0x30 + x) ∨ (10 ≤ x ∧ x < 16 ∧ (c.toNat = 0x37 + x ∨ c.toNat = 0x57 + x))

/-- The letters that may stand after a backslash, and the characters that they stand for. -/
def escapes : List (Char × Char) :=
  [('"', '"'), ('\\', '\\'), ('/', '/'), ('b', '\x08'), ('f', '\x0c'), ('n', '\n'), ('r', '\r'),
    ('t', '\t')]

/-- A piece as it is written. -/
inductive PieceText : List (Option Char) → Piece → Prop
  | plain {c : Char} (hge : 0x20 ≤ c.toNat) (hquote : c ≠ '"') (hslash : c ≠ '\\') :
      PieceText [some c] (.char c)
  | byte : PieceText [none] .byte
  | escape {letter c : Char} (h : (letter, c) ∈ escapes) :
      PieceText [some '\\', some letter] (.char c)
  | unit {a b c d : Char} {x y z u : Nat} (ha : HexChar a x) (hb : HexChar b y) (hc : HexChar c z)
      (hd : HexChar d u) :
      PieceText [some '\\', some 'u', some a, some b, some c, some d]
        (.unit (((x * 16 + y) * 16 + z) * 16 + u))

/-- Pieces as they are written. -/
inductive PiecesText : List (Option Char) → List Piece → Prop
  | nil : PiecesText [] []
  | cons {w s : List (Option Char)} {p : Piece} {ps : List Piece} (hp : PieceText w p)
      (h : PiecesText s ps) : PiecesText (w ++ s) (p :: ps)

/-- The characters that pieces denote. Two halves of a character stand for it together, and one half
alone for nothing. -/
inductive Denotes : List Piece → List Char → Prop
  | nil : Denotes [] []
  | char (c : Char) {ps : List Piece} {cs : List Char} (h : Denotes ps cs) :
      Denotes (.char c :: ps) (c :: cs)
  | unit {n : Nat} {ps : List Piece} {cs : List Char} (hn : n < 0xD800 ∨ 0xDFFF < n)
      (h : Denotes ps cs) : Denotes (.unit n :: ps) (Char.ofNat n :: cs)
  | pair {n m : Nat} {ps : List Piece} {cs : List Char} (hn : 0xD800 ≤ n ∧ n ≤ 0xDBFF)
      (hm : 0xDC00 ≤ m ∧ m ≤ 0xDFFF) (h : Denotes ps cs) :
      Denotes (.unit n :: .unit m :: ps)
        (Char.ofNat (0x10000 + (n - 0xD800) * 0x400 + (m - 0xDC00)) :: cs)

variable {p : Piece} {ps : List Piece}

theorem hexValue?_eq_some_iff {c : Char} {x : Nat} : hexValue? (some c) = some x ↔ HexChar c x := by
  have h0 : '0'.toNat = 0x30 := rfl
  have h9 : '9'.toNat = 0x39 := rfl
  have ha : 'a'.toNat = 0x61 := rfl
  have hf : 'f'.toNat = 0x66 := rfl
  have hA : 'A'.toNat = 0x41 := rfl
  have hF : 'F'.toNat = 0x46 := rfl
  have hle : ∀ {c d : Char}, c ≤ d ↔ c.toNat ≤ d.toNat := Iff.rfl
  simp only [hexValue?, HexChar, hle, h0, h9, ha, hf, hA, hF]
  split
  · simp only [Option.some.injEq]
    omega
  · split
    · simp only [Option.some.injEq]
      omega
    · split
      · simp only [Option.some.injEq]
        omega
      · simp only [reduceCtorEq, false_iff]
        omega

theorem pieceText_of_hexUnit? {a b c d : Option Char} {n : Nat} (h : hexUnit? a b c d = some n) :
    PieceText [some '\\', some 'u', a, b, c, d] (.unit n) := by
  have hsome : ∀ {a : Option Char} {x : Nat}, hexValue? a = some x →
      ∃ c, a = some c ∧ HexChar c x := by
    intro a x h
    cases a with
    | none => cases h
    | some c => exact ⟨c, rfl, hexValue?_eq_some_iff.1 h⟩
  simp only [hexUnit?, Option.bind_eq_bind, Option.bind_eq_some_iff, Option.pure_def,
    Option.some.injEq] at h
  obtain ⟨x, hx, y, hy, z, hz, u, hu, rfl⟩ := h
  obtain ⟨a, rfl, ha⟩ := hsome hx
  obtain ⟨b, rfl, hb⟩ := hsome hy
  obtain ⟨c, rfl, hc⟩ := hsome hz
  obtain ⟨d, rfl, hd⟩ := hsome hu
  have hvalue : (x * 16 + y) * 256 + (z * 16 + u) = ((x * 16 + y) * 16 + z) * 16 + u := by omega
  rw [hvalue]
  exact .unit ha hb hc hd

theorem mem_escapes_of_shortEscape? {letter c : Char} (h : shortEscape? letter = some c) :
    (letter, c) ∈ escapes := by
  rw [shortEscape?.eq_def] at h
  split at h
  case h_9 => cases h
  all_goals
    cases h
    decide

theorem scanQuotation_plain {c : Char} (hquote : c ≠ '"') (hslash : c ≠ '\\')
    (hge : 0x20 ≤ c.toNat) (s : List (Option Char)) :
    scanQuotation (some c :: s) = (scanQuotation s).push (.char c) := by
  rw [scanQuotation.eq_def]
  split
  case h_8 d rest heq =>
    obtain ⟨hd, rfl⟩ := List.cons.inj heq
    obtain rfl := Option.some.inj hd
    exact if_neg (Nat.not_lt.2 hge)
  -- A character that is no quote and no backslash matches nothing else.
  all_goals simp_all

/-- A piece is cut as it is written. -/
theorem scanQuotation_of_piece {w : List (Option Char)} (h : PieceText w p)
    (s : List (Option Char)) : scanQuotation (w ++ s) = (scanQuotation s).push p := by
  cases h with
  | plain hge hquote hslash => exact scanQuotation_plain hquote hslash hge s
  | byte => rfl
  | escape h =>
    simp only [escapes, List.mem_cons, Prod.mk.injEq, List.not_mem_nil, or_false] at h
    rcases h with ⟨rfl, rfl⟩ | ⟨rfl, rfl⟩ | ⟨rfl, rfl⟩ | ⟨rfl, rfl⟩ | ⟨rfl, rfl⟩ | ⟨rfl, rfl⟩ |
      ⟨rfl, rfl⟩ | ⟨rfl, rfl⟩ <;> rfl
  | @unit a b c d x y z u ha hb hc hd =>
    have hunit : hexUnit? (some a) (some b) (some c) (some d) =
        some (((x * 16 + y) * 16 + z) * 16 + u) := by
      simp only [hexUnit?, hexValue?_eq_some_iff.2 ha, hexValue?_eq_some_iff.2 hb,
        hexValue?_eq_some_iff.2 hc, hexValue?_eq_some_iff.2 hd, Option.bind_eq_bind,
        Option.bind_some, Option.pure_def, Option.some.injEq]
      omega
    simp only [List.cons_append, List.nil_append, scanQuotation, hunit]

theorem scanQuotation_of_pieces {w : List (Option Char)} (h : PiecesText w ps)
    (s : List (Option Char)) : scanQuotation (w ++ some '"' :: s) = ⟨ps, none, s⟩ := by
  induction h with
  | nil => rfl
  | cons hp _ ih =>
    rw [List.append_assoc, scanQuotation_of_piece hp, ih]
    rfl

/-- What is cut up to a closing quote is written as pieces. -/
theorem exists_pieces_of_scanQuotation (s : List (Option Char))
    (h : (scanQuotation s).fault = none) :
    ∃ w, s = w ++ some '"' :: (scanQuotation s).rest ∧ PiecesText w (scanQuotation s).pieces := by
  have hpush : ∀ {w s : List (Option Char)} {p : Piece}, PieceText w p →
      (∃ v, s = v ++ some '"' :: (scanQuotation s).rest ∧ PiecesText v (scanQuotation s).pieces) →
      ∃ v, w ++ s = v ++ some '"' :: ((scanQuotation s).push p).rest ∧
        PiecesText v ((scanQuotation s).push p).pieces := by
    rintro w s p hp ⟨v, hv, hps⟩
    refine ⟨w ++ v, ?_, .cons hp hps⟩
    rw [List.append_assoc]
    exact congrArg (w ++ ·) hv
  fun_induction scanQuotation s with
  | case1 => cases h
  | case2 s => exact ⟨[], rfl, .nil⟩
  | case3 a b c d s n hn ih => exact hpush (pieceText_of_hexUnit? hn) (ih h)
  | case4 a b c d s hn => cases h
  | case5 => cases h
  | case6 e s _ _ c hc ih => exact hpush (.escape (mem_escapes_of_shortEscape? hc)) (ih h)
  | case7 => cases h
  | case8 => cases h
  | case9 => cases h
  | case10 => cases h
  | case11 c s hquote _ _ hletter hbyte hend hge ih =>
    have hslash : c ≠ '\\' := by
      rcases s with _ | ⟨_ | e, s⟩
      · exact hend rfl
      · exact hbyte s rfl
      · exact hletter e s rfl
    exact hpush (.plain (Nat.not_lt.1 hge) hquote hslash) (ih h)
  | case12 s ih => exact hpush .byte (ih h)

section Bind

variable {α β : Type} {x : Except Fault α} {g : α → β}

theorem bind_pure_eq_ok_iff {b : β} :
    (x >>= fun a => pure (g a)) = .ok b ↔ ∃ a, x = .ok a ∧ g a = b := by
  cases x <;> simp [bind, Except.bind, pure, Except.pure]

theorem bind_pure_eq_error_iff {f : Fault} :
    (x >>= fun a => pure (g a)) = .error f ↔ x = .error f := by
  cases x <;> simp [bind, Except.bind, pure, Except.pure]

end Bind

/-- A unit that is no half of a character is a character by itself. -/
theorem readPieces_unit {n : Nat} (hlead : isLeadingSurrogate n = false)
    (htrail : isTrailingSurrogate n = false) (ps : List Piece) :
    readPieces none (.unit n :: ps) = readPieces none (.char (Char.ofNat n) :: ps) := by
  cases ps with
  | nil => simp [readPieces, hlead, htrail, bind, Except.bind, pure, Except.pure]
  | cons p ps => cases p <;> simp [readPieces, hlead, htrail]

/-- A character more is read. -/
theorem exists_of_push_eq_ok {x : Except Fault (List Char × Bool)} {c : Char} {cs : List Char}
    (h : (x >>= fun p => pure (c :: p.1, p.2)) = .ok (cs, false)) :
    ∃ rest, x = .ok (rest, false) ∧ cs = c :: rest := by
  obtain ⟨⟨rest, spoilt⟩, hx, heq⟩ := bind_pure_eq_ok_iff.1 h
  cases heq
  exact ⟨rest, hx, rfl⟩

theorem isSurrogate_iff {n : Nat} : (isLeadingSurrogate n = true ↔ 0xD800 ≤ n ∧ n ≤ 0xDBFF) ∧
    (isTrailingSurrogate n = true ↔ 0xDC00 ≤ n ∧ n ≤ 0xDFFF) := by
  simp [isLeadingSurrogate, isTrailingSurrogate]

theorem unit_of_not_isSurrogate {n : Nat} (hlead : ¬ isLeadingSurrogate n = true)
    (htrail : ¬ isTrailingSurrogate n = true) : n < 0xD800 ∨ 0xDFFF < n := by
  rw [isSurrogate_iff.1] at hlead
  rw [isSurrogate_iff.2] at htrail
  omega

/-- What is read is what the pieces denote. -/
theorem denotes_of_readPieces {cs : List Char} (h : readPieces none ps = .ok (cs, false)) :
    Denotes ps cs := by
  fun_induction readPieces none ps generalizing cs with
  | case1 =>
    cases h
    exact .nil
  | case3 c ps ih =>
    obtain ⟨rest, hrest, rfl⟩ := exists_of_push_eq_ok h
    exact .char c (ih hrest)
  | case4 ps ih =>
    obtain ⟨_, -, heq⟩ := bind_pure_eq_ok_iff.1 h
    cases heq
  | case8 n htrail hlead =>
    cases h
    exact .unit (unit_of_not_isSurrogate hlead htrail) .nil
  | case11 n m ps _ hlead htrail ih =>
    obtain ⟨rest, hrest, rfl⟩ := exists_of_push_eq_ok h
    exact .pair (isSurrogate_iff.1.1 hlead) (isSurrogate_iff.2.1 htrail) (ih hrest)
  | case13 n m ps htrail hlead ih =>
    obtain ⟨rest, hrest, rfl⟩ := exists_of_push_eq_ok h
    exact .unit (unit_of_not_isSurrogate hlead htrail) (ih hrest)
  | case15 n p ps _ hnot ih =>
    obtain ⟨rest, hrest, rfl⟩ := exists_of_push_eq_ok h
    rw [Bool.or_eq_true, not_or] at hnot
    exact .unit (unit_of_not_isSurrogate hnot.2 hnot.1) (ih hrest)
  | _ => cases h

theorem readPieces_of_denotes {cs : List Char} (h : Denotes ps cs) :
    readPieces none ps = .ok (cs, false) := by
  induction h with
  | nil => rfl
  | char c _ ih =>
    rw [readPieces, ih]
    rfl
  | @unit n ps cs hn _ ih =>
    have hlead : isLeadingSurrogate n = false := by
      rw [← Bool.not_eq_true, isSurrogate_iff.1]
      omega
    have htrail : isTrailingSurrogate n = false := by
      rw [← Bool.not_eq_true, isSurrogate_iff.2]
      omega
    rw [readPieces_unit hlead htrail, readPieces, ih]
    rfl
  | @pair n m ps cs hn hm _ ih =>
    have htrail : isTrailingSurrogate n = false := by
      rw [← Bool.not_eq_true, isSurrogate_iff.2]
      omega
    rw [readPieces, if_neg (by simp [htrail]), if_pos (isSurrogate_iff.1.2 hn),
      if_pos (isSurrogate_iff.2.2 hm), ih]
    rfl

/-- A closed text is refused in one way only. -/
theorem eq_malformed_of_readPieces {f : Fault} (h : readPieces none ps = .error f) :
    f = .malformed := by
  fun_induction readPieces none ps with
  | case3 c ps ih => exact ih (bind_pure_eq_error_iff.1 h)
  | case4 ps ih => exact ih (bind_pure_eq_error_iff.1 h)
  | case11 n m ps _ _ _ ih => exact ih (bind_pure_eq_error_iff.1 h)
  | case13 n m ps _ _ ih => exact ih (bind_pure_eq_error_iff.1 h)
  | case15 n p ps _ _ ih => exact ih (bind_pure_eq_error_iff.1 h)
  | case6 n _ _ hnone => cases hnone
  | case2 f hnone => cases hnone
  | case9 n _ _ f hnone => cases hnone
  | _ =>
    cases h
    try rfl

/-- The token of a closed text that denotes nothing. -/
theorem token_of_not_denotes (h : ∀ cs, ¬ Denotes ps cs) (s : List (Option Char)) :
    Scan.token ⟨ps, none, s⟩ = .brokenText .malformed none := by
  rw [Scan.token]
  split
  case h_1 cs hread => exact absurd (denotes_of_readPieces hread) (h cs)
  case h_2 => rfl
  case h_3 f hread => rw [eq_malformed_of_readPieces hread]

theorem token_of_denotes {cs : List Char} (h : Denotes ps cs) (s : List (Option Char)) :
    Scan.token ⟨ps, none, s⟩ = .text (String.ofList cs) := by
  rw [Scan.token, readPieces_of_denotes h]

/-! ### Tokens -/

/-- The characters that are tokens by themselves. -/
def punctuation : List (Char × Token) :=
  [('\x7b', .openObject), ('\x7d', .closeObject), ('[', .openList), (']', .closeList),
    (':', .colon), (',', .comma)]

/-- The words. -/
def words : List (List Char × Token) :=
  [(['n', 'u', 'l', 'l'], .null), (['t', 'r', 'u', 'e'], .bool true),
    (['f', 'a', 'l', 's', 'e'], .bool false)]

/-- A text and the tokens that are written in it. -/
inductive Lexes : List (Option Char) → List Token → Prop
  | nil : Lexes [] []
  | blank {c : Char} {s : List (Option Char)} {ts : List Token}
      (hc : c = ' ' ∨ c = '\n' ∨ c = '\t' ∨ c = '\r') (h : Lexes s ts) : Lexes (some c :: s) ts
  | punctuation {c : Char} {t : Token} {s : List (Option Char)} {ts : List Token}
      (hc : (c, t) ∈ punctuation) (h : Lexes s ts) : Lexes (some c :: s) (t :: ts)
  | word {w : List Char} {t : Token} {s : List (Option Char)} {ts : List Token}
      (hw : (w, t) ∈ words) (h : Lexes s ts) : Lexes (w.map some ++ s) (t :: ts)
  | number {w : List Char} {n : Number} {s : List (Option Char)} {ts : List Token}
      (hw : NumberText w n) (hs : EndsNumber s) (h : Lexes s ts) :
      Lexes (w.map some ++ s) (.number n :: ts)
  | text {w s : List (Option Char)} {ps : List Piece} {cs : List Char} {ts : List Token}
      (hw : PiecesText w ps) (hps : Denotes ps cs) (h : Lexes s ts) :
      Lexes (some '"' :: (w ++ some '"' :: s)) (.text (String.ofList cs) :: ts)
  | brokenText {w s : List (Option Char)} {ps : List Piece} {ts : List Token}
      (hw : PiecesText w ps) (hps : ∀ cs, ¬ Denotes ps cs) (h : Lexes s ts) :
      Lexes (some '"' :: (w ++ some '"' :: s)) (.brokenText .malformed none :: ts)

/-- A token that can be written: all but those at which a text breaks off. -/
def Token.Proper : Token → Prop
  | .brokenText _ passed => passed = none
  | .brokenNull _ | .broken _ _ | .stray => False
  | _ => True

variable {ts : List Token}

theorem tokens_blank {c : Char} (hc : c = ' ' ∨ c = '\n' ∨ c = '\t' ∨ c = '\r') :
    tokens (some c :: s) = tokens s := by
  have hspace : isSpace c = true := by
    rcases hc with rfl | rfl | rfl | rfl <;> rfl
  rw [tokens, if_pos hspace]

/-- No blank is punctuation. -/
theorem isSpace_of_ofPunctuation? {c : Char} {t : Token} (h : Token.ofPunctuation? c = some t) :
    isSpace c = false := by
  cases hc : isSpace c with
  | false => rfl
  | true =>
    simp only [isSpace, Bool.or_eq_true, decide_eq_true_eq] at hc
    rcases hc with ((rfl | rfl) | rfl) | rfl <;> cases h

theorem tokens_punctuation {c : Char} {t : Token} (h : Token.ofPunctuation? c = some t) :
    tokens (some c :: s) = t :: tokens s := by
  rw [tokens]
  simp only [isSpace_of_ofPunctuation? h, h, Bool.false_eq_true, if_false]

theorem ofPunctuation?_eq_some_iff {c : Char} {t : Token} :
    Token.ofPunctuation? c = some t ↔ (c, t) ∈ punctuation := by
  constructor
  · intro h
    rw [Token.ofPunctuation?.eq_def] at h
    split at h
    case h_7 => cases h
    all_goals
      cases h
      decide
  · intro h
    simp only [punctuation, List.mem_cons, Prod.mk.injEq, List.not_mem_nil, or_false] at h
    rcases h with ⟨rfl, rfl⟩ | ⟨rfl, rfl⟩ | ⟨rfl, rfl⟩ | ⟨rfl, rfl⟩ | ⟨rfl, rfl⟩ | ⟨rfl, rfl⟩
    all_goals rfl

theorem tokens_word {w : List Char} {t : Token} (hw : (w, t) ∈ words) :
    tokens (w.map some ++ s) = t :: tokens s := by
  simp only [words, List.mem_cons, Prod.mk.injEq, List.not_mem_nil, or_false] at hw
  rcases hw with ⟨rfl, rfl⟩ | ⟨rfl, rfl⟩ | ⟨rfl, rfl⟩
  all_goals
    simp only [List.map_cons, List.map_nil, List.cons_append, List.nil_append]
    rw [tokens]
    simp [isSpace, Token.ofPunctuation?, expectWord]

/-- A digit begins a number and nothing else. -/
theorem tokens_digit {c : Char} (hc : c.isDigit) {n : Number} {r : List (Option Char)}
    (h : scanNumber false (some c :: s) = .ok (n, r)) :
    tokens (some c :: s) = .number n :: tokens r := by
  have hne : ∀ d : Char, d.isDigit = false → c ≠ d := by
    rintro d hd rfl
    rw [hd] at hc
    cases hc
  have hpunctuation : Token.ofPunctuation? c = none := by
    unfold Token.ofPunctuation?
    split <;> first | rfl | cases hc
  have hspace : isSpace c = false := by
    simp [isSpace, hne ' ' rfl, hne '\n' rfl, hne '\t' rfl, hne '\r' rfl]
  rw [tokens]
  simp only [hspace, hpunctuation, Bool.false_eq_true, if_false]
  rw [if_neg (hne '"' rfl), if_neg (hne 'n' rfl), if_neg (hne 't' rfl), if_neg (hne 'f' rfl),
    if_neg (hne '-' rfl), if_pos hc]
  split
  · rename_i heq
    cases h.symm.trans heq
    rfl
  · rename_i heq
    cases h.symm.trans heq

theorem tokens_minus {n : Number} {r : List (Option Char)}
    (h : scanNumber true s = .ok (n, r)) :
    tokens (some '-' :: s) = .number n :: tokens r := by
  have hspace : isSpace '-' = false := by decide
  have hpunctuation : Token.ofPunctuation? '-' = none := rfl
  rw [tokens]
  simp only [hspace, hpunctuation, Bool.false_eq_true, if_false, if_true, Char.reduceEq]
  split
  · rename_i heq
    cases h.symm.trans heq
    rfl
  · rename_i heq
    cases h.symm.trans heq

theorem tokens_numberText (hw : NumberText w n) (hs : EndsNumber s) :
    tokens (w.map some ++ s) = .number n :: tokens s := by
  cases hw with
  | positive h =>
    have hscan := scanNumber_of_text h hs
    obtain @⟨ds, t, u, fraction, exponent, hds, -, -, -⟩ := h
    obtain ⟨c, cs, rfl⟩ := List.exists_cons_of_ne_nil hds.1
    exact tokens_digit (hds.2 c List.mem_cons_self) hscan
  | negative h => exact tokens_minus (scanNumber_of_text h hs)

theorem tokens_quotation {w : List (Option Char)} (hw : PiecesText w ps) :
    tokens (some '"' :: (w ++ some '"' :: s)) = Scan.token ⟨ps, none, s⟩ :: tokens s := by
  have hspace : isSpace '"' = false := by decide
  have hnone : Token.ofPunctuation? '"' = none := rfl
  rw [tokens]
  simp only [hspace, hnone, Bool.false_eq_true, if_false, if_true, scanQuotation_of_pieces hw]

/-- A text is cut into the tokens that are written in it. -/
theorem Lexes.tokens_eq (h : Lexes s ts) : tokens s = ts := by
  induction h with
  | nil => rw [tokens]
  | blank hc _ ih => rw [tokens_blank hc, ih]
  | punctuation hc _ ih => rw [tokens_punctuation (ofPunctuation?_eq_some_iff.2 hc), ih]
  | word hw _ ih => rw [tokens_word hw, ih]
  | number hw hs _ ih => rw [tokens_numberText hw hs, ih]
  | text hw hps _ ih => rw [tokens_quotation hw, token_of_denotes hps, ih]
  | brokenText hw hps _ ih => rw [tokens_quotation hw, token_of_not_denotes hps, ih]

theorem eq_append_of_expectWord {w : List Char} (h : expectWord w s = .ok r) :
    s = w.map some ++ r := by
  fun_induction expectWord w s with
  | case1 =>
    cases h
    rfl
  | case2 => cases h
  | case3 w ws s ih => rw [ih h, List.map_cons, List.cons_append]
  | case4 => cases h

/-- Where a number breaks off, so does the text. -/
theorem not_proper_of_scanNumber {t : Token} (h : scanNumber negative s = .error t) :
    ¬ t.Proper := by
  have hmissing : ∀ s, ¬ (digitMissing s).Proper := by
    intro s
    cases s <;> exact id
  have hfraction : ∀ {s t}, scanFraction s = .error t → ¬ t.Proper := by
    intro s t h
    rw [scanFraction.eq_def] at h
    repeat' split at h
    all_goals cases h
    exact hmissing _
  have hexponent : ∀ {s t}, scanExponent s = .error t → ¬ t.Proper := by
    intro s t h
    simp only [scanExponent.eq_def] at h
    repeat' split at h
    all_goals cases h
    all_goals exact hmissing _
  rw [scanNumber] at h
  simp only [bind, Except.bind, pure, Except.pure] at h
  repeat' split at h
  all_goals cases h
  · exact hmissing _
  · exact id
  · exact hfraction ‹_›
  · exact hexponent ‹_›

/-- A number does not go on before a token. -/
theorem endsNumber_of_proper (hdigits : EndsDigits s) (h : ∀ t ∈ tokens s, t.Proper) :
    EndsNumber s := by
  intro c hc
  refine ⟨hdigits c hc, ?_, ?_, ?_⟩
  all_goals
    rintro rfl
    obtain ⟨r, rfl⟩ := List.head?_eq_some_iff.1 hc
    rw [tokens] at h
    exact h .stray (by simp [isSpace, Token.ofPunctuation?])

/-- A text that is read is closed. -/
theorem eq_none_of_readPieces {fault : Option Fault} {x : List Char × Bool}
    (h : readPieces fault ps = .ok x) : fault = none := by
  have hpush : ∀ {x : Except Fault (List Char × Bool)} {g : List Char × Bool → List Char × Bool}
      {y : List Char × Bool}, (x >>= fun p => pure (g p)) = .ok y → ∃ z, x = .ok z := by
    intro x g y h
    cases x with
    | error f => cases h
    | ok p => exact ⟨p, rfl⟩
  fun_induction readPieces fault ps generalizing x with
  | case1 hnone => exact hnone
  | case8 n _ _ hnone => exact hnone
  | case3 c ps ih => exact ih (bind_pure_eq_ok_iff.1 h).choose_spec.1
  | case4 ps ih => exact ih (bind_pure_eq_ok_iff.1 h).choose_spec.1
  | case11 n m ps _ _ _ ih => exact ih (bind_pure_eq_ok_iff.1 h).choose_spec.1
  | case13 n m ps _ _ ih => exact ih (bind_pure_eq_ok_iff.1 h).choose_spec.1
  | case15 n p ps _ _ ih => exact ih (bind_pure_eq_ok_iff.1 h).choose_spec.1
  | _ => cases h

theorem fault_of_proper {q : Scan} (h : q.token.Proper) : q.fault = none := by
  rw [Scan.token] at h
  split at h
  case h_1 hread => exact eq_none_of_readPieces hread
  case h_2 => exact h
  case h_3 => exact h

/-- The tokens into which a text is cut are written in it, if it does not break off. -/
theorem lexes_tokens (h : ∀ t ∈ tokens s, t.Proper) : Lexes s (tokens s) := by
  fun_induction tokens s with
  | case1 => exact .nil
  | case3 c s hspace ih =>
    refine .blank ?_ (ih h)
    simpa [isSpace, or_assoc] using hspace
  | case4 c s _ t ht ih =>
    exact .punctuation (ofPunctuation?_eq_some_iff.1 ht) (ih (List.forall_mem_cons.1 h).2)
  | case5 s _ _ _ ih =>
    obtain ⟨htoken, hrest⟩ := List.forall_mem_cons.1 h
    have hfault := fault_of_proper htoken
    rw [if_pos hfault] at hrest
    obtain ⟨w, hw, hw'⟩ := exists_pieces_of_scanQuotation s hfault
    have heq : (scanQuotation s).token =
        Scan.token ⟨(scanQuotation s).pieces, none, (scanQuotation s).rest⟩ := by rw [← hfault]
    rw [if_pos hfault, heq]
    by_cases hdenotes : ∃ cs, Denotes (scanQuotation s).pieces cs
    · obtain ⟨cs, hcs⟩ := hdenotes
      have hlexes := Lexes.text hw' hcs (ih hrest)
      rw [← hw] at hlexes
      rw [token_of_denotes hcs]
      exact hlexes
    · have hnone := not_exists.1 hdenotes
      have hlexes := Lexes.brokenText hw' hnone (ih hrest)
      rw [← hw] at hlexes
      rw [token_of_not_denotes hnone]
      exact hlexes
  | case6 s r hword _ _ _ _ ih =>
    rw [eq_append_of_expectWord hword]
    exact .word (w := ['n', 'u', 'l', 'l']) (by simp [words]) (ih (List.forall_mem_cons.1 h).2)
  | case8 s r hword _ _ _ _ _ ih =>
    rw [eq_append_of_expectWord hword]
    exact .word (w := ['t', 'r', 'u', 'e']) (by simp [words]) (ih (List.forall_mem_cons.1 h).2)
  | case10 s r hword _ _ _ _ _ _ ih =>
    rw [eq_append_of_expectWord hword]
    exact .word (w := ['f', 'a', 'l', 's', 'e']) (by simp [words]) (ih (List.forall_mem_cons.1 h).2)
  | case12 s n r hn _ _ _ _ _ _ _ ih =>
    have hrest := (List.forall_mem_cons.1 h).2
    obtain ⟨w, rfl, hw, hend⟩ := exists_text_of_scanNumber hn
    exact .number (.negative hw) (endsNumber_of_proper hend hrest) (ih hrest)
  | case14 c s _ _ _ _ _ _ _ hc n r hn _ ih =>
    have hrest := (List.forall_mem_cons.1 h).2
    obtain ⟨w, hs, hw, hend⟩ := exists_text_of_scanNumber hn
    rw [hs]
    exact .number (.positive hw) (endsNumber_of_proper hend hrest) (ih hrest)
  | case13 s t ht => exact absurd (h t (List.mem_singleton_self t)) (not_proper_of_scanNumber ht)
  | case15 c s _ _ _ _ _ _ _ _ t ht =>
    exact absurd (h t (List.mem_singleton_self t)) (not_proper_of_scanNumber ht)
  | _ => exact absurd (h _ (List.mem_singleton_self _)) id

end VisitBooking.Json
