import VisitBooking.Reference.Config
import VisitBooking.Reference.Digits
import VisitBooking.Reference.Scramble
import VisitBooking.Text.Alphanumeric

/-!
# Booking references

A booking reference is a short token derived from the identity of a visit. The identity is
written in the base given by the alphabet, filled up with zeros to the least length and to whole
groups, scrambled, and written with the most significant symbol first and the delimiter between
groups. A token is accepted only if it is written exactly so: reading it undoes each step and
then writes the number again.

Settings that are accepted make a *scheme*. The number of symbols is computed in machine words, and
nothing keeps a scheme from asking for more of them than a word can count: then the number wraps
around, digits are cut off, and different identities may have one reference. A *codec* is a scheme
for which that does not happen.

## Main definitions

* `Scheme`: what accepted settings make.
* `Scheme.ofConfig`: the scheme of some settings, or the first fault among them.
* `Scheme.encode`, `Scheme.decode`: the reference of an identity, and back.
* `Codec`: a scheme whose whole groups can be counted in a machine word.

## Main results

* `Codec.tokenLength_eq`: in a codec nothing wraps around.
* `Codec.symbols_eq`: so that no digit is cut off.
-/

namespace VisitBooking.Reference

/-- How identities are written, as accepted settings have it. -/
structure Scheme where
  /-- The symbols, the first one counting as zero. -/
  alphabet : List Char
  /-- The least number of symbols. -/
  minLength : Nat
  /-- The number of symbols in a group. -/
  chunkSize : Nat
  /-- What stands between two groups. -/
  delimiter : Option Char
  two_le_length : 2 ≤ alphabet.length
  nodup : alphabet.Nodup
  minLength_pos : 0 < minLength
  chunkSize_pos : 0 < chunkSize
  delimiter_not_mem : ∀ d, delimiter = some d → d ∉ alphabet
deriving DecidableEq

/-! ### Checking settings -/

/-- The delimiter that settings ask for. -/
def delimiterOf (delimiter : String) : Except ConfigFault (Option Char) :=
  match delimiter.toList with
  | [] => .ok none
  | [c] => if Text.isAlphanumeric c then .error (.delimiterAlphanumeric delimiter) else .ok (some c)
  | _ => .error (.delimiterLong delimiter)

/-- The fault of the leftmost symbol that repeats an earlier one or is the delimiter. -/
def symbolFault (delimiter : Option Char) : List Char → List Char → Option ConfigFault
  | _, [] => none
  | earlier, c :: cs =>
    if c ∈ earlier then some (.symbolRepeated c)
    else if delimiter = some c then some (.symbolIsDelimiter c)
    else symbolFault delimiter (c :: earlier) cs

theorem nodup_of_symbolFault {delimiter : Option Char} {earlier cs : List Char}
    (h : symbolFault delimiter earlier cs = none) :
    cs.Nodup ∧ (∀ c ∈ cs, c ∉ earlier) ∧ ∀ d, delimiter = some d → d ∉ cs := by
  induction cs generalizing earlier with
  | nil => simp
  | cons c cs ih =>
    unfold symbolFault at h
    split at h
    · simp at h
    · rename_i hc
      split at h
      · simp at h
      · rename_i hd
        obtain ⟨hn, he, hm⟩ := ih h
        refine ⟨List.nodup_cons.2 ⟨fun hmem => he c hmem (List.mem_cons_self ..), hn⟩, ?_, ?_⟩
        · intro x hx
          rcases List.mem_cons.1 hx with rfl | hx
          · exact hc
          · exact fun hxe => he x hx (List.mem_cons_of_mem _ hxe)
        · intro d hds hmem
          rcases List.mem_cons.1 hmem with rfl | hmem
          · exact hd hds
          · exact hm d hds hmem

/-- The scheme of some settings. The conditions are checked in the order least length, group size,
delimiter, size of the alphabet, symbols of the alphabet, and the first one violated is
reported. -/
def Scheme.ofConfig (cfg : Config) : Except ConfigFault Scheme :=
  if hm : cfg.minLength = 0 then .error .minLengthZero
  else if hc : cfg.chunkSize = 0 then .error .chunkSizeZero
  else
    match delimiterOf cfg.delimiter with
    | .error f => .error f
    | .ok delimiter =>
      let alphabet := cfg.alphabet.toList
      if hl : alphabet.length < 2 then .error .alphabetShort
      else
        match hf : symbolFault delimiter [] alphabet with
        | some f => .error f
        | none =>
          .ok {
            alphabet := alphabet
            minLength := cfg.minLength
            chunkSize := cfg.chunkSize
            delimiter := delimiter
            two_le_length := Nat.le_of_not_lt hl
            nodup := (nodup_of_symbolFault hf).1
            minLength_pos := Nat.pos_of_ne_zero hm
            chunkSize_pos := Nat.pos_of_ne_zero hc
            delimiter_not_mem := (nodup_of_symbolFault hf).2.2 }

/-- The symbols of the built-in settings. -/
def standardAlphabet : List Char := "23456789abcdefghjkmnpqrstuvwxyz".toList

theorem symbolFault_standardAlphabet : symbolFault (some '-') [] standardAlphabet = none := by
  decide

/-- The scheme of the built-in settings. -/
def Scheme.standard : Scheme where
  alphabet := standardAlphabet
  minLength := 8
  chunkSize := 2
  delimiter := some '-'
  two_le_length := by decide
  nodup := (nodup_of_symbolFault symbolFault_standardAlphabet).1
  minLength_pos := by decide
  chunkSize_pos := by decide
  delimiter_not_mem := (nodup_of_symbolFault symbolFault_standardAlphabet).2.2

instance : Inhabited Scheme := ⟨.standard⟩

/-! ### Writing -/

/-- The base in which identities are written. -/
def Scheme.base (c : Scheme) : Nat := c.alphabet.length

/-- The least number of symbols in whole groups with room for `len`. -/
def wholeGroups (size len : Nat) : Nat := (len + size - 1) / size * size

/-- No identity has more digits than this, whatever the base. -/
def maxDigits : Nat := 64

/-- The number of symbols of an identity with `natural` digits: at least the least length, and
whole groups. It is computed in machine words and wraps around. A number with more digits than an
identity can have is outside of what the words are for, and has all the room that it needs. -/
def Scheme.tokenLength (c : Scheme) (natural : Nat) : Nat :=
  let len := wholeGroups c.chunkSize (max natural c.minLength)
  if natural ≤ maxDigits then len % UInt64.size else len

/-- The scrambled digits of an identity, least significant first. -/
def Scheme.symbols (c : Scheme) (id : Nat) : List Nat :=
  let ds := digits c.base id
  scramble c.base (resize (c.tokenLength ds.length) ds)

/-- The character of a symbol. -/
def Scheme.char (c : Scheme) (symbol : Nat) : Char := c.alphabet.getD symbol ' '

/-- `cs` with the delimiter in front of every `size`-th character but the first; `index`
characters stand before `cs`. -/
def separate (size : Nat) (delimiter : Option Char) : Nat → List Char → List Char
  | _, [] => []
  | index, c :: cs =>
    (if 0 < index ∧ index % size = 0 then delimiter.toList else []) ++
      c :: separate size delimiter (index + 1) cs

/-- The reference of an identity. -/
def Scheme.encode (c : Scheme) (id : Nat) : String :=
  String.ofList (separate c.chunkSize c.delimiter 0 ((c.symbols id).reverse.map c.char))

/-! ### Reading -/

/-- Identities are below this bound. -/
def identityBound : Nat := UInt64.size

/-- The symbols of a token, least significant first, the delimiter left out; fails on any other
character. -/
def Scheme.symbolsOf? (c : Scheme) (token : String) : Option (List Nat) :=
  (token.toList.reverse.filter fun x => some x ≠ c.delimiter).mapM fun x => c.alphabet.idxOf? x

/-- A number that is an identity. -/
def identity? (n : Nat) : Option Nat := if n < identityBound then some n else none

/-- The identity with the given digits, least significant first. It is put together from the most
significant digit on, and every product and every sum on the way has to be an identity too. -/
def identityOf? (base : Nat) : List Nat → Option Nat
  | [] => some 0
  | d :: ds => do
    let high ← identityOf? base ds
    let shifted ← identity? (high * base)
    identity? (shifted + d)

/-- The identity that a token is the reference of. -/
def Scheme.decode (c : Scheme) (token : String) : Except InvalidToken Nat :=
  match c.symbolsOf? token with
  | none | some [] => .error ⟨token⟩
  | some symbols =>
    match identityOf? c.base (unscramble c.base symbols) with
    | none => .error ⟨token⟩
    | some id => if c.encode id = token then .ok id else .error ⟨token⟩

/-! ### Schemes in which nothing wraps around -/

/-- A scheme whose least length, in whole groups, can be counted in a machine word. Every identity
has one reference, and every reference one identity. -/
structure Codec extends Scheme where
  fits : wholeGroups chunkSize minLength < UInt64.size
deriving DecidableEq

instance : Coe Codec Scheme := ⟨Codec.toScheme⟩

/-- The scheme as a codec, if it is one. -/
def Scheme.codec? (c : Scheme) : Option Codec :=
  if fits : wholeGroups c.chunkSize c.minLength < UInt64.size then some { c with fits } else none

/-- The codec of the built-in settings. -/
def Codec.standard : Codec where
  toScheme := .standard
  fits := by decide

instance : Inhabited Codec := ⟨.standard⟩

theorem le_wholeGroups {size : Nat} (hsize : 0 < size) (len : Nat) :
    len ≤ wholeGroups size len := by
  have hmod := Nat.div_add_mod (len + size - 1) size
  have hlt := Nat.mod_lt (len + size - 1) hsize
  rw [Nat.mul_comm] at hmod
  rw [wholeGroups]
  omega

theorem wholeGroups_le (size len : Nat) :
    wholeGroups size len ≤ len + size - 1 := Nat.div_mul_le_self ..

/-- One group is enough for no more symbols than it has. -/
theorem wholeGroups_of_le {size len : Nat} (hlen : 0 < len) (hle : len ≤ size) :
    wholeGroups size len = size := by
  have hone : (len + size - 1) / size = 1 :=
    Nat.div_eq_of_lt_le (by omega) (by omega)
  rw [wholeGroups, hone, Nat.one_mul]

namespace Codec

variable (c : Codec)

/-- If the least length can be counted in whole groups, then so can the digits of any identity: they
are few, and a group that is longer is also counted for the least length. -/
theorem wholeGroups_lt {natural : Nat} (h : natural ≤ maxDigits) :
    wholeGroups c.chunkSize (max natural c.minLength) < UInt64.size := by
  have hword : 2 * maxDigits < UInt64.size := by decide
  rcases Nat.le_total natural c.minLength with hmin | hmin
  · rw [Nat.max_eq_right hmin]
    exact c.fits
  · have hpos : 0 < natural := Nat.lt_of_lt_of_le c.minLength_pos hmin
    rw [Nat.max_eq_left hmin]
    rcases Nat.le_total natural c.chunkSize with hone | hmany
    · have hgroup : wholeGroups c.chunkSize c.minLength = c.chunkSize :=
        wholeGroups_of_le c.minLength_pos (Nat.le_trans hmin hone)
      rw [wholeGroups_of_le hpos hone, ← hgroup]
      exact c.fits
    · have hle := wholeGroups_le c.chunkSize natural
      omega

/-- In a codec nothing wraps around. -/
theorem tokenLength_eq (natural : Nat) :
    c.tokenLength natural = wholeGroups c.chunkSize (max natural c.minLength) := by
  rw [Scheme.tokenLength]
  split
  case isTrue h => exact Nat.mod_eq_of_lt (c.wholeGroups_lt h)
  case isFalse => rfl

/-- All digits of an identity are scrambled. -/
theorem symbols_eq (id : Nat) :
    c.symbols id =
      scramble c.base (padTo (c.tokenLength (digits c.base id).length) (digits c.base id)) := by
  rw [Scheme.symbols, resize_eq_padTo]
  rw [c.tokenLength_eq]
  exact Nat.le_trans (Nat.le_max_left ..) (le_wholeGroups c.chunkSize_pos _)

end Codec

end VisitBooking.Reference
