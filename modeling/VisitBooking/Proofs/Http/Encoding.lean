import Mathlib.Data.List.Basic
import VisitBooking.Http.Percent
import VisitBooking.Proofs.Text.Utf8

/-!
# Texts as segments of a path

A text is put into a path as one segment by percent-encoding it: letters and digits without accents
and the four marks `-`, `.`, `_` and `~` stand for themselves, and any other byte is written with a
percent sign and two digits. The segment stands for the text again, and nothing in it ends the
segment, the path or the target.

## Main definitions

* `percentEncoded`: the segment that a text is put into a path as.

## Main results

* `segmentText?_percentEncoded`: the segment stands for the text.
* `not_mem_percentEncoded`: nothing in it ends it.
-/

namespace VisitBooking.Http

open VisitBooking.Text

/-- A byte that stands for itself: a letter, a digit, or one of four marks. -/
def isUnreserved (b : UInt8) : Bool :=
  (0x30 ≤ b && b ≤ 0x39) || (0x41 ≤ b && b ≤ 0x5A) || (0x61 ≤ b && b ≤ 0x7A) ||
    b == 0x2D || b == 0x2E || b == 0x5F || b == 0x7E

/-- A hexadecimal digit. -/
def hexDigit (n : UInt8) : Char := Char.ofNat (if n < 10 then 0x30 + n else 0x37 + n).toNat

/-- A byte in a segment. -/
def encodedByte (b : UInt8) : List Char :=
  if isUnreserved b then [Char.ofNat b.toNat] else ['%', hexDigit (b / 16), hexDigit (b % 16)]

/-- A text as a segment of a path. -/
def percentEncoded (s : String) : List Char := (Utf8.bytes s).flatMap encodedByte

/-! ### One byte -/

/-- What holds of the first 256 numbers as bytes holds of all bytes. -/
theorem forall_byte {P : UInt8 → Prop} (h : ∀ n < 256, P (UInt8.ofNat n)) (b : UInt8) : P b := by
  have hb := h b.toNat b.toNat_lt
  rwa [UInt8.ofNat_toNat] at hb

theorem percentDecoded_cons_of_ne {b : UInt8} (h : b ≠ 0x25) (s : List UInt8) :
    percentDecoded (b :: s) = b :: percentDecoded s := by
  rw [percentDecoded]
  exact fun _ _ _ hb => absurd hb h

theorem percentDecoded_triple {h l x y : UInt8} (hx : hexByte? h = some x)
    (hy : hexByte? l = some y) (s : List UInt8) :
    percentDecoded (0x25 :: h :: l :: s) = (x * 16 + y) :: percentDecoded s := by
  rw [percentDecoded, hx, hy]

theorem utf8EncodeChar_unreserved : ∀ b : UInt8, isUnreserved b = true →
    b ≠ 0x25 ∧ String.utf8EncodeChar (Char.ofNat b.toNat) = [b] :=
  forall_byte (by decide +kernel)

/-- The byte of a hexadecimal digit. -/
theorem exists_hexByte? : ∀ n : UInt8, n < 16 →
    ∃ h, String.utf8EncodeChar (hexDigit n) = [h] ∧ hexByte? h = some n := by
  have hdigit : ∀ n : UInt8, n < 16 →
      String.utf8EncodeChar (hexDigit n) = [UInt8.ofNat (hexDigit n).toNat] ∧
        hexByte? (UInt8.ofNat (hexDigit n).toNat) = some n :=
    forall_byte (by decide +kernel)
  exact fun n hn => ⟨_, hdigit n hn⟩

theorem digits_of_byte : ∀ b : UInt8, b / 16 < 16 ∧ b % 16 < 16 ∧ b / 16 * 16 + b % 16 = b :=
  forall_byte (by decide +kernel)

/-- A byte is read back, whatever follows it. -/
theorem percentDecoded_encodedByte (b : UInt8) (s : List UInt8) :
    percentDecoded ((encodedByte b).flatMap String.utf8EncodeChar ++ s) =
      b :: percentDecoded s := by
  by_cases hself : isUnreserved b = true
  · obtain ⟨hb, hbyte⟩ := utf8EncodeChar_unreserved b hself
    rw [encodedByte, if_pos hself, List.flatMap_cons, List.flatMap_nil, List.append_nil, hbyte,
      List.singleton_append, percentDecoded_cons_of_ne hb]
  · obtain ⟨hhigh, hlow, hsum⟩ := digits_of_byte b
    obtain ⟨h, hbyte, hx⟩ := exists_hexByte? _ hhigh
    obtain ⟨l, lbyte, hy⟩ := exists_hexByte? _ hlow
    have hpercent : String.utf8EncodeChar '%' = [0x25] := by decide
    rw [encodedByte, if_neg hself, List.flatMap_cons, List.flatMap_cons, List.flatMap_cons,
      List.flatMap_nil, hpercent, hbyte, lbyte]
    exact (percentDecoded_triple hx hy s).trans (by rw [hsum])

/-- Nothing that ends a segment, a path or a target. -/
theorem not_mem_encodedByte {c : Char} (hc : c = '/' ∨ c = '?' ∨ c = '#') (b : UInt8) :
    c ∉ encodedByte b := by
  revert b
  refine forall_byte ?_
  rcases hc with rfl | rfl | rfl <;> decide +kernel

/-! ### Segments -/

theorem percentDecoded_flatMap (bs : List UInt8) :
    percentDecoded ((bs.flatMap encodedByte).flatMap String.utf8EncodeChar) = bs := by
  induction bs with
  | nil => rfl
  | cons b bs ih =>
    rw [List.flatMap_cons, List.flatMap_append, percentDecoded_encodedByte, ih]

/-- **The segment stands for the text.** -/
theorem segmentText?_percentEncoded (s : String) : segmentText? (percentEncoded s) = some s := by
  rw [segmentText?, Utf8.bytes_ofList, percentEncoded, percentDecoded_flatMap, Utf8.text?_bytes]

theorem not_mem_percentEncoded {c : Char} (hc : c = '/' ∨ c = '?' ∨ c = '#') (s : String) :
    c ∉ percentEncoded s := by
  rw [percentEncoded, List.mem_flatMap]
  rintro ⟨b, -, hmem⟩
  exact not_mem_encodedByte hc b hmem

/-- Different texts are put into different segments. -/
theorem percentEncoded_injective : Function.Injective percentEncoded := by
  intro s t h
  have hs := segmentText?_percentEncoded s
  rw [h, segmentText?_percentEncoded] at hs
  exact (Option.some.inj hs).symm

end VisitBooking.Http
