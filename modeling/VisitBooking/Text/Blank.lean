/-!
# White space

The characters with the Unicode property `White_Space`, and their removal from the front of a
text. Readers of calendar texts skip them between the parts of a date.
-/

namespace VisitBooking.Text

/-- The Unicode property `White_Space`. -/
def isBlank (c : Char) : Bool :=
  let n := c.toNat
  (0x09 ≤ n && n ≤ 0x0D) || n == 0x20 || n == 0x85 || n == 0xA0 || n == 0x1680 ||
    (0x2000 ≤ n && n ≤ 0x200A) || n == 0x2028 || n == 0x2029 || n == 0x202F || n == 0x205F ||
    n == 0x3000

/-- `s` without the white space at its front. -/
def trimStart (s : List Char) : List Char := s.dropWhile isBlank

end VisitBooking.Text
