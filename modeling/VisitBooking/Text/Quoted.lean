import VisitBooking.Text.Visible

/-!
# Quoted texts in messages

Messages quote the text or the character they complain about, so that a reader sees where it
begins and ends and what it holds. A quoted text stands between double quotes, a quoted character
between single ones. The quote itself, the backslash, the line ends, the tabulator and NUL are
written with a backslash, and every character that is not visible by its code point in
hexadecimal.

## Main definitions

* `quote`: a text in double quotes.
* `quoteChar`: a character in single quotes.
-/

namespace VisitBooking.Text

/-- A code point in lower-case hexadecimal between braces, after a backslash and the letter u. -/
def codePointEscape (c : Char) : List Char :=
  ['\\', 'u', '\x7b'] ++ Nat.toDigits 16 c.toNat ++ ['\x7d']

/-- How `c` is written between quotes of the given kind: only that kind is escaped. -/
def quotedForm (quoteMark c : Char) : List Char :=
  if c = quoteMark ∨ c = '\\' then ['\\', c]
  else if c = '\n' then ['\\', 'n']
  else if c = '\r' then ['\\', 'r']
  else if c = '\t' then ['\\', 't']
  else if c = '\x00' then ['\\', '0']
  else if isVisible c then [c]
  else codePointEscape c

/-- A text in double quotes. -/
def quote (s : String) : String :=
  String.ofList (['"'] ++ s.toList.flatMap (quotedForm '"') ++ ['"'])

/-- A character in single quotes. -/
def quoteChar (c : Char) : String :=
  String.ofList (['\''] ++ quotedForm '\'' c ++ ['\''])

end VisitBooking.Text
