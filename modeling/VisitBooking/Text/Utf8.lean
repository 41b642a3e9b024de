/-!
# UTF-8

Bytes are cut into characters and runs of bytes that belong to none. A run ends where the byte at
hand cannot continue the character that was begun.

## Main definitions

* `Utf8.pieces`: characters and stray runs.
* `Utf8.text?`: the text, if all bytes belong to characters.
* `Utf8.lossyText`: the text with a replacement character for each stray run.
* `Utf8.perByte`: the characters, with `none` for each stray byte.
-/

namespace VisitBooking.Text.Utf8

/-- A character, or a run of bytes that belong to none. -/
inductive Piece where
  | char (c : Char)
  | stray (count : Nat)
deriving DecidableEq, Repr, Inhabited

/-- The byte is one that continues a character. -/
def isContinuation (b : UInt8) : Bool := 0x80 ≤ b && b ≤ 0xBF

/-- The byte may follow the first byte of a character of three or four bytes. -/
def isSecond (first second : UInt8) : Bool :=
  if first = 0xE0 then 0xA0 ≤ second && second ≤ 0xBF
  else if first = 0xED then 0x80 ≤ second && second ≤ 0x9F
  else if first = 0xF0 then 0x90 ≤ second && second ≤ 0xBF
  else if first = 0xF4 then 0x80 ≤ second && second ≤ 0x8F
  else isContinuation second

/-- The low six bits of a byte. -/
def lowBits (b : UInt8) : Nat := b.toNat % 64

/-- The piece that begins with the byte `a`, and its number of bytes. -/
def front (a : UInt8) (s : List UInt8) : Piece × Nat :=
  let stray (n : Nat) : Piece × Nat := (.stray n, n)
  if a < 0x80 then (.char (Char.ofNat a.toNat), 1)
  else if 0xC2 ≤ a ∧ a ≤ 0xDF then
    match s with
    | b :: _ =>
      if isContinuation b then (.char (Char.ofNat (a.toNat % 32 * 64 + lowBits b)), 2) else stray 1
    | [] => stray 1
  else if 0xE0 ≤ a ∧ a ≤ 0xEF then
    match s with
    | b :: r =>
      if isSecond a b then
        match r with
        | c :: _ =>
          if isContinuation c then
            (.char (Char.ofNat ((a.toNat % 16 * 64 + lowBits b) * 64 + lowBits c)), 3)
          else stray 2
        | [] => stray 2
      else stray 1
    | [] => stray 1
  else if 0xF0 ≤ a ∧ a ≤ 0xF4 then
    match s with
    | b :: r =>
      if isSecond a b then
        match r with
        | c :: r =>
          if isContinuation c then
            match r with
            | d :: _ =>
              if isContinuation d then
                (.char (Char.ofNat
                  (((a.toNat % 8 * 64 + lowBits b) * 64 + lowBits c) * 64 + lowBits d)), 4)
              else stray 3
            | [] => stray 3
          else stray 2
        | [] => stray 2
      else stray 1
    | [] => stray 1
  else stray 1

/-- The pieces of bytes of which the first `skip` belong to the piece before. -/
def piecesFrom : Nat → List UInt8 → List Piece
  | _, [] => []
  | skip + 1, _ :: s => piecesFrom skip s
  | 0, a :: s =>
    let (piece, width) := front a s
    piece :: piecesFrom (width - 1) s

/-- Characters and stray runs. -/
def pieces (s : List UInt8) : List Piece := piecesFrom 0 s

/-- The character of a piece that is one. -/
def Piece.char? : Piece → Option Char
  | .char c => some c
  | .stray _ => none

/-- The text, if all bytes belong to characters. -/
def text? (s : List UInt8) : Option String := ((pieces s).mapM Piece.char?).map String.ofList

/-- The text with a replacement character for each stray run. -/
def lossyText (s : List UInt8) : String :=
  String.ofList ((pieces s).map fun p => p.char?.getD '\ufffd')

/-- The characters, with `none` for each stray byte. -/
def perByte (s : List UInt8) : List (Option Char) :=
  (pieces s).flatMap fun
    | .char c => [some c]
    | .stray n => List.replicate n none

/-- The bytes of a text. -/
def bytes (s : String) : List UInt8 := s.toUTF8.toList

end VisitBooking.Text.Utf8
