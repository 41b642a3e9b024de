import VisitBooking.Json.Tree

/-!
# Writing values

Values are written without blanks, the members of an object in their order.

## Main definitions

* `Value.tokens`, `Token.chars`, `Value.print`.
-/

namespace VisitBooking.Json

mutual

/-- The tokens of a value. -/
def Value.tokens : Value → List Token
  | .null => [.null]
  | .bool b => [.bool b]
  | .number n => [.number n]
  | .text s => [.text s]
  | .list items => .openList :: (Value.itemTokens items ++ [.closeList])
  | .object members => .openObject :: (Value.memberTokens members ++ [.closeObject])

/-- The tokens of the items of a list, with commas between them. -/
def Value.itemTokens : List Value → List Token
  | [] => []
  | [v] => v.tokens
  | v :: w :: vs => v.tokens ++ .comma :: Value.itemTokens (w :: vs)

/-- The tokens of the members of an object, with commas between them. -/
def Value.memberTokens : List (String × Value) → List Token
  | [] => []
  | [(k, v)] => .text k :: .colon :: v.tokens
  | (k, v) :: m :: ms => .text k :: .colon :: (v.tokens ++ .comma :: Value.memberTokens (m :: ms))

end

/-- A number as it is written. The power of ten follows the letter e. -/
def Number.chars (n : Number) : List Char :=
  (if n.negative then ['-'] else []) ++ Text.decimal n.digits ++
    match n.exponent with
    | none => []
    | some e => 'e' :: Text.signed e

/-- A token as it is written; a broken one has no written form. -/
def Token.chars : Token → List Char
  | .openObject => ['\x7b']
  | .closeObject => ['\x7d']
  | .openList => ['[']
  | .closeList => [']']
  | .colon => [':']
  | .comma => [',']
  | .null => ['n', 'u', 'l', 'l']
  | .bool true => ['t', 'r', 'u', 'e']
  | .bool false => ['f', 'a', 'l', 's', 'e']
  | .number n => n.chars
  | .text s => quotation s
  | .brokenText _ _ | .brokenNull _ | .broken _ _ | .stray => []

/-- A value as it is written. -/
def Value.print (v : Value) : String := String.ofList (v.tokens.flatMap Token.chars)

end VisitBooking.Json
