/-!
# Pieces of a text

A text is cut at every character of a class; the cut characters are dropped. There is one piece
more than there are cuts, so pieces may be empty. The words of a text are its pieces between blanks
that are not empty.
-/

namespace VisitBooking.Text

/-- The pieces of a text between the characters of the class `isCut`. -/
def pieces (isCut : Char → Bool) : List Char → List (List Char)
  | [] => [[]]
  | c :: s =>
    if isCut c then [] :: pieces isCut s
    else match pieces isCut s with
      | [] => [[c]]
      | w :: ws => (c :: w) :: ws

/-- The parts of a text between plain spaces. -/
def words (s : List Char) : List (List Char) := (pieces (· == ' ') s).filter (· ≠ [])

/-- What stands before the first `c`, and what stands after it if there is one. -/
def cutAt (c : Char) : List Char → List Char × Option (List Char)
  | [] => ([], none)
  | x :: s => if x = c then ([], some s) else
    let (before, after) := cutAt c s
    (x :: before, after)

end VisitBooking.Text
