import BallotWallet.Text

/-!
# White space and pieces of text

White space is what Unicode calls so, with the four information separators added. The pieces of
a text are taken either between single separators or between runs of white space.
-/

namespace BallotWallet.Text

variable {α : Type}

/-- Whether a character is white space. -/
def isBlank (c : Char) : Bool :=
  let n := c.toNat
  (9 ≤ n && n ≤ 13) || (28 ≤ n && n ≤ 32) || n == 0x85 || n == 0xa0 || n == 0x1680 ||
    (0x2000 ≤ n && n ≤ 0x200a) || n == 0x2028 || n == 0x2029 || n == 0x202f || n == 0x205f ||
    n == 0x3000

/-- The list without the items at its end that satisfy `p`. -/
def dropEndWhile (p : α → Bool) (xs : List α) : List α :=
  (xs.reverse.dropWhile p).reverse

/-- The list without the items at either end that satisfy `p`. -/
def trimWhile (p : α → Bool) (xs : List α) : List α :=
  dropEndWhile p (xs.dropWhile p)

/-- The text without white space at its ends. -/
def strip (t : Text) : Text :=
  ⟨trimWhile (CodePoint.isChar isBlank) t.points⟩

/-- The text without white space at its end. -/
def stripEnd (t : Text) : Text :=
  ⟨dropEndWhile (CodePoint.isChar isBlank) t.points⟩

/-- The stretches between items that satisfy `p`; there is one more than such items. -/
def cut (p : α → Bool) : List α → List (List α)
  | [] => [[]]
  | x :: xs =>
    if p x then [] :: cut p xs
    else
      match cut p xs with
      | [] => [[x]]
      | piece :: pieces => (x :: piece) :: pieces

/-- The pieces of a text between the separators `sep`, empty ones included. -/
def pieces (sep : Char) (t : Text) : List Text :=
  (cut (· == .char sep) t.points).map Text.mk

/-- The words of a text: its pieces between runs of white space. -/
def words (t : Text) : List Text :=
  ((cut (CodePoint.isChar isBlank) t.points).filter (!·.isEmpty)).map Text.mk

/-- The text before the first `sep`, and the text after it. -/
def splitFirst (sep : Char) (t : Text) : Text × Text :=
  (⟨t.points.takeWhile (· != .char sep)⟩, ⟨(t.points.dropWhile (· != .char sep)).drop 1⟩)

end BallotWallet.Text
