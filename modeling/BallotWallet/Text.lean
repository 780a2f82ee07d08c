import BallotWallet.Text.CodePoint

/-!
# Texts

A text is a sequence of code points. Every string is a text; a text is a string unless halves of
surrogate pairs stand alone in it.
-/

namespace BallotWallet

/-- A text. -/
structure Text where
  points : List Text.CodePoint
  deriving DecidableEq, Inhabited

namespace Text

def ofChars (cs : List Char) : Text :=
  ⟨cs.map .char⟩

def ofString (s : String) : Text :=
  ofChars s.toList

instance : Coe String Text := ⟨ofString⟩

/-- The characters of a text, if it has nothing else. -/
def chars? (t : Text) : Option (List Char) :=
  t.points.mapM CodePoint.char?

/-- The string that a text is, if it is one. -/
def string? (t : Text) : Option String :=
  t.chars?.map String.ofList

/-- One text and another one behind it. -/
protected def append (t u : Text) : Text :=
  ⟨t.points ++ u.points⟩

instance : Append Text := ⟨Text.append⟩

/-- Whether a text has no code points. -/
def isEmpty (t : Text) : Bool :=
  t.points.isEmpty

/-- The first `n` code points of a text. -/
def take (n : Nat) (t : Text) : Text :=
  ⟨t.points.take n⟩

def hasChar (c : Char) (t : Text) : Bool :=
  t.points.contains (.char c)

def join (sep : Text) : List Text → Text
  | [] => ""
  | [t] => t
  | t :: ts => t ++ sep ++ join sep ts

/-- Whether some code points do not come after others: the first difference decides, and what is
shorter comes before what goes on. -/
def pointsLe : List CodePoint → List CodePoint → Bool
  | [], _ => true
  | _ :: _, [] => false
  | p :: ps, q :: qs => p.toNat < q.toNat || (p.toNat == q.toNat && pointsLe ps qs)

/-- Whether a text does not come after another one in the order of their code points. -/
def le (t u : Text) : Bool :=
  pointsLe t.points u.points

/-- The characters that a text is made of are its characters. -/
theorem chars?_ofChars (cs : List Char) : (ofChars cs).chars? = some cs := by
  unfold chars? ofChars
  induction cs with
  | nil => rfl
  | cons c cs ih =>
    simp only [List.map_cons, List.mapM_cons, CodePoint.char?]
    simp [ih]

theorem string?_ofString (s : String) : (ofString s).string? = some s := by
  simp [string?, ofString, chars?_ofChars]

end Text

end BallotWallet
