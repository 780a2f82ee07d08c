import BallotWallet.Text
import BallotWallet.Text.CaseTable

/-!
# Letter case

The lower and the upper case of a text, which may be longer than the text. A capital sigma at
the end of a word becomes a final sigma.
-/

namespace BallotWallet.Text

/-- The number of a character after the first row of the table that it falls under. -/
def shiftBy (table : List (Nat × Nat × Nat × Int)) (n : Nat) : Nat :=
  match table.find? fun r => r.1 ≤ n && n ≤ r.2.1 && (n - r.1) % r.2.2.1 == 0 with
  | some r => (n + r.2.2.2).toNat
  | none => n

def within (ranges : List (Nat × Nat)) (n : Nat) : Bool :=
  ranges.any fun r => r.1 ≤ n && n ≤ r.2

/-- Whether the nearest code point that counts is a letter with a case. -/
def nextIsCased (ps : List CodePoint) : Bool :=
  match ps.dropWhile fun p => within CaseTable.ignorable p.toNat with
  | [] => false
  | p :: _ => within CaseTable.cased p.toNat

/-- The lower case of a character that stands behind the reversed code points `before` and in front
of `after`. -/
def lowerChar (before : List CodePoint) (c : Char) (after : List CodePoint) : List Char :=
  let n := c.toNat
  if n < 0x80 then [if 'A' ≤ c ∧ c ≤ 'Z' then Char.ofNat (n + 32) else c]
  else if n == 0x130 then [Char.ofNat 0x69, Char.ofNat 0x307]
  else if n == 0x3a3 then
    [Char.ofNat (if nextIsCased before && !nextIsCased after then 0x3c2 else 0x3c3)]
  else [Char.ofNat (shiftBy CaseTable.lower n)]

/-- The lower case of the code points that follow the reversed code points `before`. -/
def lowerAfter (before : List CodePoint) : List CodePoint → List CodePoint
  | [] => []
  | .char c :: after =>
    (lowerChar before c after).map .char ++ lowerAfter (.char c :: before) after
  | .half n :: after => .half n :: lowerAfter (.half n :: before) after

def lower (t : Text) : Text :=
  ⟨lowerAfter [] t.points⟩

def upperChar (c : Char) : List Char :=
  let n := c.toNat
  if n < 0x80 then [if 'a' ≤ c ∧ c ≤ 'z' then Char.ofNat (n - 32) else c]
  else
    match CaseTable.expanding.find? fun r => r.1 == n with
    | some r => r.2.map Char.ofNat
    | none => [Char.ofNat (shiftBy CaseTable.upper n)]

def upperPoint : CodePoint → List CodePoint
  | .char c => (upperChar c).map .char
  | .half n => [.half n]

def upper (t : Text) : Text :=
  ⟨t.points.flatMap upperPoint⟩

end BallotWallet.Text
