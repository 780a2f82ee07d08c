import BallotWallet.Text.Blank
import BallotWallet.Text.Digit

/-!
# Numerals

Whole numbers are read from text with white space around them, an optional sign, the digits of
any script, and single low lines between digits. Very long numerals are refused, so that reading
one never takes long.
-/

namespace BallotWallet.Numeral

/-- The number of digits beyond which a numeral is refused. -/
def maxDigits : Nat := 4300

/-- Whether a number has few enough digits to be written. A fragment or a log record with a longer
one fails. The texts of failures write out any number: that a longer one spoils them too is left
out. -/
def isWritable (n : Int) : Bool :=
  n.natAbs < Nat.pow 10 maxDigits

/-- White space that may surround a numeral; the information separators are not among it. -/
def isMargin (c : Char) : Bool :=
  Text.isBlank c && !(28 ≤ c.toNat && c.toNat ≤ 31)

/-- A digit of any script as the ASCII digit, any other character as it is. -/
def plain (c : Char) : Char :=
  if c.toNat < 0x80 then c
  else
    match Text.decimal? c with
    | some n => Char.ofNat (48 + n)
    | none => c

/-- The characters without the low lines between digits, or nothing if a low line stands
elsewhere; `last` is the character before them. -/
def ungroup? (last : Char) : List Char → Option (List Char)
  | [] => if last == '_' then none else some []
  | c :: cs =>
    if c == '_' then (if last.isDigit then ungroup? c cs else none)
    else if last == '_' && !c.isDigit then none
    else (ungroup? c cs).map (c :: ·)

/-- The characters of a numeral, without margins and low lines and with ASCII digits. -/
def core? (t : Text) : Option (List Char) :=
  t.chars?.bind fun cs => ungroup? ' ' ((Text.trimWhile isMargin cs).map plain)

/-- The number written by ASCII digits. -/
def ofDigits (ds : List Char) : Nat :=
  ds.foldl (fun n d => n * 10 + (d.toNat - 48)) 0

/-- The sign in front of a numeral, true for a minus, and what follows it. -/
def splitSign : List Char → Bool × List Char
  | '-' :: cs => (true, cs)
  | '+' :: cs => (false, cs)
  | cs => (false, cs)

/-- The whole number written by digits after a sign. -/
def signed (negative : Bool) (ds : List Char) : Int :=
  if negative then -(ofDigits ds : Int) else ofDigits ds

/-- The whole number that a text stands for. -/
def toInt? (t : Text) : Option Int :=
  match core? t with
  | none => none
  | some cs =>
    let (negative, ds) := splitSign cs
    if ds.isEmpty || !ds.all Char.isDigit || maxDigits < ds.length then none
    else some (signed negative ds)

end BallotWallet.Numeral
