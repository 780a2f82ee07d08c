import BallotWallet.Bytes.Hex
import BallotWallet.Text
import BallotWallet.Text.PrintableTable

/-!
# Quoted text

Messages show a text between quotes with everything that cannot be printed escaped. Single
quotes are used unless the text holds single quotes and no double ones.
-/

namespace BallotWallet.Text

def isPrintable (c : Char) : Bool :=
  if c.toNat < 0x7f then 0x20 ≤ c.toNat
  else (printableEdges.takeWhile (· ≤ c.toNat)).length % 2 == 1

/-- The quote to put around a text. -/
def quoteFor (t : Text) : Char :=
  if t.hasChar '\'' && !t.hasChar '"' then '"' else '\''

def quotedChar (quote c : Char) : List Char :=
  if c == quote || c == '\\' then ['\\', c]
  else if c == '\n' then ['\\', 'n']
  else if c == '\r' then ['\\', 'r']
  else if c == '\t' then ['\\', 't']
  else if isPrintable c then [c]
  else if c.toNat < 0x100 then '\\' :: 'x' :: (Hex.ofNat 2 c.toNat).toList
  else if c.toNat < 0x10000 then '\\' :: 'u' :: (Hex.ofNat 4 c.toNat).toList
  else '\\' :: 'U' :: (Hex.ofNat 8 c.toNat).toList

/-- A code point between quotes `quote`; half of a surrogate pair cannot be printed. -/
def quotedPoint (quote : Char) : CodePoint → List Char
  | .char c => quotedChar quote c
  | .half n => '\\' :: 'u' :: (Hex.ofNat 4 (CodePoint.half n).toNat).toList

def quoted (t : Text) : String :=
  let quote := quoteFor t
  String.ofList (quote :: (t.points.flatMap (quotedPoint quote) ++ [quote]))

def quotedList (items : List Text) : String :=
  "[" ++ String.intercalate ", " (items.map quoted) ++ "]"

end BallotWallet.Text
