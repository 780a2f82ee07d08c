import Std.Data.HashMap
import BallotWallet.Text.DecompositionTable

/-!
# Compatibility decomposition

A text is brought to the form in which every character is taken apart as far as it goes and the
marks on a letter stand in the order of their classes. Texts that look alike then agree, which a
secret phrase needs.
-/

namespace BallotWallet.Text

/-- The number written by hexadecimal digits; other characters count as nothing. -/
def hexNumber (cs : List Char) : Nat :=
  cs.foldl (fun n c =>
    if '0' ≤ c ∧ c ≤ '9' then n * 16 + (c.toNat - 48)
    else if 'a' ≤ c ∧ c ≤ 'f' then n * 16 + (c.toNat - 87)
    else n) 0

/-- The table of the entries: a finished part of the table, the numbers of the entry read so far
in reverse, and the digits of the number in progress in reverse. -/
def readEntries (table : Std.HashMap Nat (List Nat)) (numbers : List Nat) (digits : List Char) :
    List Char → Std.HashMap Nat (List Nat)
  | [] => table
  | c :: cs =>
    if c == ';' then
      match (hexNumber digits.reverse :: numbers).reverse with
      | [] => readEntries table [] [] cs
      | n :: parts => readEntries (table.insert n parts) [] [] cs
    else if c == '=' || c == ' ' then
      readEntries table (hexNumber digits.reverse :: numbers) [] cs
    else readEntries table numbers (c :: digits) cs

/-- The parts of the characters that no simpler rule covers. -/
def decompositions : Std.HashMap Nat (List Nat) :=
  readEntries ∅ [] [] (DecompositionTable.entries.flatMap String.toList)

/-- The parts of a Hangul syllable, given its number among them. -/
def syllableParts (s : Nat) : List Nat :=
  let parts := [0x1100 + s / 588, 0x1161 + s % 588 / 28]
  if s % 28 == 0 then parts else parts ++ [0x11a7 + s % 28]

/-- The parts of a character, none of which comes apart any further. -/
def parts (c : Char) : List Char :=
  let n := c.toNat
  if n < 0xa0 then [c]
  else if 0xac00 ≤ n && n < 0xd7a4 then (syllableParts (n - 0xac00)).map Char.ofNat
  else
    match decompositions[n]? with
    | some ns => ns.map Char.ofNat
    | none =>
      match DecompositionTable.shifts.find? fun r =>
          r.1 ≤ n && n ≤ r.2.1 && (n - r.1) % r.2.2.1 == 0 with
      | some r => [Char.ofNat (n + r.2.2.2).toNat]
      | none => [c]

/-- The class of a mark, zero for everything else. -/
def markClass (c : Char) : Nat :=
  if c.toNat < 0x300 then 0
  else
    match DecompositionTable.classes.find? fun r => r.1 ≤ c.toNat && c.toNat ≤ r.2.1 with
    | some r => r.2.2
    | none => 0

/-- Marks in the order of their classes, marks of one class in the order given. -/
def sortMarks (marks : List Char) : List Char :=
  marks.mergeSort fun a b => markClass a ≤ markClass b

/-- The characters with every run of marks sorted; `marks` is the run read so far. -/
def arrange (marks : List Char) : List Char → List Char
  | [] => sortMarks marks
  | c :: cs =>
    if markClass c == 0 then sortMarks marks ++ c :: arrange [] cs
    else arrange (marks ++ [c]) cs

/-- The text taken apart and its marks sorted. -/
def decompose (s : String) : String :=
  String.ofList (arrange [] (s.toList.flatMap parts))

end BallotWallet.Text
