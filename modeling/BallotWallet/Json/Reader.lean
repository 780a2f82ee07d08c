import BallotWallet.Bytes.Hex
import BallotWallet.Document
import BallotWallet.Text.Encoding

/-!
# Reading JSON

The reader accepts the standard grammar and the names `NaN`, `Infinity` and `-Infinity`. Of two
fields with one name the later value counts, in the place of the earlier one. Whole numbers keep
all their digits, up to a limit; other numbers are rounded to floating point. Lists and objects
may stand inside one another only so many times.
-/

namespace BallotWallet.Json

open Text (CodePoint)

def isGap : CodePoint → Bool
  | .char c => c == ' ' || c == '\t' || c == '\n' || c == '\r'
  | .half _ => false

/-- The code points without the white space in front. -/
def skip (ps : List CodePoint) : List CodePoint :=
  ps.dropWhile isGap

/-! ## Texts -/

/-- The unit that four hexadecimal digits stand for, and what follows them. -/
def readUnit? : List CodePoint → Option (Nat × List CodePoint)
  | .char a :: .char b :: .char c :: .char d :: rest => do
    let a ← Hex.value? a
    let b ← Hex.value? b
    let c ← Hex.value? c
    let d ← Hex.value? d
    some (((a * 16 + b) * 16 + c) * 16 + d, rest)
  | _ => none

def shortEscape? (c : Char) : Option Char :=
  if c == '"' || c == '\\' || c == '/' then some c
  else if c == 'b' then some (Char.ofNat 8)
  else if c == 'f' then some (Char.ofNat 12)
  else if c == 'n' then some '\n'
  else if c == 'r' then some '\r'
  else if c == 't' then some '\t'
  else none

/-- The unit of an escape of its own at the front, and what follows it. -/
def nextUnit? : List CodePoint → Option (Nat × List CodePoint)
  | .char '\\' :: .char 'u' :: rest => readUnit? rest
  | _ => none

/-- The code point of the unit `n` of an escape, and what follows it, given what stands behind
the escape: the first half of a pair takes the second one from the next escape. -/
def pairUp (n : Nat) (rest : List CodePoint) : CodePoint × List CodePoint :=
  match nextUnit? rest with
  | some (m, after) =>
    if CodePoint.isFirstHalf n && CodePoint.isSecondHalf m then (.ofPair n m, after)
    else (.ofNat n, rest)
  | none => (.ofNat n, rest)

/-- The code point of an escape, given what stands behind the backslash, and what follows it. -/
def readEscape? : List CodePoint → Option (CodePoint × List CodePoint)
  | .char 'u' :: rest => (readUnit? rest).map fun (n, rest) => pairUp n rest
  | .char c :: rest => (shortEscape? c).map fun d => (.char d, rest)
  | _ => none

/-- The code points of a text up to its closing quote, and what follows that. -/
def readPoints? : Nat → List CodePoint → Option (List CodePoint × List CodePoint)
  | 0, _ => none
  | _ + 1, [] => none
  | fuel + 1, p :: ps =>
    if p == .char '"' then some ([], ps)
    else if p == .char '\\' then do
      let (q, rest) ← readEscape? ps
      let (qs, rest) ← readPoints? fuel rest
      some (q :: qs, rest)
    else if p.toNat < 0x20 then none
    else do
      let (qs, rest) ← readPoints? fuel ps
      some (p :: qs, rest)

/-- A text, given what stands behind its opening quote. -/
def readText (ps : List CodePoint) : Except Failure (Text × List CodePoint) :=
  match readPoints? (ps.length + 1) ps with
  | some (qs, rest) => .ok (⟨qs⟩, rest)
  | none => .error .badJson

/-! ## Numbers and names -/

/-- Whether a character may stand in a number. -/
def isNumeric (c : Char) : Bool :=
  c.isDigit || c == '.' || c == 'e' || c == 'E' || c == '+' || c == '-'

/-- The characters in front that may stand in a number. -/
def numericFront : List CodePoint → List Char
  | .char c :: ps => if isNumeric c then c :: numericFront ps else []
  | _ => []

/-- The digits of the whole part of a number: a zero, or digits that do not start with one. -/
def wholeDigits : List Char → List Char
  | '0' :: _ => ['0']
  | cs => cs.takeWhile Char.isDigit

/-- The fraction of a number with its point, empty if there is none. -/
def fractionDigits : List Char → List Char
  | '.' :: cs =>
    let ds := cs.takeWhile Char.isDigit
    if ds.isEmpty then [] else '.' :: ds
  | _ => []

/-- The exponent of a number with its letter and sign, empty if there is none. -/
def exponentDigits : List Char → List Char
  | c :: cs =>
    if c == 'e' || c == 'E' then
      let sign := cs.takeWhile fun d => d == '+' || d == '-'
      let ds := (cs.drop sign.length).takeWhile Char.isDigit
      if sign.length ≤ 1 && !ds.isEmpty then c :: (sign ++ ds) else []
    else []
  | [] => []

def readNumber (negative : Bool) (ps : List CodePoint) :
    Except Failure (Document × List CodePoint) :=
  let cs := numericFront ps
  let whole := wholeDigits cs
  if whole.isEmpty then .error .badJson
  else
    let fraction := fractionDigits (cs.drop whole.length)
    let exponent := exponentDigits (cs.drop (whole.length + fraction.length))
    let rest := ps.drop (whole.length + fraction.length + exponent.length)
    if fraction.isEmpty && exponent.isEmpty then
      if Numeral.maxDigits < whole.length then .error .badValue
      else .ok (.int (Numeral.signed negative whole), rest)
    else
      match Binary64.ofPlain? negative (whole ++ fraction ++ exponent) with
      | some x => .ok (.float x, rest)
      | none => .error .badJson

/-- What follows `word`, if the code points start with it. -/
def dropWord? : List Char → List CodePoint → Option (List CodePoint)
  | [], ps => some ps
  | w :: ws, p :: ps => if p == .char w then dropWord? ws ps else none
  | _ :: _, [] => none

/-- The names of values, and the values. -/
def names : List (String × Document) :=
  [("null", .null), ("true", .bool true), ("false", .bool false), ("NaN", .float Binary64.nan),
    ("Infinity", .float (Binary64.inf false)), ("-Infinity", .float (Binary64.inf true))]

/-- A named value at the front, and what follows it. -/
def readName? (ps : List CodePoint) : Option (Document × List CodePoint) :=
  names.findSome? fun n => (dropWord? n.1.toList ps).map fun rest => (n.2, rest)

/-- A value that is neither a text nor a list nor an object. -/
def readPlain (ps : List CodePoint) : Except Failure (Document × List CodePoint) :=
  match readName? ps with
  | some found => .ok found
  | none =>
    match ps with
    | .char '-' :: rest => readNumber true rest
    | _ => readNumber false ps

/-! ## Documents -/

/-- How many times lists and objects may stand inside one another. -/
def maxDepth : Nat := 985

mutual

/-- A value in which lists and objects may stand inside one another `depth` times. -/
def readValue : Nat → Nat → List CodePoint → Except Failure (Document × List CodePoint)
  | 0, _, _ => .error .badJson
  | fuel + 1, depth, ps =>
    match ps with
    | .char '"' :: rest => do
      let (t, rest) ← readText rest
      .ok (.text t, rest)
    | .char '[' :: rest =>
      match depth, skip rest with
      | 0, _ => .error .tooDeep
      | _, .char ']' :: rest => .ok (.list [], rest)
      | depth + 1, rest => do
        let (items, rest) ← readItems fuel depth rest
        .ok (.list items, rest)
    | .char '\x7b' :: rest =>
      match depth, skip rest with
      | 0, _ => .error .tooDeep
      | _, .char '\x7d' :: rest => .ok (.object [], rest)
      | depth + 1, rest => do
        let (fields, rest) ← readFields fuel depth [] rest
        .ok (.object fields, rest)
    | ps => readPlain ps

/-- The items of a list up to its end. -/
def readItems : Nat → Nat → List CodePoint → Except Failure (List Document × List CodePoint)
  | 0, _, _ => .error .badJson
  | fuel + 1, depth, ps => do
    let (item, rest) ← readValue fuel depth ps
    match skip rest with
    | .char ']' :: rest => .ok ([item], rest)
    | .char ',' :: rest => do
      let (items, rest) ← readItems fuel depth (skip rest)
      .ok (item :: items, rest)
    | _ => .error .badJson

/-- The fields of an object up to its end, after the fields `before`. -/
def readFields : Nat → Nat → List (Text × Document) → List CodePoint →
    Except Failure (List (Text × Document) × List CodePoint)
  | 0, _, _, _ => .error .badJson
  | fuel + 1, depth, before, ps =>
    match ps with
    | .char '"' :: rest => do
      let (name, rest) ← readText rest
      match skip rest with
      | .char ':' :: rest => do
        let (value, rest) ← readValue fuel depth (skip rest)
        let fields := Document.setField name value before
        match skip rest with
        | .char '\x7d' :: rest => .ok (fields, rest)
        | .char ',' :: rest => readFields fuel depth fields (skip rest)
        | _ => .error .badJson
      | _ => .error .badJson
    | _ => .error .badJson

end

/-- The document that a text stands for, white space around it aside. -/
def parse (t : Text) : Except Failure Document :=
  match readValue (t.points.length + 1) maxDepth (skip t.points) with
  | .error e => .error e
  | .ok (d, rest) => if (skip rest).isEmpty then .ok d else .error .badJson

/-- The document that bytes in any of the encodings stand for. -/
def parseBytes (bs : Bytes) : Except Failure Document :=
  match Text.jsonText? bs with
  | some t => parse t
  | none => .error .undecodable

end BallotWallet.Json
