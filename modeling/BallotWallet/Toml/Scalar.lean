import BallotWallet.Bytes.Hex
import BallotWallet.Document

/-!
# Plain values of a TOML text

Texts in their four forms, whole numbers in four bases, floating point numbers, days and times of
day. Line breaks are single line feeds here. A reader takes what it needs from the front of the
characters and yields what is left.
-/

namespace BallotWallet.Toml

/-! ## Gaps -/

def isGap (c : Char) : Bool :=
  c == ' ' || c == '\t'

def isLineGap (c : Char) : Bool :=
  isGap c || c == '\n'

/-- The characters without white space in front, within the line. -/
def skipGaps (cs : List Char) : List Char :=
  cs.dropWhile isGap

/-- A control character, which may stand nowhere; the tab is none. -/
def isControl (c : Char) : Bool :=
  (c.toNat < 0x20 && c != '\t') || c.toNat == 0x7f

/-- A control character that may not even stand in a text of several lines. -/
def isLineControl (c : Char) : Bool :=
  isControl c && c != '\n'

/-- The characters without a comment in front, which lasts up to the end of the line. -/
def skipComment : List Char → Except Failure (List Char)
  | '#' :: cs =>
    let comment := cs.takeWhile (· != '\n')
    if comment.any isControl then .error .badToml else .ok (cs.drop comment.length)
  | cs => .ok cs

/-! ## Texts -/

/-- The character that `width` hexadecimal digits name. -/
def readCode? (width : Nat) (cs : List Char) : Option (List Char × List Char) := do
  let digits ← (cs.take width).mapM Hex.value?
  let n := digits.foldl (fun n d => n * 16 + d) 0
  if digits.length = width && n.isValidChar then
    some ([Char.ofNat n], cs.drop width)
  else none

/-- The character that a letter behind a backslash stands for. -/
def shortEscape? (c : Char) : Option Char :=
  if c == 'b' then some '\x08'
  else if c == 't' then some '\t'
  else if c == 'n' then some '\n'
  else if c == 'f' then some '\x0c'
  else if c == 'r' then some '\r'
  else if c == '"' || c == '\\' then some c
  else none

/-- The characters behind a backslash that hides the end of a line and all white space up to the
next word. -/
def skipLineEnd? (cs : List Char) : Option (List Char) :=
  match skipGaps cs with
  | '\n' :: rest => some (rest.dropWhile isLineGap)
  | _ => none

/-- What stands for the characters behind a backslash, in a text of one or several lines. -/
def readEscape? (multiline : Bool) : List Char → Option (List Char × List Char)
  | [] => none
  | c :: cs =>
    if multiline && isLineGap c then (skipLineEnd? (c :: cs)).map fun rest => ([], rest)
    else if c == 'u' then readCode? 4 cs
    else if c == 'U' then readCode? 8 cs
    else (shortEscape? c).map fun d => ([d], cs)

/-- The characters of a text with escapes up to its closing quotes. -/
def readBasic? (multiline : Bool) : Nat → List Char → Option (List Char × List Char)
  | 0, _ => none
  | _ + 1, [] => none
  | fuel + 1, c :: cs => do
    if c == '"' then
      if multiline then
        match cs with
        | '"' :: '"' :: rest => some ([], rest)
        | _ =>
          let (ds, rest) ← readBasic? multiline fuel cs
          some (c :: ds, rest)
      else some ([], cs)
    else if c == '\\' then
      let (d, rest) ← readEscape? multiline cs
      let (ds, rest) ← readBasic? multiline fuel rest
      some (d ++ ds, rest)
    else if isControl c && !(multiline && c == '\n') then none
    else
      let (ds, rest) ← readBasic? multiline fuel cs
      some (c :: ds, rest)

/-- The characters of a text without escapes up to its closing quote. -/
def readLiteral? (cs : List Char) : Option (List Char × List Char) :=
  let ds := cs.takeWhile (· != '\'')
  match cs.drop ds.length with
  | _ :: rest => if ds.any isControl then none else some (ds, rest)
  | [] => none

/-- The characters of a text of several lines without escapes up to its closing quotes. -/
def readLiteralLines? : List Char → Option (List Char × List Char)
  | '\'' :: '\'' :: '\'' :: rest => some ([], rest)
  | c :: cs =>
    if isLineControl c then none
    else (readLiteralLines? cs).map fun (ds, rest) => (c :: ds, rest)
  | [] => none

/-- The characters of a text of several lines, with up to two quotes more that stand behind its
closing quotes and belong to it. -/
def takeQuotes (quote : Char) (ds : List Char) : List Char → List Char × List Char
  | a :: b :: rest =>
    if a == quote then
      if b == quote then (ds ++ [a, b], rest) else (ds ++ [a], b :: rest)
    else (ds, a :: b :: rest)
  | [a] => if a == quote then (ds ++ [a], []) else (ds, [a])
  | [] => (ds, [])

/-- The characters of a text of several lines without a line break at the start. -/
def dropFirstBreak : List Char → List Char
  | '\n' :: cs => cs
  | cs => cs

def textOf (read : Option (List Char × List Char)) : Except Failure (Text × List Char) :=
  match read with
  | some (ds, rest) => .ok (Text.ofChars ds, rest)
  | none => .error .badToml

/-- A text of one line with escapes, given what stands behind its opening quote. -/
def readBasicLine (cs : List Char) : Except Failure (Text × List Char) :=
  textOf (readBasic? false (cs.length + 1) cs)

/-- A text in any form, if the characters start with a quote. -/
def readText? : List Char → Option (Except Failure (Text × List Char))
  | '"' :: '"' :: '"' :: cs =>
    let cs := dropFirstBreak cs
    some (textOf ((readBasic? true (cs.length + 1) cs).map fun (ds, rest) =>
      takeQuotes '"' ds rest))
  | '"' :: cs => some (readBasicLine cs)
  | '\'' :: '\'' :: '\'' :: cs =>
    some (textOf ((readLiteralLines? (dropFirstBreak cs)).map fun (ds, rest) =>
      takeQuotes '\'' ds rest))
  | '\'' :: cs => some (textOf (readLiteral? cs))
  | _ => none

/-! ## Days and times -/

/-- A number of exactly `width` digits that is at least `least` and at most `most`. -/
def readDigits? (width least most : Nat) (cs : List Char) : Option (Nat × List Char) :=
  let ds := cs.take width
  let n := Numeral.ofDigits ds
  if ds.length = width && ds.all Char.isDigit && least ≤ n && n ≤ most then
    some (n, cs.drop width)
  else none

/-- The characters behind the first one, which must be `c`. -/
def expect? (c : Char) : List Char → Option (List Char)
  | d :: cs => if c == d then some cs else none
  | [] => none

/-- A day, which the calendar need not have. -/
def readDay? (cs : List Char) : Option (Time.Date × List Char) := do
  let (year, cs) ← readDigits? 4 0 9999 cs
  let (month, cs) ← expect? '-' cs >>= readDigits? 2 1 12
  let (day, cs) ← expect? '-' cs >>= readDigits? 2 1 31
  some (⟨year, month, day⟩, cs)

/-- The microseconds of a fraction of a second, of which the first six digits count; zero if there
is no fraction. -/
def readMicros : List Char → Nat × List Char
  | '.' :: cs =>
    let ds := cs.takeWhile Char.isDigit
    if ds.isEmpty then (0, '.' :: cs)
    else
      let six := (ds ++ List.replicate 6 '0').take 6
      (Numeral.ofDigits six, cs.drop ds.length)
  | cs => (0, cs)

def readTime? (cs : List Char) : Option (Time.TimeOfDay × List Char) := do
  let (hour, cs) ← readDigits? 2 0 23 cs
  let (minute, cs) ← expect? ':' cs >>= readDigits? 2 0 59
  let (second, cs) ← expect? ':' cs >>= readDigits? 2 0 59
  let (micro, cs) := readMicros cs
  some (⟨hour, minute, second, micro⟩, cs)

/-- An offset from universal time in minutes. -/
def readOffset? : List Char → Option (Int × List Char)
  | [] => none
  | c :: cs =>
    if c == 'Z' || c == 'z' then some (0, cs)
    else if c == '+' || c == '-' then do
      let (hours, cs) ← readDigits? 2 0 23 cs
      let (minutes, cs) ← expect? ':' cs >>= readDigits? 2 0 59
      let n : Int := (hours * 60 + minutes : Nat)
      some (if c == '-' then -n else n, cs)
    else none

/-- The time of day behind a day, after a blank or the letter for times. -/
def readDayTime? : List Char → Option (Time.TimeOfDay × List Char)
  | c :: cs => if c == 'T' || c == 't' || c == ' ' then readTime? cs else none
  | [] => none

/-- What follows a day to make a moment of it. -/
def readMomentOn (d : Time.Date) (cs : List Char) : Time.Moment × List Char :=
  match readDayTime? cs with
  | none => (.day d, cs)
  | some (t, rest) =>
    match readOffset? rest with
    | some (offset, rest) => (.both d t (some offset), rest)
    | none => (.both d t none, rest)

/-- A day, a time of day or both, if the characters start with one. -/
def readMoment? (cs : List Char) : Option (Except Failure (Time.Moment × List Char)) :=
  match readDay? cs with
  | some (d, rest) => some (if d.isValid then .ok (readMomentOn d rest) else .error .badToml)
  | none => (readTime? cs).map fun (t, rest) => .ok (.time t, rest)

/-! ## Numbers -/

/-- The digits of a group behind a digit, with single low lines between them. -/
def moreDigits (isDigit : Char → Bool) : List Char → List Char
  | [] => []
  | c :: cs =>
    if isDigit c then c :: moreDigits isDigit cs
    else if c == '_' then
      match cs with
      | d :: ds => if isDigit d then c :: d :: moreDigits isDigit ds else []
      | [] => []
    else []

/-- The digits at the front, with single low lines between them. -/
def grouped (isDigit : Char → Bool) : List Char → List Char
  | c :: cs => if isDigit c then c :: moreDigits isDigit cs else []
  | [] => []

/-- The digits of a whole number in base ten: a zero, or digits that do not start with one. -/
def wholePart : List Char → List Char
  | '0' :: _ => ['0']
  | cs => grouped Char.isDigit cs

/-- The fraction of a number with its point, empty if there is none. -/
def fractionPart : List Char → List Char
  | '.' :: cs =>
    let ds := grouped Char.isDigit cs
    if ds.isEmpty then [] else '.' :: ds
  | _ => []

/-- The exponent of a number with its letter and sign, empty if there is none. -/
def exponentPart : List Char → List Char
  | c :: cs =>
    if c == 'e' || c == 'E' then
      let sign := (cs.take 1).filter fun d => d == '+' || d == '-'
      let ds := grouped Char.isDigit (cs.drop sign.length)
      if ds.isEmpty then [] else c :: (sign ++ ds)
    else []
  | [] => []

/-- The number that digits in a base stand for, low lines aside. -/
def numberIn (base : Nat) (ds : List Char) : Nat :=
  (ds.filterMap Hex.value?).foldl (fun n d => n * base + d) 0

/-- The base that a letter behind a zero names. -/
def baseOf? (c : Char) : Option Nat :=
  if c == 'x' then some 16 else if c == 'o' then some 8 else if c == 'b' then some 2 else none

/-- A whole number in another base than ten. -/
def readBased? : List Char → Option (Int × List Char)
  | '0' :: c :: cs => do
    let base ← baseOf? c
    let ds := grouped (fun d => (Hex.value? d).any (· < base)) cs
    if ds.isEmpty then none else some ((numberIn base ds : Int), cs.drop ds.length)
  | _ => none

/-- The sign in front of a number, empty if there is none. -/
def signPart (cs : List Char) : List Char :=
  (cs.take 1).filter fun c => c == '+' || c == '-'

/-- A number in base ten, if the characters start with one. -/
def readDecimal? (cs : List Char) : Option (Except Failure (Document × List Char)) :=
  let sign := signPart cs
  let whole := wholePart (cs.drop sign.length)
  if whole.isEmpty then none
  else
    let rest := cs.drop (sign.length + whole.length)
    let fraction := fractionPart rest
    let exponent := exponentPart (rest.drop fraction.length)
    let written := Text.ofChars (sign ++ whole ++ fraction ++ exponent)
    let rest := rest.drop (fraction.length + exponent.length)
    some <|
      if fraction.isEmpty && exponent.isEmpty then
        match Numeral.toInt? written with
        | some n => .ok (.int n, rest)
        | none => .error .badValue
      else
        match Binary64.ofText? written with
        | some x => .ok (.float x, rest)
        | none => .error .badToml

/-- The numbers that are written as words, and the words. -/
def numberWords : List (String × Binary64) :=
  [("inf", .inf false), ("+inf", .inf false), ("-inf", .inf true), ("nan", .nan),
    ("+nan", .nan), ("-nan", .nan)]

/-- The values that are written as words, and the words. -/
def words : List (String × Document) :=
  [("true", .bool true), ("false", .bool false)] ++
    numberWords.map fun w => (w.1, .float w.2)

/-- A value that is written as a word. -/
def readWord? (cs : List Char) : Option (Document × List Char) :=
  words.findSome? fun w =>
    let word := w.1.toList
    if word.isPrefixOf cs then some (w.2, cs.drop word.length) else none

/-- A value that contains no other values. -/
def readScalar (cs : List Char) : Except Failure (Document × List Char) :=
  match readText? cs with
  | some read => read.map fun (t, rest) => (.text t, rest)
  | none =>
    match readMoment? cs with
    | some read => read.map fun (m, rest) => (.moment m, rest)
    | none =>
      match readBased? cs with
      | some (n, rest) => .ok (.int n, rest)
      | none =>
        match readDecimal? cs with
        | some read => read
        | none =>
          match readWord? cs with
          | some found => .ok found
          | none => .error .badToml

end BallotWallet.Toml
