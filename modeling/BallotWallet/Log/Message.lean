import BallotWallet.Document

/-!
# Messages

A log message is a template with arguments to be filled in. A directive starts with a per cent
sign and may name a field of the only argument, and say how wide and how precise the argument is
to be written. A message without arguments is taken as it is.
-/

namespace BallotWallet.Log

/-- How an argument is to be written. -/
structure Directive where
  left : Bool := false
  plus : Bool := false
  blank : Bool := false
  alternate : Bool := false
  zero : Bool := false
  width : Nat := 0
  precision : Option Nat := none

/-- The arguments that are left. -/
structure Supply where
  items : List Document
  /-- The fields of the only argument, if it is an object. -/
  fields : Option (List (Text × Document)) := none

/-- The next argument, and the others. -/
def Supply.next (supply : Supply) : Except Failure (Document × Supply) :=
  match supply.items with
  | d :: ds => .ok (d, { supply with items := ds })
  | [] => .error .wrongKind

/-! ## Numbers -/

/-- The digits of a number in a base, at least `least` of them. -/
def digitsIn (base least n : Nat) : List Char :=
  let ds := Nat.toDigits base n
  List.replicate (least - ds.length) '0' ++ ds

/-- The digits of `n / 10 ^ places` with a point in front of the last `places` of them. -/
def withPoint (alternate : Bool) (places n : Nat) : List Char :=
  let ds := digitsIn 10 (places + 1) n
  let whole := ds.take (ds.length - places)
  if places = 0 then (if alternate then whole ++ ['.'] else whole)
  else whole ++ '.' :: ds.drop (ds.length - places)

/-- The quotient `num / den` times a power of ten, rounded. -/
def scaled (num den : Nat) (power : Int) : Nat :=
  if 0 ≤ power then Binary64.roundQuotient (num * tenTo power) den
  else Binary64.roundQuotient num (den * tenTo (-power))

/-- The digits of `num / den` before its exponent, `places` of them behind the first, and the
exponent. -/
def scientific (num den places : Nat) : Nat × Int :=
  if num = 0 then (0, 0)
  else
    let guess := (Binary64.floorLog2 num den + 1) * 30103 / 100000 + 1
    let top := Binary64.floorLog10 num den 4 guess
    let n := scaled num den (places - top)
    if n < tenTo (places + 1) then (n, top) else (scaled num den (places - top - 1), top + 1)

def exponentForm (alternate : Bool) (places num den : Nat) : List Char :=
  let (n, e) := scientific num den places
  withPoint alternate places n ++ 'e' :: (Binary64.exponentText e).toList

/-- The characters without the zeros behind the point, and without a point at the end. -/
def dropZeros (cs : List Char) : List Char :=
  if cs.contains '.' then
    Text.dropEndWhile (· == '.') (Text.dropEndWhile (· == '0') cs)
  else cs

/-- The number `num / den` with or without an exponent, whichever suits its size. -/
def generalForm (alternate : Bool) (precision num den : Nat) : List Char :=
  let places := max precision 1 - 1
  let (n, e) := scientific num den places
  let tidy (cs : List Char) := if alternate then cs else dropZeros cs
  if -4 ≤ e && e ≤ places then
    let behind := (places - e).toNat
    tidy (withPoint alternate behind (scaled num den behind))
  else tidy (withPoint alternate places n) ++ 'e' :: (Binary64.exponentText e).toList

/-- A floating point number without its sign, in the form that a letter names. -/
def floatForm (d : Directive) (form : Char) (x : Binary64) : List Char :=
  match x.view with
  | .nan => "nan".toList
  | .infinite _ => "inf".toList
  | .finite _ m e =>
    let (num, den) := if 0 ≤ e then (m * twoTo e, 1) else (m, twoTo (-e))
    let precision := d.precision.getD 6
    if form == 'f' then withPoint d.alternate precision (scaled num den precision)
    else if form == 'e' then exponentForm d.alternate precision num den
    else generalForm d.alternate precision num den

/-! ## Padding -/

/-- A list of characters or code points brought to the width of a directive. -/
def padWith {α : Type} (blank : α) (d : Directive) (xs : List α) : List α :=
  let blanks := List.replicate (d.width - xs.length) blank
  if d.left then xs ++ blanks else blanks ++ xs

/-- A number in three parts brought to the width of a directive; zeros go behind the sign and
the mark of the base. -/
def padNumber (d : Directive) (negative : Bool) (mark digits : List Char) : List Char :=
  let sign := if negative then ['-'] else if d.plus then ['+'] else if d.blank then [' '] else []
  if d.zero && !d.left then
    sign ++ mark ++ List.replicate (d.width - (sign ++ mark ++ digits).length) '0' ++ digits
  else padWith ' ' d (sign ++ mark ++ digits)

/-! ## Directives -/

/-- An argument as a whole number; a floating point number is cut if `cut` allows it. -/
def wholeNumber (cut : Bool) : Document → Except Failure Int
  | .float x => if cut then (Document.float x).toInt else .error .wrongKind
  | .text _ => .error .wrongKind
  | d => d.toInt

/-- An argument as a floating point number. -/
def floatNumber : Document → Except Failure Binary64
  | .float x => .ok x
  | .int n =>
    match Binary64.ofInt? n with
    | some x => .ok x
    | none => .error .overflow
  | .bool b => .ok (Binary64.ofInt (if b then 1 else 0))
  | _ => .error .wrongKind

/-- A quoted form in which everything beyond ASCII is escaped. -/
def asciiForm (s : String) : String :=
  String.ofList (s.toList.flatMap fun c =>
    if c.toNat < 0x80 then [c]
    else if c.toNat < 0x100 then '\\' :: 'x' :: (Hex.ofNat 2 c.toNat).toList
    else if c.toNat < 0x10000 then '\\' :: 'u' :: (Hex.ofNat 4 c.toNat).toList
    else '\\' :: 'U' :: (Hex.ofNat 8 c.toNat).toList)

/-- A text cut to the precision of a directive and brought to its width. -/
def writeText (d : Directive) (t : Text) : Text :=
  ⟨padWith (.char ' ') d (match d.precision with
    | some p => t.points.take p
    | none => t.points)⟩

def writeWhole (d : Directive) (base : Nat) (mark : List Char) (n : Int) : List Char :=
  padNumber d (n < 0) (if d.alternate then mark else [])
    (digitsIn base (d.precision.getD 0) n.natAbs)

/-- The letter of an argument that is one code point or the number of one. -/
def letter : Document → Except Failure Text
  | .text ⟨[p]⟩ => .ok ⟨[p]⟩
  | .int n => if 0 ≤ n && n < 0x110000 then .ok ⟨[.ofNat n.toNat]⟩ else .error .overflow
  | .bool b => .ok ⟨[.ofNat (if b then 1 else 0)]⟩
  | _ => .error .wrongKind

/-- An argument as a number in the form that a letter names. -/
def writeNumber (d : Directive) (form : Char) (arg : Document) : Except Failure (List Char) :=
  if form == 'd' || form == 'i' || form == 'u' then do
    let n ← wholeNumber true arg
    if Numeral.isWritable n then return writeWhole d 10 [] n else throw .badValue
  else if form == 'x' then (writeWhole d 16 ['0', 'x'] ·) <$> wholeNumber false arg
  else if form == 'X' then
    (fun n => (writeWhole d 16 ['0', 'x'] n).map Char.toUpper) <$> wholeNumber false arg
  else if form == 'o' then (writeWhole d 8 ['0', 'o'] ·) <$> wholeNumber false arg
  else if ['e', 'f', 'g'].contains form.toLower then do
    let x ← floatNumber arg
    let cs := padNumber d (x.negative && !x.isNaN) [] (floatForm d form.toLower x)
    return if form.isUpper then cs.map Char.toUpper else cs
  else .error .badValue

/-- An argument in the form that a letter names. -/
def write (d : Directive) (form : Char) (arg : Document) : Except Failure Text :=
  if form == 's' then (writeText d ·.display) <$> arg.writable
  else if form == 'r' then (writeText d ·.shown) <$> arg.writable
  else if form == 'a' then (writeText d <| asciiForm ·.shown) <$> arg.writable
  else if form == 'c' then (writeText { d with precision := none } ·) <$> letter arg
  else Text.ofChars <$> writeNumber d form arg

def readFlags (d : Directive) : List Text.CodePoint → Directive × List Text.CodePoint
  | .char '-' :: ps => readFlags { d with left := true } ps
  | .char '+' :: ps => readFlags { d with plus := true } ps
  | .char ' ' :: ps => readFlags { d with blank := true } ps
  | .char '#' :: ps => readFlags { d with alternate := true } ps
  | .char '0' :: ps => readFlags { d with zero := true } ps
  | ps => (d, ps)

def widthLimit : Nat := 9223372036854775807

def precisionLimit : Nat := 2147483647

def frontDigits : List Text.CodePoint → List Char
  | .char c :: ps => if c.isDigit then c :: frontDigits ps else []
  | _ => []

/-- A number at the front, or an argument in its place, if there is either; its size is
limited. -/
def readAmount (limit : Nat) (supply : Supply) (ps : List Text.CodePoint) :
    Except Failure (Int × Supply × List Text.CodePoint) :=
  match ps with
  | .char '*' :: ps => do
    match ← supply.next with
    | (.int n, supply) =>
      if n < -limit - 1 || limit < n then throw .overflow else return (n, supply, ps)
    | (.bool b, supply) => return (if b then 1 else 0, supply, ps)
    | _ => throw .wrongKind
  | ps =>
    let ds := frontDigits ps
    let n := Numeral.ofDigits ds
    if limit < n then .error .badValue else .ok (n, supply, ps.drop ds.length)

/-- The name of a field between brackets, and what follows it; brackets may be nested, and
`depth` of them are open. -/
def readName? (depth : Nat) :
    List Text.CodePoint → Option (List Text.CodePoint × List Text.CodePoint)
  | [] => none
  | p :: ps =>
    if p == .char ')' && depth == 0 then some ([], ps)
    else
      let depth := if p == .char '(' then depth + 1
        else if p == .char ')' then depth - 1
        else depth
      (readName? depth ps).map fun (name, rest) => (p :: name, rest)

/-- The supply after the name of a field, which becomes the only argument. -/
def select (supply : Supply) :
    List Text.CodePoint → Except Failure (Supply × List Text.CodePoint)
  | .char '(' :: ps =>
    match supply.fields with
    | none => .error .wrongKind
    | some fields =>
      match readName? 0 ps with
      | none => .error .badValue
      | some (name, rest) =>
        match Document.getField? ⟨name⟩ fields with
        | some d => .ok ({ supply with items := [d] }, rest)
        | none => .error .missingKey
  | ps => .ok (supply, ps)

/-- Whether a code point is a letter that tells a size, which does not matter. -/
def isSizeMark (p : Text.CodePoint) : Bool :=
  p == .char 'h' || p == .char 'l' || p == .char 'L'

/-- What follows the letter that tells a size, if there is one. -/
def skipSizeMark : List Text.CodePoint → List Text.CodePoint
  | [] => []
  | p :: ps => if isSizeMark p then ps else p :: ps

/-- The precision behind a point, if there is one. -/
def readPrecision (supply : Supply) : List Text.CodePoint →
    Except Failure (Option Nat × Supply × List Text.CodePoint)
  | .char '.' :: ps => do
    let (precision, supply, ps) ← readAmount precisionLimit supply ps
    return (some precision.toNat, supply, ps)
  | ps => .ok (none, supply, ps)

/-- The next argument in the form that the letter at the front names. -/
def writeNext (d : Directive) (supply : Supply) : List Text.CodePoint →
    Except Failure (Text × Supply × List Text.CodePoint)
  | [] => .error .badValue
  | form :: rest => do
    let (arg, supply) ← supply.next
    match form with
    | .char c => return (← write d c arg, supply, rest)
    | .half _ => throw .badValue

/-- One directive, given what follows its per cent sign. -/
def directive (supply : Supply) (ps : List Text.CodePoint) :
    Except Failure (Text × Supply × List Text.CodePoint) := do
  let (supply, ps) ← select supply ps
  let (d, ps) := readFlags {} ps
  let (width, supply, ps) ← readAmount widthLimit supply ps
  let (precision, supply, ps) ← readPrecision supply ps
  writeNext { d with left := d.left || width < 0, width := width.natAbs, precision := precision }
    supply (skipSizeMark ps)

/-- A template filled in; two per cent signs stand for one, and arguments must not be left over
unless they are fields. -/
def fillFrom : Nat → Supply → List Text.CodePoint → Except Failure (List Text.CodePoint)
  | 0, _, _ => .error .badValue
  | _ + 1, supply, [] =>
    if supply.fields.isNone && !supply.items.isEmpty then .error .wrongKind else .ok []
  | fuel + 1, supply, p :: ps => do
    if p == .char '%' then
      match ps with
      | .char '%' :: rest => return .char '%' :: (← fillFrom fuel supply rest)
      | ps =>
        let (written, supply, rest) ← directive supply ps
        return written.points ++ (← fillFrom fuel supply rest)
    else return p :: (← fillFrom fuel supply ps)

/-- The arguments of a message: a single object that is not empty offers its fields. -/
def supplyOf : List Document → Supply
  | [.object (f :: fs)] => ⟨[.object (f :: fs)], some (f :: fs)⟩
  | args => ⟨args, none⟩

def message (template : Text) (args : List Document) : Except Failure Text :=
  if args.isEmpty then .ok template
  else Text.mk <$> fillFrom (template.points.length + 1) (supplyOf args) template.points

end BallotWallet.Log
