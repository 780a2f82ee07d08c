import BallotWallet.Number.Numeral
import BallotWallet.Number.Power

/-!
# Binary floating point numbers

A number is its 64 bits. Arithmetic is exact arithmetic on whole numbers followed by one
rounding to the nearest number, ties to the even one, so nothing depends on a machine.
-/

namespace BallotWallet

/-- A floating point number of 64 bits. -/
structure Binary64 where
  bits : UInt64
  deriving DecidableEq, Inhabited

/-- What the bits of a number say: no number, an infinity, or `m * 2 ^ e` with a sign. -/
inductive Binary64.View where
  | nan
  | infinite (negative : Bool)
  | finite (negative : Bool) (m : Nat) (e : Int)
  deriving DecidableEq

namespace Binary64

/-- The bits without the sign, as a number. -/
def magnitude (x : Binary64) : Nat :=
  x.bits.toNat % 0x8000000000000000

/-- Whether the sign bit is set. -/
def negative (x : Binary64) : Bool :=
  0x8000000000000000 ≤ x.bits.toNat

def infinity : Nat := 0x7ff0000000000000

def ofMagnitude (negative : Bool) (magnitude : Nat) : Binary64 :=
  ⟨UInt64.ofNat (if negative then 0x8000000000000000 + magnitude else magnitude)⟩

/-- The bits that stand for no number. -/
def nan : Binary64 := ⟨0x7ff8000000000000⟩

/-- The infinity with the given sign. -/
def inf (negative : Bool) : Binary64 := ofMagnitude negative infinity

def zero (negative : Bool) : Binary64 := ofMagnitude negative 0

/-- What the bits of `x` say. -/
def view (x : Binary64) : View :=
  let m := x.magnitude
  if infinity < m then .nan
  else if m = infinity then .infinite x.negative
  else if m < 0x10000000000000 then .finite x.negative m (-1074)
  else
    .finite x.negative (0x10000000000000 + m % 0x10000000000000)
      ((m / 0x10000000000000 : Nat) - 1075)

/-- The quotient of two whole numbers, rounded to the nearest one and to the even one of two. -/
def roundQuotient (num den : Nat) : Nat :=
  let q := num / den
  let r := num % den
  if den < 2 * r || (2 * r == den && q % 2 == 1) then q + 1 else q

/-- The greatest `k` with `2 ^ k * den ≤ num`, for positive numbers. -/
def floorLog2 (num den : Nat) : Int :=
  let k : Int := (num.log2 : Int) - (den.log2 : Int)
  let fits := if 0 ≤ k then den * twoTo k ≤ num else den ≤ num * twoTo (-k)
  if fits then k else k - 1

def ofRatio (negative : Bool) (num den : Nat) : Binary64 :=
  if num = 0 then zero negative
  else
    let e : Int := max (floorLog2 num den - 52) (-1074)
    let q := if 0 ≤ e then roundQuotient num (den * twoTo e)
      else roundQuotient (num * twoTo (-e)) den
    ofMagnitude negative (min ((e + 1074).toNat * 0x10000000000000 + q) infinity)

/-- The number nearest to `m * 2 ^ e`. -/
def ofScaled (negative : Bool) (m : Nat) (e : Int) : Binary64 :=
  if 0 ≤ e then ofRatio negative (m * twoTo e) 1 else ofRatio negative m (twoTo (-e))

/-- The number nearest to a whole number, an infinity if it is too large. -/
def ofInt (n : Int) : Binary64 :=
  ofRatio (n < 0) n.natAbs 1

/-- Whether `x` is neither an infinity nor without a number. -/
def isFinite (x : Binary64) : Bool :=
  x.magnitude < infinity

def isNaN (x : Binary64) : Bool :=
  infinity < x.magnitude

/-- The number nearest to a whole number, unless it is too large. -/
def ofInt? (n : Int) : Option Binary64 :=
  let x := ofInt n
  if x.isFinite then some x else none

/-- The whole number of units `2 ^ e` that `m * 2 ^ d` with a sign consists of, for `e ≤ d`. -/
def unitsOf (negative : Bool) (m : Nat) (d e : Int) : Int :=
  let n : Int := m * twoTo (d - e)
  if negative then -n else n

def add (x y : Binary64) : Binary64 :=
  match x.view, y.view with
  | .nan, _ => nan
  | _, .nan => nan
  | .infinite s, .infinite t => if s = t then inf s else nan
  | .infinite s, _ => inf s
  | _, .infinite t => inf t
  | .finite s m d, .finite t n e =>
    let low := min d e
    let sum := unitsOf s m d low + unitsOf t n e low
    if sum = 0 then zero (s && t) else ofScaled (sum < 0) sum.natAbs low

/-- The number with the other sign. -/
def neg (x : Binary64) : Binary64 :=
  ofMagnitude (!x.negative) x.magnitude

def sub (x y : Binary64) : Binary64 :=
  x.add y.neg

def mul (x y : Binary64) : Binary64 :=
  match x.view, y.view with
  | .nan, _ => nan
  | _, .nan => nan
  | .infinite s, .infinite t => inf (s != t)
  | .infinite s, .finite t m _ => if m = 0 then nan else inf (s != t)
  | .finite s m _, .infinite t => if m = 0 then nan else inf (s != t)
  | .finite s m d, .finite t n e => ofScaled (s != t) (m * n) (d + e)

def div (x y : Binary64) : Binary64 :=
  match x.view, y.view with
  | .nan, _ => nan
  | _, .nan => nan
  | .infinite _, .infinite _ => nan
  | .infinite s, .finite t _ _ => inf (s != t)
  | .finite s _ _, .infinite t => zero (s != t)
  | .finite s m d, .finite t n e =>
    if n = 0 then (if m = 0 then nan else inf (s != t))
    else
      let low := min d e
      ofRatio (s != t) (unitsOf false m d low).natAbs (unitsOf false n e low).natAbs

/-- The remainder of the division with the quotient cut towards zero; it has the sign of `x`. -/
def rem (x y : Binary64) : Binary64 :=
  match x.view, y.view with
  | .nan, _ => nan
  | _, .nan => nan
  | .infinite _, _ => nan
  | _, .infinite _ => x
  | .finite s m d, .finite _ n e =>
    if n = 0 then nan
    else
      let low := min d e
      ofScaled s ((unitsOf false m d low).natAbs % (unitsOf false n e low).natAbs) low

/-- The order of two numbers, if both are numbers. -/
def compare? (x y : Binary64) : Option Ordering :=
  match x.view, y.view with
  | .nan, _ => none
  | _, .nan => none
  | .infinite s, .infinite t => some (compare t.toNat s.toNat)
  | .infinite s, _ => some (if s then .lt else .gt)
  | _, .infinite t => some (if t then .gt else .lt)
  | .finite s m d, .finite t n e =>
    let low := min d e
    some (compare (unitsOf s m d low) (unitsOf t n e low))

def lt (x y : Binary64) : Bool :=
  x.compare? y == some .lt

/-- Whether `x` and `y` are the same number, whatever the sign of a zero. -/
def same (x y : Binary64) : Bool :=
  x.compare? y == some .eq

def isZero (x : Binary64) : Bool :=
  x.magnitude == 0

/-- The greater of two numbers; the first one unless the second is greater. -/
def max (x y : Binary64) : Binary64 :=
  if x.lt y then y else x

/-- A finite number cut towards zero. -/
def truncate? (x : Binary64) : Option Int :=
  match x.view with
  | .finite s m e => some (unitsOf s (if 0 ≤ e then m else m / twoTo (-e)) (Max.max e 0) 0)
  | _ => none

def floor? (x : Binary64) : Option Int :=
  match x.view with
  | .finite s m e =>
    if 0 ≤ e then some (unitsOf s m e 0)
    else
      let n : Int := if s then -(m : Int) else m
      some (n.fdiv ((twoTo (-e) : Nat) : Int))
  | _ => none

def floor (x : Binary64) : Binary64 :=
  match x.floor? with
  | some 0 => zero x.negative
  | some n => ofInt n
  | none => x

/-- The number rounded to the nearest whole number and to the even one of two. -/
def nearest? (x : Binary64) : Option Int :=
  match x.view with
  | .finite s m e =>
    if 0 ≤ e then some (unitsOf s m e 0)
    else some (unitsOf s (roundQuotient m (twoTo (-e))) 0 0)
  | _ => none

def half : Binary64 := ofRatio false 1 2

/-- The quotient rounded down, for a divisor that is not zero. It is found from the remainder,
so that a quotient that only rounds up to a whole number does not count as that number. -/
def floorDiv (x y : Binary64) : Binary64 :=
  let r := x.rem y
  let q := (x.sub r).div y
  let q := if !r.isZero && (y.lt (zero false) != r.lt (zero false)) then q.sub (ofInt 1) else q
  if q.isZero then zero (x.negative != y.negative)
  else
    let f := q.floor
    if half.lt (q.sub f) then f.add (ofInt 1) else f

/-! ## Reading -/

/-- The number `n * 10 ^ e`; exponents that can only lead to zero or infinity are cut short. -/
def ofDecimal (negative : Bool) (ds : List Char) (e : Int) : Binary64 :=
  let n := Numeral.ofDigits ds
  if n = 0 then zero negative
  else if 400 < e + (ds.length : Int) - ((ds.takeWhile (· == '0')).length : Int) then inf negative
  else if e + (ds.length : Int) < -400 then zero negative
  else if 0 ≤ e then ofRatio negative (n * tenTo e) 1
  else ofRatio negative n (tenTo (-e))

/-- The exponent that a numeral ends with, zero if there is none. -/
def exponent? : List Char → Option Int
  | [] => some 0
  | c :: cs =>
    if c == 'e' || c == 'E' then
      let (negative, ds) := Numeral.splitSign cs
      if ds.isEmpty || !ds.all Char.isDigit then none else some (Numeral.signed negative ds)
    else none

/-- The number written by ASCII digits with an optional point and an optional exponent. -/
def ofPlain? (negative : Bool) (cs : List Char) : Option Binary64 :=
  let whole := cs.takeWhile Char.isDigit
  let (fraction, rest) := match cs.dropWhile Char.isDigit with
    | '.' :: rest => (rest.takeWhile Char.isDigit, rest.dropWhile Char.isDigit)
    | rest => ([], rest)
  if whole.isEmpty && fraction.isEmpty then none
  else (exponent? rest).map fun e => ofDecimal negative (whole ++ fraction) (e - fraction.length)

/-- The number that a text stands for; infinities and the lack of a number have names. -/
def ofText? (t : Text) : Option Binary64 :=
  match Numeral.core? t with
  | none => none
  | some cs =>
    let (negative, rest) := Numeral.splitSign cs
    let name := rest.map Char.toLower
    if name == "inf".toList || name == "infinity".toList then some (inf negative)
    else if name == "nan".toList then some nan
    else ofPlain? negative rest

/-! ## Writing -/

/-- The greatest `p` with `10 ^ p * den ≤ num`, searched downwards from `p` in `fuel` steps. -/
def floorLog10 (num den : Nat) : Nat → Int → Int
  | 0, p => p
  | fuel + 1, p =>
    let fits := if 0 ≤ p then den * tenTo p ≤ num else den ≤ num * tenTo (-p)
    if fits then p else floorLog10 num den fuel (p - 1)

/-- Of two whole numbers of units `10 ^ e` next to `num / den`, the one that reads back as `x`;
the nearer one if both do, and the even one if both are as near. -/
def readsBack? (x : Binary64) (num den : Nat) (e : Int) : Option Nat :=
  let (n, d) := if 0 ≤ e then (num, den * tenTo e) else (num * tenTo (-e), den)
  let back (q : Nat) : Bool :=
    x == (if 0 ≤ e then ofRatio false (q * tenTo e) 1 else ofRatio false q (tenTo (-e)))
  let near := roundQuotient n d
  let far := if near = n / d then near + 1 else near - 1
  if back near then some near else if back far then some far else none

/-- The fewest digits that read back as `x`, given their number at first and how many more may
be tried, with the exponent of the last one. -/
def fewest (x : Binary64) (num den : Nat) (top : Int) : Nat → Nat → Nat × Int
  | 0, _ => (0, 0)
  | fuel + 1, digits =>
    let e := top - digits + 1
    match readsBack? x num den e with
    | some q => (q, e)
    | none => fewest x num den top fuel (digits + 1)

/-- The significant digits of a positive finite number, and the place of its decimal point
counted from the first of them. -/
def digits (m : Nat) (e : Int) : List Char × Int :=
  let (num, den) := if 0 ≤ e then (m * twoTo e, 1) else (m, twoTo (-e))
  let guess := (floorLog2 num den + 1) * 30103 / 100000 + 1
  let top := floorLog10 num den 4 guess
  let (q, low) := fewest (ofRatio false num den) num den top 17 1
  let ds := Nat.toDigits 10 q
  (Text.dropEndWhile (· == '0') ds, low + ds.length)

/-- An exponent of two digits or more, with its sign. -/
def exponentText (e : Int) : String :=
  (if e < 0 then "-" else "+") ++ (if e.natAbs < 10 then "0" else "") ++ toString e.natAbs

/-- The digits with the point after the first `point` of them; far from them, an exponent
stands for the point. -/
def layout (ds : List Char) (point : Int) : String :=
  if -4 < point && point ≤ 16 then
    if point ≤ 0 then "0." ++ String.ofList (List.replicate (-point).toNat '0' ++ ds)
    else
      let whole := ds.take point.toNat ++ List.replicate (point.toNat - ds.length) '0'
      let fraction := ds.drop point.toNat
      String.ofList whole ++ "." ++ (if fraction.isEmpty then "0" else String.ofList fraction)
  else
    let mantissa := match ds with
      | d :: f :: fs => String.ofList (d :: '.' :: f :: fs)
      | ds => String.ofList ds
    mantissa ++ "e" ++ exponentText (point - 1)

/-- The shortest text that reads back as the number. -/
def text (x : Binary64) : String :=
  match x.view with
  | .nan => "nan"
  | .infinite s => if s then "-inf" else "inf"
  | .finite s m e =>
    let body := if m = 0 then "0.0" else
      let (ds, point) := digits m e
      layout ds point
    if s then "-" ++ body else body

end Binary64

end BallotWallet
