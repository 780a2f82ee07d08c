/-!
# The curve secp256k1

The points of `y² = x³ + 7` over the field with `prime` elements, and their addition. A point is
kept as a fraction `(x / z², y / z³)`, so that only the final result needs an inverse.
-/

namespace BallotWallet.Secp256k1

/-- The number of elements of the field. -/
def prime : Nat := 0xfffffffffffffffffffffffffffffffffffffffffffffffffffffffefffffc2f

def order : Nat := 0xfffffffffffffffffffffffffffffffebaaedce6af48a03bbfd25e8cd0364141

/-- The power `b ^ e` modulo `m`, for exponents of at most `fuel` bits. -/
def powMod (m : Nat) : Nat → Nat → Nat → Nat
  | 0, _, _ => 1 % m
  | fuel + 1, b, e =>
    if e = 0 then 1 % m
    else
      let r := powMod m fuel (b * b % m) (e / 2)
      if e % 2 = 1 then r * b % m else r

/-- The inverse of `a` modulo a prime `m`. -/
def inverse (m a : Nat) : Nat :=
  powMod m 256 (a % m) (m - 2)

/-- The difference of two field elements. -/
def sub (a b : Nat) : Nat :=
  (a + prime - b) % prime

/-- A point as a fraction; the point at infinity has `z = 0`. -/
structure Point where
  x : Nat
  y : Nat
  z : Nat
  deriving DecidableEq, Inhabited

def infinity : Point := ⟨1, 1, 0⟩

def generator : Point :=
  ⟨0x79be667ef9dcbbac55a06295ce870b07029bfcdb2dce28d959f2815b16f81798,
   0x483ada7726a3c4655da4fbfc0e1108a8fd17b448a68554199c47d08ffb10d4b8, 1⟩

namespace Point

/-- The sum of a point and itself. -/
def double (p : Point) : Point :=
  if p.z = 0 ∨ p.y = 0 then infinity
  else
    let yy := p.y * p.y % prime
    let s := 4 * p.x * yy % prime
    let m := 3 * p.x * p.x % prime
    let x := sub (m * m % prime) (2 * s % prime)
    ⟨x, sub (m * sub s x % prime) (8 * yy * yy % prime), 2 * p.y * p.z % prime⟩

def add (p q : Point) : Point :=
  if p.z = 0 then q
  else if q.z = 0 then p
  else
    let pzz := p.z * p.z % prime
    let qzz := q.z * q.z % prime
    let u := p.x * qzz % prime
    let v := q.x * pzz % prime
    let s := p.y * qzz * q.z % prime
    let t := q.y * pzz * p.z % prime
    if u = v then (if s = t then p.double else infinity)
    else
      let h := sub v u
      let r := sub t s
      let hh := h * h % prime
      let hhh := h * hh % prime
      let w := u * hh % prime
      let x := sub (r * r % prime) ((hhh + 2 * w) % prime)
      ⟨x, sub (r * sub w x % prime) (s * hhh % prime), h * p.z * q.z % prime⟩

/-- The sum of `total` and `k` times `p`, for numbers `k` of at most `fuel` bits. -/
def addMultiple : Nat → Nat → Point → Point → Point
  | 0, _, _, total => total
  | fuel + 1, k, p, total =>
    if k = 0 then total
    else addMultiple fuel (k / 2) p.double (if k % 2 = 1 then total.add p else total)

/-- The sum of `k` times `p`, for numbers `k` of at most 256 bits. -/
def multiple (k : Nat) (p : Point) : Point :=
  addMultiple 256 k p infinity

/-- The coordinates of a point that is not at infinity. -/
def coordinates? (p : Point) : Option (Nat × Nat) :=
  if p.z = 0 then none
  else
    let i := inverse prime p.z
    let ii := i * i % prime
    some (p.x * ii % prime, p.y * ii * i % prime)

end Point

/-- Whether coordinates are those of a point. -/
def isOnCurve (x y : Nat) : Bool :=
  x < prime && y < prime && y * y % prime == (x * x * x + 7) % prime

/-- A square root in the field, if there is one. -/
def squareRoot? (a : Nat) : Option Nat :=
  let r := powMod prime 256 a ((prime + 1) / 4)
  if r * r % prime = a % prime then some r else none

end BallotWallet.Secp256k1
