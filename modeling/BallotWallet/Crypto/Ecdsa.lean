import BallotWallet.Crypto.Hmac
import BallotWallet.Crypto.Secp256k1
import BallotWallet.Failure

/-!
# Signatures

ECDSA over secp256k1 with SHA-256. The secret number of a signature is derived from the key and
the message, so signing is a function. A signature is the two numbers `r` and `s`, 32 bytes each,
as they come; neither of the two possible values of `s` is preferred.
-/

namespace BallotWallet.Ecdsa

open Secp256k1

/-- The scalar of a signing key, which must be 32 bytes and within the order of the curve. -/
def scalar? (key : Bytes) : Option Nat :=
  let d := Bytes.toNatBE key
  if key.length = 32 ∧ 0 < d ∧ d < order then some d else none

/-- The scalar of a signing key, or the failure of a key that has none. -/
def scalar (key : Bytes) : Except Failure Nat :=
  match scalar? key with
  | some d => .ok d
  | none => .error .badPoint

/-- The compressed form of a point with given coordinates: the parity of `y`, then `x`. -/
def compressed (xy : Nat × Nat) : Bytes :=
  (if xy.2 % 2 = 0 then 2 else 3) :: Bytes.ofNatBE 32 xy.1

/-- The compressed public key of a scalar. -/
def publicKeyOf (d : Nat) : Bytes :=
  compressed ((Point.multiple d generator).coordinates?.getD (0, 0))

def publicKey (key : Bytes) : Except Failure Bytes :=
  if key.length ≠ 32 then .error (.refused "private key must be 32 bytes")
  else publicKeyOf <$> scalar key

/-! ## Signing -/

/-- The state of the generator of secret numbers: a key and the last block. -/
structure Generator where
  key : Bytes
  block : Bytes

/-- The generator fed with more bytes behind a marker byte. -/
def Generator.feed (g : Generator) (marker : UInt8) (bs : Bytes) : Generator :=
  let key := Hmac.sha256 g.key (g.block ++ marker :: bs)
  ⟨key, Hmac.sha256 key g.block⟩

/-- The generator for a scalar and the number of a message. -/
def Generator.start (d h : Nat) : Generator :=
  let seed := Bytes.ofNatBE 32 d ++ Bytes.ofNatBE 32 (if h < order then h else h - order)
  ((Generator.mk (List.replicate 32 0) (List.replicate 32 1)).feed 0 seed).feed 1 seed

/-- The signature numbers for a secret number, unless one of them is zero. -/
def signWith? (d h k : Nat) : Option (Nat × Nat) :=
  match (Point.multiple k generator).coordinates? with
  | none => none
  | some (x, _) =>
    let r := x % order
    let s := inverse order k * ((h + d * r) % order) % order
    if r = 0 ∨ s = 0 then none else some (r, s)

/-- The first signature numbers that one of the next secret numbers gives. -/
def attempt (d h : Nat) : Nat → Generator → Nat × Nat
  | 0, _ => (0, 0)
  | fuel + 1, g =>
    let block := Hmac.sha256 g.key g.block
    let k := Bytes.toNatBE block
    let found := if 0 < k ∧ k < order then signWith? d h k else none
    match found with
    | some rs => rs
    | none => attempt d h fuel ((Generator.mk g.key block).feed 0 [])

def signatureBytes (rs : Nat × Nat) : Bytes :=
  Bytes.ofNatBE 32 rs.1 ++ Bytes.ofNatBE 32 rs.2

/-- The signature of a message by a scalar. A secret number fails about once in `2 ^ 128`. -/
def signWithScalar (d : Nat) (message : Bytes) : Bytes :=
  let h := Bytes.toNatBE (Sha256.hash message)
  signatureBytes (attempt d h 64 (Generator.start d h))

def sign (key message : Bytes) : Except Failure Bytes :=
  (signWithScalar · message) <$> scalar key

/-! ## Verifying -/

/-- The coordinates, if they are those of a point. -/
def onCurve? (x y : Nat) : Option (Nat × Nat) :=
  if isOnCurve x y then some (x, y) else none

/-- The point of which `x` and the parity of `y` are given. -/
def withParity? (odd : Bool) (x : Nat) : Option (Nat × Nat) := do
  let y ← squareRoot? ((x * x * x + 7) % prime)
  onCurve? x (if (y % 2 == 1) == odd then y else prime - y)

/-- Whether the marker in front of both coordinates agrees with the parity of `y`. -/
def markerFits (marker : UInt8) (y : Nat) : Bool :=
  marker == 4 || (marker == 6 && y % 2 == 0) || (marker == 7 && y % 2 == 1)

/-- The point of a public key: both coordinates, with or without a marker that may tell the parity
of `y`, or only the first one with such a marker. -/
def readPoint? (key : Bytes) : Option (Nat × Nat) :=
  let marker := key.headD 0
  let number (start : Nat) : Nat := Bytes.toNatBE ((key.drop start).take 32)
  if key.length = 64 then onCurve? (number 0) (number 32)
  else if key.length = 65 then
    if markerFits marker (number 33) then onCurve? (number 1) (number 33) else none
  else if key.length = 33 then
    if marker == 2 || marker == 3 then withParity? (marker == 3) (number 1) else none
  else none

/-- Whether `r` and `s` sign the message number `h` under the point `(x, y)`. Numbers that lead to
the point at infinity cannot be decided, since that point has no coordinates to compare. -/
def verifyNumbers (x y h r s : Nat) : Except Failure Bool :=
  if r < 1 ∨ order ≤ r ∨ s < 1 ∨ order ≤ s then .ok false
  else
    let i := inverse order s
    let p := (Point.multiple (h * i % order) generator).add
      (Point.multiple (r * i % order) ⟨x, y, 1⟩)
    match p.coordinates? with
    | some (v, _) => .ok (v % order == r)
    | none => .error .wrongKind

/-- Whether a signature of a message belongs to a public key. A malformed key or signature
belongs to nothing. -/
def verify (key message signature : Bytes) : Except Failure Bool :=
  match readPoint? key with
  | none => .ok false
  | some (x, y) =>
    if signature.length = 64 then
      verifyNumbers x y (Bytes.toNatBE (Sha256.hash message))
        (Bytes.toNatBE (signature.take 32)) (Bytes.toNatBE (signature.drop 32))
    else .ok false

theorem length_signatureBytes (rs : Nat × Nat) : (signatureBytes rs).length = 64 := by
  simp [signatureBytes]

theorem length_compressed (xy : Nat × Nat) : (compressed xy).length = 33 := by
  simp [compressed]

@[simp] theorem length_signWithScalar (d : Nat) (message : Bytes) :
    (signWithScalar d message).length = 64 :=
  length_signatureBytes _

@[simp] theorem length_publicKeyOf (d : Nat) : (publicKeyOf d).length = 33 :=
  length_compressed _

end BallotWallet.Ecdsa
