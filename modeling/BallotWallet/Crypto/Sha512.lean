import BallotWallet.Bytes

/-!
# SHA-512

The hash state is eight words of 64 bits. A message is padded, read as words with the most
significant byte first, and absorbed sixteen words at a time; `hashFrom` continues from any
state, which is what a keyed hash needs.
-/

namespace BallotWallet.Sha512

/-- The eight words of the hash state. -/
structure State where
  a : UInt64
  b : UInt64
  c : UInt64
  d : UInt64
  e : UInt64
  f : UInt64
  g : UInt64
  h : UInt64
  deriving DecidableEq, Inhabited

/-- The bytes of a word, the most significant first. -/
def wordBytes (w : UInt64) : Bytes :=
  Bytes.ofNatBE 8 w.toNat

def State.bytes (s : State) : Bytes :=
  wordBytes s.a ++ wordBytes s.b ++ wordBytes s.c ++ wordBytes s.d ++
    wordBytes s.e ++ wordBytes s.f ++ wordBytes s.g ++ wordBytes s.h

/-- The state of an empty message: the fractional parts of the first square roots of primes. -/
def start : State :=
  ⟨0x6a09e667f3bcc908, 0xbb67ae8584caa73b, 0x3c6ef372fe94f82b, 0xa54ff53a5f1d36f1,
   0x510e527fade682d1, 0x9b05688c2b3e6c1f, 0x1f83d9abfb41bd6b, 0x5be0cd19137e2179⟩

/-- The round constants: the fractional parts of the first cube roots of primes. -/
def constants : Array UInt64 :=
  #[0x428a2f98d728ae22, 0x7137449123ef65cd, 0xb5c0fbcfec4d3b2f, 0xe9b5dba58189dbbc,
    0x3956c25bf348b538, 0x59f111f1b605d019, 0x923f82a4af194f9b, 0xab1c5ed5da6d8118,
    0xd807aa98a3030242, 0x12835b0145706fbe, 0x243185be4ee4b28c, 0x550c7dc3d5ffb4e2,
    0x72be5d74f27b896f, 0x80deb1fe3b1696b1, 0x9bdc06a725c71235, 0xc19bf174cf692694,
    0xe49b69c19ef14ad2, 0xefbe4786384f25e3, 0x0fc19dc68b8cd5b5, 0x240ca1cc77ac9c65,
    0x2de92c6f592b0275, 0x4a7484aa6ea6e483, 0x5cb0a9dcbd41fbd4, 0x76f988da831153b5,
    0x983e5152ee66dfab, 0xa831c66d2db43210, 0xb00327c898fb213f, 0xbf597fc7beef0ee4,
    0xc6e00bf33da88fc2, 0xd5a79147930aa725, 0x06ca6351e003826f, 0x142929670a0e6e70,
    0x27b70a8546d22ffc, 0x2e1b21385c26c926, 0x4d2c6dfc5ac42aed, 0x53380d139d95b3df,
    0x650a73548baf63de, 0x766a0abb3c77b2a8, 0x81c2c92e47edaee6, 0x92722c851482353b,
    0xa2bfe8a14cf10364, 0xa81a664bbc423001, 0xc24b8b70d0f89791, 0xc76c51a30654be30,
    0xd192e819d6ef5218, 0xd69906245565a910, 0xf40e35855771202a, 0x106aa07032bbd1b8,
    0x19a4c116b8d2d0c8, 0x1e376c085141ab53, 0x2748774cdf8eeb99, 0x34b0bcb5e19b48a8,
    0x391c0cb3c5c95a63, 0x4ed8aa4ae3418acb, 0x5b9cca4f7763e373, 0x682e6ff3d6b2b8a3,
    0x748f82ee5defb2fc, 0x78a5636f43172f60, 0x84c87814a1f0ab72, 0x8cc702081a6439ec,
    0x90befffa23631e28, 0xa4506cebde82bde9, 0xbef9a3f7b2c67915, 0xc67178f2e372532b,
    0xca273eceea26619c, 0xd186b8c721c0c207, 0xeada7dd6cde0eb1e, 0xf57d4f7fee6ed178,
    0x06f067aa72176fba, 0x0a637dc5a2c898a6, 0x113f9804bef90dae, 0x1b710b35131c471b,
    0x28db77f523047d84, 0x32caab7b40c72493, 0x3c9ebe0a15c9bebc, 0x431d67c49c100d4c,
    0x4cc5d4becb3e42b6, 0x597f299cfc657e2a, 0x5fcb6fab3ad6faec, 0x6c44198c4a475817]

/-- The word `w` turned right by `n` bits. -/
def turn (w : UInt64) (n : UInt64) : UInt64 :=
  (w >>> n) ||| (w <<< (64 - n))

/-- One round, which mixes in a constant and a word of the schedule. -/
def State.round (s : State) (k w : UInt64) : State :=
  let s1 := turn s.e 14 ^^^ turn s.e 18 ^^^ turn s.e 41
  let choice := (s.e &&& s.f) ^^^ ((s.e ^^^ 0xffffffffffffffff) &&& s.g)
  let t1 := s.h + s1 + choice + k + w
  let s0 := turn s.a 28 ^^^ turn s.a 34 ^^^ turn s.a 39
  let majority := (s.a &&& s.b) ^^^ (s.a &&& s.c) ^^^ (s.b &&& s.c)
  ⟨t1 + (s0 + majority), s.a, s.b, s.c, s.d + t1, s.e, s.f, s.g⟩

/-- The schedule grown by one word. -/
def extend (w : Array UInt64) : Array UInt64 :=
  let t := w.size
  let x := w.getD (t - 15) 0
  let y := w.getD (t - 2) 0
  let s0 := turn x 1 ^^^ turn x 8 ^^^ (x >>> 7)
  let s1 := turn y 19 ^^^ turn y 61 ^^^ (y >>> 6)
  w.push (w.getD (t - 16) 0 + s0 + w.getD (t - 7) 0 + s1)

/-- The schedule grown by `n` words. -/
def extendBy : Nat → Array UInt64 → Array UInt64
  | 0, w => w
  | n + 1, w => extendBy n (extend w)

/-- The rounds from number `80 - n` on. -/
def rounds (w : Array UInt64) : Nat → State → State
  | 0, s => s
  | n + 1, s => rounds w n (s.round (constants.getD (80 - 1 - n) 0) (w.getD (80 - 1 - n) 0))

/-- The state after one block of sixteen words. -/
def compress (s : State) (block : Array UInt64) : State :=
  let r := rounds (extendBy 64 block) 80 s
  ⟨s.a + r.a, s.b + r.b, s.c + r.c, s.d + r.d, s.e + r.e, s.f + r.f, s.g + r.g, s.h + r.h⟩

/-- What follows a message of `length` bytes: a one bit, zeros, and the length in bits. -/
def padding (length : Nat) : Bytes :=
  let zeros := (256 - 17 - length % 128) % 128
  0x80 :: (List.replicate zeros 0 ++ Bytes.ofNatBE 16 (8 * length))

/-- The words of a byte string; bytes that fill no word are left out. -/
def words : Bytes → List UInt64
  | b0 :: b1 :: b2 :: b3 :: b4 :: b5 :: b6 :: b7 :: rest =>
    (b0.toUInt64 <<< 56 ||| b1.toUInt64 <<< 48 ||| b2.toUInt64 <<< 40 ||| b3.toUInt64 <<< 32 |||
      b4.toUInt64 <<< 24 ||| b5.toUInt64 <<< 16 ||| b6.toUInt64 <<< 8 ||| b7.toUInt64) :: words rest
  | _ => []

/-- The state and the block in progress after one more word. -/
def absorb (s : State × Array UInt64) (w : UInt64) : State × Array UInt64 :=
  let block := s.2.push w
  if block.size = 16 then (compress s.1 block, #[]) else (s.1, block)

/-- The hash of a message whose first `done` bytes have already led to the state `s`. -/
def hashFrom (s : State) (done : Nat) (message : Bytes) : State :=
  ((words (message ++ padding (done + message.length))).foldl absorb (s, #[])).1

/-- The hash of a message, 64 bytes long. -/
def hash (message : Bytes) : Bytes :=
  (hashFrom start 0 message).bytes

@[simp] theorem State.length_bytes (s : State) : s.bytes.length = 64 := by
  simp [State.bytes, wordBytes]

@[simp] theorem length_hash (message : Bytes) : (hash message).length = 64 := by
  simp [hash]

end BallotWallet.Sha512
