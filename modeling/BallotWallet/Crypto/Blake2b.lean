import BallotWallet.Bytes

/-!
# BLAKE2b with a digest of 32 bytes

The unkeyed hash that names fragments and accounts. The state is eight words of 64 bits; each
block of 128 bytes is mixed in twelve rounds with the number of bytes seen so far, and the last
block is marked.
-/

namespace BallotWallet.Blake2b

/-- The words that every state starts from. -/
def start : Array UInt64 :=
  #[0x6a09e667f3bcc908, 0xbb67ae8584caa73b, 0x3c6ef372fe94f82b, 0xa54ff53a5f1d36f1,
    0x510e527fade682d1, 0x9b05688c2b3e6c1f, 0x1f83d9abfb41bd6b, 0x5be0cd19137e2179]

/-- The order in which a round takes the words of a block. -/
def orders : Array (Array Nat) :=
  #[#[0, 1, 2, 3, 4, 5, 6, 7, 8, 9, 10, 11, 12, 13, 14, 15],
    #[14, 10, 4, 8, 9, 15, 13, 6, 1, 12, 0, 2, 11, 7, 5, 3],
    #[11, 8, 12, 0, 5, 2, 15, 13, 10, 14, 3, 6, 7, 1, 9, 4],
    #[7, 9, 3, 1, 13, 12, 11, 14, 2, 6, 5, 10, 4, 0, 15, 8],
    #[9, 0, 5, 7, 2, 4, 10, 15, 14, 1, 11, 12, 6, 8, 3, 13],
    #[2, 12, 6, 10, 0, 11, 8, 3, 4, 13, 7, 5, 15, 14, 1, 9],
    #[12, 5, 1, 15, 14, 13, 4, 10, 0, 7, 6, 3, 9, 2, 8, 11],
    #[13, 11, 7, 14, 12, 1, 3, 9, 5, 0, 15, 4, 8, 6, 2, 10],
    #[6, 15, 14, 9, 11, 3, 0, 8, 12, 2, 13, 7, 1, 4, 10, 5],
    #[10, 2, 8, 4, 7, 6, 1, 5, 15, 11, 9, 14, 3, 12, 13, 0]]

/-- The word `w` turned right by `n` bits. -/
def turn (w n : UInt64) : UInt64 :=
  (w >>> n) ||| (w <<< (64 - n))

/-- Four words of the work vector mixed with two words of the block. -/
def mix (v : Array UInt64) (a b c d : Nat) (x y : UInt64) : Array UInt64 :=
  let va := v.getD a 0 + v.getD b 0 + x
  let vd := turn (v.getD d 0 ^^^ va) 32
  let vc := v.getD c 0 + vd
  let vb := turn (v.getD b 0 ^^^ vc) 24
  let va := va + vb + y
  let vd := turn (vd ^^^ va) 16
  let vc := vc + vd
  let vb := turn (vb ^^^ vc) 63
  (((v.setIfInBounds a va).setIfInBounds b vb).setIfInBounds c vc).setIfInBounds d vd

/-- The four words that each of the eight steps of a round mixes. -/
def quads : List (Nat × Nat × Nat × Nat) :=
  [(0, 4, 8, 12), (1, 5, 9, 13), (2, 6, 10, 14), (3, 7, 11, 15),
   (0, 5, 10, 15), (1, 6, 11, 12), (2, 7, 8, 13), (3, 4, 9, 14)]

/-- One round over the block `m`. -/
def round (m : Array UInt64) (v : Array UInt64) (number : Nat) : Array UInt64 :=
  let order := orders.getD (number % 10) #[]
  (quads.zipIdx).foldl (fun v q =>
    let (a, b, c, d) := q.1
    mix v a b c d (m.getD (order.getD (2 * q.2) 0) 0) (m.getD (order.getD (2 * q.2 + 1) 0) 0)) v

/-- The state after a block; `seen` counts the bytes up to its end. -/
def compress (h m : Array UInt64) (seen : Nat) (last : Bool) : Array UInt64 :=
  let v := h ++ start
  let v := v.modify 12 (· ^^^ UInt64.ofNat seen)
  let v := v.modify 13 (· ^^^ UInt64.ofNat (seen / 0x10000000000000000))
  let v := if last then v.modify 14 (· ^^^ 0xffffffffffffffff) else v
  let v := (List.range 12).foldl (round m) v
  h.mapIdx fun i x => x ^^^ v.getD i 0 ^^^ v.getD (i + 8) 0

/-- The words of a byte string, the least significant byte first. -/
def words : Bytes → List UInt64
  | b0 :: b1 :: b2 :: b3 :: b4 :: b5 :: b6 :: b7 :: rest =>
    (b0.toUInt64 ||| b1.toUInt64 <<< 8 ||| b2.toUInt64 <<< 16 ||| b3.toUInt64 <<< 24 |||
      b4.toUInt64 <<< 32 ||| b5.toUInt64 <<< 40 ||| b6.toUInt64 <<< 48 ||| b7.toUInt64 <<< 56) ::
      words rest
  | _ => []

/-- The state after a message of which `seen` bytes have been absorbed already. -/
def absorb (h : Array UInt64) (seen : Nat) (message : Bytes) : Array UInt64 :=
  if 128 < message.length then
    absorb (compress h (words (message.take 128)).toArray (seen + 128) false) (seen + 128)
      (message.drop 128)
  else
    compress h (words (Bytes.padRight 128 message)).toArray (seen + message.length) true
termination_by message.length
decreasing_by simp; omega

/-- The hash of a message, 32 bytes long. -/
def hash (message : Bytes) : Bytes :=
  let h := absorb (start.modify 0 (· ^^^ 0x01010020)) 0 message
  (List.range 4).flatMap fun i => Bytes.ofNatLE 8 (h.getD i 0).toNat

@[simp] theorem length_hash (message : Bytes) : (hash message).length = 32 := by
  simp only [hash, List.length_flatMap, Bytes.length_ofNatLE]
  rfl

end BallotWallet.Blake2b
