import BallotWallet.Bytes

/-!
# ChaCha20

A stream of bytes from a key of 32 bytes and a nonce of 12, made in blocks of 64 bytes that are
numbered by a counter. Enciphering and deciphering are the same exclusive or with the stream.
-/

namespace BallotWallet.ChaCha20

/-- The word `w` turned left by `n` bits. -/
def turn (w n : UInt32) : UInt32 :=
  (w <<< n) ||| (w >>> (32 - n))

/-- Four words of the block mixed with each other. -/
def quarter (v : Array UInt32) (a b c d : Nat) : Array UInt32 :=
  let va := v.getD a 0 + v.getD b 0
  let vd := turn (v.getD d 0 ^^^ va) 16
  let vc := v.getD c 0 + vd
  let vb := turn (v.getD b 0 ^^^ vc) 12
  let va := va + vb
  let vd := turn (vd ^^^ va) 8
  let vc := vc + vd
  let vb := turn (vb ^^^ vc) 7
  (((v.setIfInBounds a va).setIfInBounds b vb).setIfInBounds c vc).setIfInBounds d vd

/-- The columns and then the diagonals of the block, mixed once each. -/
def doubleRound (v : Array UInt32) : Array UInt32 :=
  let v := quarter v 0 4 8 12
  let v := quarter v 1 5 9 13
  let v := quarter v 2 6 10 14
  let v := quarter v 3 7 11 15
  let v := quarter v 0 5 10 15
  let v := quarter v 1 6 11 12
  let v := quarter v 2 7 8 13
  quarter v 3 4 9 14

/-- The words of a byte string, the least significant byte first. -/
def words : Bytes → List UInt32
  | b0 :: b1 :: b2 :: b3 :: rest =>
    (b0.toUInt32 ||| b1.toUInt32 <<< 8 ||| b2.toUInt32 <<< 16 ||| b3.toUInt32 <<< 24) :: words rest
  | _ => []

/-- The block that is mixed: four fixed words, the key, the counter and the nonce. -/
def block (key nonce : Bytes) (counter : Nat) : List UInt32 :=
  [0x61707865, 0x3320646e, 0x79622d32, 0x6b206574] ++ words key ++
    [UInt32.ofNat counter] ++ words nonce

/-- The 64 bytes of the stream with the number `counter`. -/
def stream (key nonce : Bytes) (counter : Nat) : Bytes :=
  let v := block key nonce counter
  let mixed := (List.range 10).foldl (fun v _ => doubleRound v) v.toArray
  (List.zipWith (· + ·) v mixed.toList).flatMap fun w => Bytes.ofNatLE 4 w.toNat

/-- The message enciphered, or deciphered, with the stream from block `counter` on. -/
def apply (key nonce : Bytes) (counter : Nat) (message : Bytes) : Bytes :=
  let blocks := (message.length + 63) / 64
  Bytes.xor message ((List.range blocks).flatMap fun i => stream key nonce (counter + i))

end BallotWallet.ChaCha20
