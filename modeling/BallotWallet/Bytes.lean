/-!
# Byte strings

A byte string is a list of bytes, so that slicing, joining and induction are those of lists.
The number of a byte string is read in either order, and a number is written in a fixed width.
-/

namespace BallotWallet

abbrev Bytes := List UInt8

namespace Bytes

/-- The number written by `bs` with the most significant byte first. -/
def toNatBE (bs : Bytes) : Nat :=
  bs.foldl (fun n b => n * 256 + b.toNat) 0

/-- The number written by `bs` with the least significant byte first. -/
def toNatLE : Bytes → Nat
  | [] => 0
  | b :: bs => b.toNat + 256 * toNatLE bs

/-- The low `width` bytes of `n`, the least significant first. -/
def ofNatLE : Nat → Nat → Bytes
  | 0, _ => []
  | width + 1, n => UInt8.ofNat n :: ofNatLE width (n / 256)

/-- The low `width` bytes of `n`, the most significant first. -/
def ofNatBE (width n : Nat) : Bytes :=
  (ofNatLE width n).reverse

/-- The bytes of `s` in UTF-8. -/
def ofString (s : String) : Bytes :=
  s.toUTF8.toList

/-- The bytes of `a` and `b` combined one by one by exclusive or, as far as both reach. -/
def xor (a b : Bytes) : Bytes :=
  List.zipWith (· ^^^ ·) a b

/-- The string `bs` followed by as many zero bytes as `width` asks for. -/
def padRight (width : Nat) (bs : Bytes) : Bytes :=
  bs ++ List.replicate (width - bs.length) 0

@[simp] theorem length_ofNatLE (width n : Nat) : (ofNatLE width n).length = width := by
  induction width generalizing n with
  | zero => rfl
  | succ width ih => simp [ofNatLE, ih]

@[simp] theorem length_ofNatBE (width n : Nat) : (ofNatBE width n).length = width := by
  simp [ofNatBE]

end Bytes

end BallotWallet
