import BallotWallet.Bytes

/-!
# Bits

Numbers and byte strings as lists of bits, the most significant one first, and the regrouping of
bits into pieces of another size.
-/

namespace BallotWallet.Bits

/-- The low `width` bits of `n`. -/
def ofNat : Nat → Nat → List Bool
  | 0, _ => []
  | width + 1, n => n.testBit width :: ofNat width n

/-- The number that bits stand for. -/
def toNat (bits : List Bool) : Nat :=
  bits.foldl (fun n b => 2 * n + b.toNat) 0

def ofBytes (bs : Bytes) : List Bool :=
  bs.flatMap fun b => ofNat 8 b.toNat

def ofNats (width : Nat) (ns : List Nat) : List Bool :=
  ns.flatMap (ofNat width)

/-- The bits in groups of `size`, after the bits `group` of a group in progress; a last group may
be short. -/
def groupsFrom (size : Nat) (group : List Bool) : List Bool → List (List Bool)
  | [] => if group.isEmpty then [] else [group]
  | b :: bits =>
    let group := group ++ [b]
    if group.length = size then group :: groupsFrom size [] bits
    else groupsFrom size group bits

/-- The bits in groups of `size`; the last group may be short. -/
def groups (size : Nat) (bits : List Bool) : List (List Bool) :=
  groupsFrom size [] bits

/-- The bits followed by as many zeros as `size` asks for. -/
def padRight (size : Nat) (bits : List Bool) : List Bool :=
  bits ++ List.replicate (size - bits.length) false

def byte (bits : List Bool) : UInt8 :=
  UInt8.ofNat (toNat bits)

@[simp] theorem length_ofNat (width n : Nat) : (ofNat width n).length = width := by
  induction width with
  | zero => rfl
  | succ width ih => simp [ofNat, ih]

end BallotWallet.Bits
