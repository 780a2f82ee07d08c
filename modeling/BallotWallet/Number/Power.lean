/-!
# Powers

The powers of two and of ten that numbers are scaled by.
-/

namespace BallotWallet

/-- Two to a power; a negative power counts as zero. -/
def twoTo (k : Int) : Nat :=
  Nat.pow 2 k.toNat

/-- Ten to a power; a negative power counts as zero. -/
def tenTo (k : Int) : Nat :=
  Nat.pow 10 k.toNat

end BallotWallet
