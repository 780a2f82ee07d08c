import BallotWallet.Bytes

/-!
# Poly1305

A one-time tag of 16 bytes: the message, cut into pieces of 16 bytes with a final one bit each,
is evaluated as a polynomial at a point of the key modulo `2 ^ 130 - 5`.
-/

namespace BallotWallet.Poly1305

def prime : Nat := 0x3fffffffffffffffffffffffffffffffb

/-- The bits of the point that may be set. -/
def mask : Nat := 0x0ffffffc0ffffffc0ffffffc0fffffff

def evaluate (point total : Nat) (message : Bytes) : Nat :=
  if message.isEmpty then total
  else
    let piece := Bytes.toNatLE (message.take 16 ++ [1])
    evaluate point ((total + piece) * point % prime) (message.drop 16)
termination_by message.length
decreasing_by
  cases message with
  | nil => simp at *
  | cons b bs => rw [List.length_drop, List.length_cons]; omega

/-- The tag of a message under a key of 32 bytes. -/
def tag (key message : Bytes) : Bytes :=
  let point := Bytes.toNatLE (key.take 16) &&& mask
  let pad := Bytes.toNatLE (key.drop 16)
  Bytes.ofNatLE 16 (evaluate point 0 message + pad)

@[simp] theorem length_tag (key message : Bytes) : (tag key message).length = 16 := by
  simp [tag]

end BallotWallet.Poly1305
