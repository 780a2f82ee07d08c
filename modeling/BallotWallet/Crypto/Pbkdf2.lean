import BallotWallet.Crypto.Hmac

/-!
# Password stretching

The first block of PBKDF2 under HMAC-SHA-512, 64 bytes, which is as much as any key here needs:
the exclusive or of the keyed hashes in a chain that starts from the salt.
-/

namespace BallotWallet.Pbkdf2

open Sha512 (State)

/-- The words of two states combined by exclusive or. -/
def mix (s t : State) : State :=
  ⟨s.a ^^^ t.a, s.b ^^^ t.b, s.c ^^^ t.c, s.d ^^^ t.d,
   s.e ^^^ t.e, s.f ^^^ t.f, s.g ^^^ t.g, s.h ^^^ t.h⟩

/-- The sum `total` after `n` more links of the chain, whose last link is `last`. -/
def chain (key : Hmac.Key512) : Nat → State → State → State
  | 0, _, total => total
  | n + 1, last, total =>
    let next := key.signHash last
    chain key n next (mix total next)

/-- The 64 bytes stretched from a password and a salt in `rounds` keyed hashes. -/
def derive (password salt : Bytes) (rounds : Nat) : Bytes :=
  let key := Hmac.Key512.ofBytes password
  let first := key.sign (salt ++ Bytes.ofNatBE 4 1)
  (chain key (rounds - 1) first first).bytes

@[simp] theorem length_derive (password salt : Bytes) (rounds : Nat) :
    (derive password salt rounds).length = 64 := by
  simp [derive]

end BallotWallet.Pbkdf2
