/-!
# Code points

A JSON text may name one half of a surrogate pair without the other. Such a half is no character,
but a text that holds one can still be compared, shown and written again. A code point is a
character or such a half.
-/

namespace BallotWallet.Text

/-- A character, or half of a surrogate pair that stands alone. -/
inductive CodePoint where
  | char (c : Char)
  | half (n : Fin 0x800)
  deriving DecidableEq, Inhabited

namespace CodePoint

def toNat : CodePoint → Nat
  | char c => c.toNat
  | half n => 0xd800 + n.val

def ofNat (n : Nat) : CodePoint :=
  if h : 0xd800 ≤ n ∧ n < 0xe000 then half ⟨n - 0xd800, by omega⟩ else char (Char.ofNat n)

/-- Whether a number is that of the first half of a surrogate pair. -/
def isFirstHalf (n : Nat) : Bool :=
  0xd800 ≤ n && n < 0xdc00

/-- Whether a number is that of the second half of a surrogate pair. -/
def isSecondHalf (n : Nat) : Bool :=
  0xdc00 ≤ n && n < 0xe000

/-- The character beyond the first plane that the halves with two numbers make up. -/
def ofPair (first second : Nat) : CodePoint :=
  char (Char.ofNat (0x10000 + (first - 0xd800) * 0x400 + (second - 0xdc00)))

/-- The character, unless the code point is half of one. -/
def char? : CodePoint → Option Char
  | char c => some c
  | half _ => none

def isChar (p : Char → Bool) : CodePoint → Bool
  | char c => p c
  | half _ => false

/-- The number of half a surrogate pair gives that half. -/
theorem ofNat_toNat_half (n : Fin 0x800) : ofNat (half n).toNat = half n := by
  have h : 0xd800 ≤ 0xd800 + n.val ∧ 0xd800 + n.val < 0xe000 := by omega
  simp [toNat, ofNat, h.2]

end CodePoint

end BallotWallet.Text
