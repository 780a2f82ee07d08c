import BallotWallet.Bytes

/-!
# Hexadecimal text

Bytes are written as two lower-case digits each. Reading accepts either letter case and skips
ASCII white space in front of a byte, never between its two digits.
-/

namespace BallotWallet.Hex

def digit (n : Nat) : Char :=
  if n < 10 then Char.ofNat (48 + n) else Char.ofNat (87 + n)

/-- The value of a digit in either letter case. -/
def value? (c : Char) : Option Nat :=
  if '0' ≤ c ∧ c ≤ '9' then some (c.toNat - 48)
  else if 'a' ≤ c ∧ c ≤ 'f' then some (c.toNat - 87)
  else if 'A' ≤ c ∧ c ≤ 'F' then some (c.toNat - 55)
  else none

/-- The two digits of each byte, as characters. -/
def chars : Bytes → List Char
  | [] => []
  | b :: bs => digit (b.toNat / 16) :: digit (b.toNat % 16) :: chars bs

/-- The two lower-case digits of each byte. -/
def encode (bs : Bytes) : String :=
  String.ofList (chars bs)

/-- White space that may stand in front of a byte: blank, tab and the line characters. -/
def isGap (c : Char) : Bool :=
  c = ' ' || ('\t' ≤ c && c ≤ '\r')

/-- The bytes of a list of digits, or nothing if a byte is cut short or holds another character. -/
def bytes? : List Char → Option Bytes
  | [] => some []
  | c :: rest =>
    if isGap c then bytes? rest
    else
      match rest with
      | [] => none
      | d :: rest =>
        match value? c, value? d with
        | some hi, some lo => (bytes? rest).map (UInt8.ofNat (hi * 16 + lo) :: ·)
        | _, _ => none

/-- The bytes that a hexadecimal text stands for. -/
def decode? (s : String) : Option Bytes :=
  bytes? s.toList

/-- The digits of `n` in base sixteen, at least `width` of them. -/
def ofNat (width n : Nat) : String :=
  let ds := (Nat.toDigits 16 n)
  String.ofList (List.replicate (width - ds.length) '0' ++ ds)

end BallotWallet.Hex
