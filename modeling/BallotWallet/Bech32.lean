import BallotWallet.Bytes.Bits
import BallotWallet.Failure
import BallotWallet.Text.Case

/-!
# Bech32

A byte string as text: a readable part, the digit one, the bytes in pieces of five bits, and six
characters of checksum over both parts. Extended keys are longer than addresses, so texts of up
to 1023 characters are read.
-/

namespace BallotWallet.Bech32

/-- The characters of the 32 pieces. -/
def charset : List Char := "qpzry9x8gf2tvdw0s3jn54khce6mua7l".toList

/-- The length beyond which no text is read. -/
def maxLength : Nat := 1023

def char (word : Nat) : Char :=
  charset.getD word 'q'

/-- The multiples of the checksum polynomial that the five highest bits stand for. -/
def generators : List Nat := [0x3b6a57b2, 0x26508e6d, 0x1ea119fa, 0x3d4233dd, 0x2a1462b3]

/-- The sum of the generators whose bits are set in `top`. -/
def reduction (top : Nat) : Nat :=
  (generators.zipIdx.map fun g => if top.testBit g.2 then g.1 else 0).foldl (· ^^^ ·) 0

/-- The checksum after one more piece. -/
def step (sum word : Nat) : Nat :=
  ((sum % 0x2000000) * 32) ^^^ word ^^^ reduction (sum / 0x2000000)

def checksum (words : List Nat) : Nat :=
  words.foldl step 1

/-- The readable part as pieces: the high bits of its code points, a zero, and the low bits. -/
def expand (hrp : Text) : List Nat :=
  hrp.points.map (fun p => p.toNat / 32) ++ 0 :: hrp.points.map (fun p => p.toNat % 32)

/-- The six pieces that complete others. -/
def completion (hrp : Text) (words : List Nat) : List Nat :=
  let sum := checksum (expand hrp ++ words ++ List.replicate 6 0) ^^^ 1
  (List.range 6).map fun i => (sum >>> (5 * (5 - i))) % 32

/-- The bytes in pieces of five bits, the last one filled up with zeros. -/
def wordsOf (data : Bytes) : List Nat :=
  (Bits.groups 5 (Bits.ofBytes data)).map fun g => Bits.toNat (Bits.padRight 5 g)

/-- The bytes of pieces of five bits, if what is left over could be such filling. -/
def bytesOf? (words : List Nat) : Option Bytes :=
  let bits := Bits.ofNats 5 words
  let rest := bits.drop (8 * (bits.length / 8))
  if 5 ≤ rest.length || rest.any id then none
  else some ((Bits.groups 8 (bits.take (8 * (bits.length / 8)))).map Bits.byte)

/-- The text of a readable part and a byte string. -/
def encode (hrp : Text) (data : Bytes) : Text :=
  let words := wordsOf data
  hrp ++ "1" ++ Text.ofChars ((words ++ completion hrp words).map char)

/-- Whether a text has characters only that can be printed, and no blanks. -/
def isGraphic (t : Text) : Bool :=
  t.points.all fun p => 33 ≤ p.toNat && p.toNat ≤ 126

/-- Whether the letters are all of one case. -/
def oneCase (t : Text) : Bool :=
  Text.lower t == t || Text.upper t == t

/-- The text in front of the last digit one, and the code points behind it, if there is one. -/
def splitLast? (t : Text) : Option (Text × List Text.CodePoint) :=
  let behind := (t.points.reverse.takeWhile (· != .char '1')).reverse
  if behind.length < t.points.length then
    some (t.take (t.points.length - behind.length - 1), behind)
  else none

/-- The piece that a code point stands for. -/
def word? (p : Text.CodePoint) : Option Nat :=
  p.char?.bind (charset.idxOf? ·)

/-- The readable part and the pieces of a text without their checksum, if the text is valid. -/
def split? (t : Text) : Option (Text × List Nat) :=
  if !isGraphic t || !oneCase t || maxLength < t.points.length then none
  else
    match splitLast? (Text.lower t) with
    | none => none
    | some (hrp, body) =>
      if hrp.isEmpty || body.length < 6 then none
      else
        match body.mapM word? with
        | none => none
        | some words =>
          if checksum (expand hrp ++ words) = 1 then some (hrp, words.take (words.length - 6))
          else none

/-- The readable part and the byte string of a text. -/
def decode (t : Text) : Except Failure (Text × Bytes) :=
  match split? t with
  | none => .error (.malformedKey "invalid bech32 string")
  | some (hrp, words) =>
    match bytesOf? words with
    | none => .error (.malformedKey "invalid bech32 padding")
    | some data => .ok (hrp, data)

end BallotWallet.Bech32
