import BallotWallet.Bytes
import BallotWallet.Text

/-!
# Encoded text

UTF-8 is read strictly or with U+FFFD in the place of every ill-formed stretch, where a stretch
is as long as it could still have become a character. A JSON document may also come in UTF-16 or
UTF-32, which its first four bytes tell; halves of surrogate pairs that stand alone are kept in
it, whatever the encoding. They have no place in UTF-8 otherwise.
-/

namespace BallotWallet.Text

/-- Whether a byte continues a character. -/
def isContinuation (b : UInt8) : Bool :=
  0x80 ≤ b && b ≤ 0xbf

/-- Whether `b` may stand second after the first byte `lead` of three or four; `halves` says
whether halves of surrogate pairs are let through. -/
def maySecond (halves : Bool) (lead b : UInt8) : Bool :=
  if lead == 0xe0 then 0xa0 ≤ b && b ≤ 0xbf
  else if lead == 0xed && !halves then 0x80 ≤ b && b ≤ 0x9f
  else if lead == 0xf0 then 0x90 ≤ b && b ≤ 0xbf
  else if lead == 0xf4 then 0x80 ≤ b && b ≤ 0x8f
  else isContinuation b

/-- A character of which some bytes have been read. -/
structure Unfinished where
  lead : UInt8
  /-- How many bytes are still to come. -/
  missing : Nat
  /-- The bits read so far. -/
  bits : Nat
  /-- Whether the first byte is all that has been read. -/
  fresh : Bool

def Unfinished.fits (halves : Bool) (u : Unfinished) (b : UInt8) : Bool :=
  if u.fresh then maySecond halves u.lead b else isContinuation b

/-- What a first byte gives: code points, or a character to be continued. -/
def startChar (b : UInt8) : List (Option CodePoint) × Option Unfinished :=
  if b < 0x80 then ([some (.ofNat b.toNat)], none)
  else if 0xc2 ≤ b && b ≤ 0xdf then ([], some ⟨b, 1, b.toNat - 0xc0, true⟩)
  else if 0xe0 ≤ b && b ≤ 0xef then ([], some ⟨b, 2, b.toNat - 0xe0, true⟩)
  else if 0xf0 ≤ b && b ≤ 0xf4 then ([], some ⟨b, 3, b.toNat - 0xf0, true⟩)
  else ([none], none)

/-- What the byte `b` gives after the character in progress. -/
def nextChar (halves : Bool) (u : Option Unfinished) (b : UInt8) :
    List (Option CodePoint) × Option Unfinished :=
  match u with
  | none => startChar b
  | some u =>
    if u.fits halves b then
      let bits := u.bits * 64 + (b.toNat - 0x80)
      if u.missing ≤ 1 then ([some (.ofNat bits)], none)
      else ([], some ⟨u.lead, u.missing - 1, bits, false⟩)
    else
      let (ps, u) := startChar b
      (none :: ps, u)

/-- The code points of a byte string after the character in progress, with nothing for every
ill-formed stretch. -/
def utf8From (halves : Bool) (u : Option Unfinished) : Bytes → List (Option CodePoint)
  | [] => if u.isSome then [none] else []
  | b :: bs =>
    let (ps, u) := nextChar halves u b
    ps ++ utf8From halves u bs

/-- The code points of a byte string in UTF-8, with nothing for every ill-formed stretch. -/
def utf8Points (halves : Bool) (bs : Bytes) : List (Option CodePoint) :=
  utf8From halves none bs

/-- The text of a byte string in UTF-8, if all of it is well-formed. -/
def utf8? (bs : Bytes) : Option Text :=
  ((utf8Points false bs).mapM id).map Text.mk

/-- The text of a byte string in UTF-8, with U+FFFD for every ill-formed stretch. -/
def utf8Repaired (bs : Bytes) : Text :=
  ⟨(utf8Points false bs).map fun p => p.getD (.char (Char.ofNat 0xfffd))⟩

/-- The units of `width` bytes that a byte string consists of, if it does. -/
def units? (width : Nat) (number : Bytes → Nat) (bs : Bytes) : Option (List Nat) :=
  if bs.length % width == 0 then
    some ((List.range (bs.length / width)).map fun i => number ((bs.drop (i * width)).take width))
  else none

/-- The code points of units of 16 bits: halves that follow one another in order are a pair. -/
def utf16Points : List Nat → List CodePoint
  | [] => []
  | [n] => [.ofNat n]
  | n :: m :: rest =>
    if CodePoint.isFirstHalf n && CodePoint.isSecondHalf m then .ofPair n m :: utf16Points rest
    else .ofNat n :: utf16Points (m :: rest)

/-- The code points of units of 32 bits, if each is small enough to be one. -/
def utf32Points? (ns : List Nat) : Option (List CodePoint) :=
  ns.mapM fun n => if n < 0x110000 then some (.ofNat n) else none

/-- The encodings a JSON document may come in. -/
inductive Encoding where
  | utf8
  | utf16 (bigEnd : Bool)
  | utf32 (bigEnd : Bool)
  deriving DecidableEq

/-- The number of a unit in the given order of bytes. -/
def unitNumber (bigEnd : Bool) (bs : Bytes) : Nat :=
  if bigEnd then Bytes.toNatBE bs else Bytes.toNatLE bs

def Encoding.points? (bs : Bytes) : Encoding → Option (List CodePoint)
  | .utf8 => (utf8Points true bs).mapM id
  | .utf16 big => (units? 2 (unitNumber big) bs).map utf16Points
  | .utf32 big => (units? 4 (unitNumber big) bs).bind utf32Points?

/-- The byte order marks, each of the longer ones before the shorter one it starts with. -/
def byteOrderMarks : List (Bytes × Encoding) :=
  [([0x00, 0x00, 0xfe, 0xff], .utf32 true), ([0xff, 0xfe, 0x00, 0x00], .utf32 false),
    ([0xfe, 0xff], .utf16 true), ([0xff, 0xfe], .utf16 false), ([0xef, 0xbb, 0xbf], .utf8)]

/-- The encoding of a JSON document without a byte order mark: the zeros among its first four
bytes decide. -/
def unmarkedEncoding : Bytes → Encoding
  | a :: b :: c :: d :: _ =>
    if a == 0 then (if b != 0 then .utf16 true else .utf32 true)
    else if b == 0 then (if c != 0 || d != 0 then .utf16 false else .utf32 false)
    else .utf8
  | [a, b] => if a == 0 then .utf16 true else if b == 0 then .utf16 false else .utf8
  | _ => .utf8

/-- The encoding of a JSON document and the document without its byte order mark. -/
def detectEncoding (bs : Bytes) : Encoding × Bytes :=
  match byteOrderMarks.find? fun mark => mark.1.isPrefixOf bs with
  | some (mark, encoding) => (encoding, bs.drop mark.length)
  | none => (unmarkedEncoding bs, bs)

/-- The text of a JSON document in any of its encodings. -/
def jsonText? (bs : Bytes) : Option Text :=
  let (encoding, rest) := detectEncoding bs
  (encoding.points? rest).map Text.mk

/-- The bytes of a text in UTF-8, if it can be written so. -/
def toUtf8? (t : Text) : Option Bytes :=
  t.string?.map Bytes.ofString

end BallotWallet.Text
