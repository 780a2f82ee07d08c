import BallotWallet.Bytes.Hex
import BallotWallet.Crypto.Pbkdf2
import BallotWallet.Crypto.SealedBox
import BallotWallet.Failure
import BallotWallet.Folder
import BallotWallet.Text.Digit

/-!
# Key cards

A key card is a QR code with an extended key encrypted under a PIN. Its payload is the
hexadecimal text of a version, a salt, a nonce, the ciphertext and a tag, so that a wrong PIN is
noticed instead of giving a wrong key.
-/

namespace BallotWallet.Key.Card

def version : UInt8 := 1

/-- The number of bytes of the salt. -/
def saltSize : Nat := 16

/-- The number of bytes of the nonce. -/
def nonceSize : Nat := 12

/-- The number of bytes of the tag. -/
def tagSize : Nat := 16

/-- The number of bytes in front of the ciphertext. -/
def headerSize : Nat := 1 + saltSize + nonceSize

/-- The number of rounds in which a key is stretched from a PIN. -/
def rounds : Nat := 12983

/-- The digit that a character of a PIN stands for. Some characters look like digits without
standing for a number. -/
def pinDigit (c : Char) : Except Failure UInt8 :=
  match Text.decimal? c with
  | some n => .ok (UInt8.ofNat n)
  | none => .error .badValue

/-- The refusal of a PIN that is not made of digits. -/
def notDigits : Failure :=
  .recoveryFailed "PIN must consist only of digits"

/-- A PIN as bytes, one for each digit. -/
def pinBytes (pin : Text) : Except Failure Bytes :=
  match pin.chars? with
  | some (c :: cs) =>
    if (c :: cs).all Text.isDigit then (c :: cs).mapM pinDigit else .error notDigits
  | _ => .error notDigits

/-- The key that belongs to a PIN and a salt. -/
def secretKey (pin : Text) (salt : Bytes) : Except Failure Bytes := do
  let digits ← pinBytes pin
  return (Pbkdf2.derive digits salt rounds).take 32

/-- The payload for a secret under a PIN, given what the source of random bytes yields: the salt,
then the nonce. -/
def encode (secret : Bytes) (pin : Text) (random : Bytes) : Except Failure String := do
  let salt := random.take saltSize
  let nonce := (random.drop saltSize).take nonceSize
  let key ← secretKey pin salt
  match SealedBox.fullNonce? nonce with
  | none => throw .badValue
  | some full =>
    let (ciphertext, tag) := SealedBox.lock key full secret
    return Hex.encode (version :: (salt ++ nonce ++ ciphertext ++ tag))

/-- The parts of a payload. -/
structure Parts where
  version : UInt8
  salt : Bytes
  nonce : Bytes
  ciphertext : Bytes
  tag : Bytes

def parts (blob : Bytes) : Parts where
  version := blob.headD 0
  salt := (blob.drop 1).take saltSize
  nonce := (blob.drop (1 + saltSize)).take nonceSize
  ciphertext := (blob.drop headerSize).take (blob.length - headerSize - tagSize)
  tag := blob.drop (blob.length - tagSize)

/-- The parts of a payload, if it is complete and of the known version. -/
def read (payload : Text) : Except Failure Parts :=
  match (Text.strip payload).chars?.bind Hex.bytes? with
  | none => .error (.recoveryFailed "QR payload is not valid hex")
  | some blob =>
    if blob.length ≤ headerSize + tagSize then .error (.recoveryFailed "QR payload is truncated")
    else
      let p := parts blob
      if p.version ≠ version then
        .error (.recoveryFailed
          ("unsupported QR payload version " ++ toString p.version.toNat))
      else .ok p

/-- The secret of a payload under a PIN. -/
def decode (payload pin : Text) : Except Failure Bytes := do
  let p ← read payload
  let key ← secretKey pin p.salt
  match SealedBox.unlock? key p.nonce p.ciphertext p.tag with
  | some secret => return secret
  | none => .error (.recoveryFailed "cannot decrypt QR code: wrong PIN or corrupt data")

/-- What looking at a picture file shows. -/
structure Picture where
  /-- Whether there is such a file. -/
  present : Bool := true
  /-- Whether it is a picture. -/
  isImage : Bool := true
  /-- Whether a QR code was located in it. -/
  located : Bool := true
  /-- The text of the code. -/
  text : Text := ""
  deriving DecidableEq, Inhabited

def readPicture (path : Text) (picture : Picture) : Except Failure Text :=
  let unreadable := "cannot read QR code from '" ++ path ++ "' path"
  if !picture.present then .error (.recoveryFailed unreadable)
  else if !picture.isImage then .error (.recoveryFailed (unreadable ++ ": not an image"))
  else if !picture.located || picture.text.isEmpty then
    .error (.recoveryFailed ("no QR code found in '" ++ path ++ "'"))
  else .ok picture.text

/-- Where a picture of a payload goes, and the text that is drawn. -/
structure Drawing where
  path : Text
  content : Text
  deriving DecidableEq

/-- The picture of a payload at a path where it can be written; the folders on the way to it are
made. -/
def draw (folder : Folder) (payload path : Text) : Except Failure Drawing := do
  let _ ← folder.writable path
  return ⟨Text.normalPath path, payload⟩

end BallotWallet.Key.Card
