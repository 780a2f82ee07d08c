import BallotWallet.Folder
import BallotWallet.Key.Card
import BallotWallet.Key.Mnemonic
import BallotWallet.Key.Tree
import BallotWallet.Text.Encoding

/-!
# Recovery

The ways in which a wallet is brought back: a secret phrase, a key card, or a file with an
extended key. What a file holds is part of the source, so recovering is a function.
-/

namespace BallotWallet.Key

/-- Where an identity comes from. -/
inductive Source where
  | phrase (words password : Text) (account index : Int)
  /-- A key card, given by its payload or by a picture at a path. -/
  | card (pin : Text) (payload : Option Text) (picture : Option (Text × Card.Picture))
  /-- A file with an extended key; without content it cannot be read. -/
  | keyFile (path : Text) (content : Option Bytes)
  deriving Inhabited

namespace Source

def kind : Source → String
  | phrase .. => "MnemonicSource"
  | card .. => "QrSource"
  | keyFile .. => "SecretKeySource"

def keyLine (content : Text) : Text :=
  Text.strip ⟨content.points.filter fun p => p != .char '\n' && p != .char '\r'⟩

/-- The readable part and the bytes of the text in a key file. Where there is no content, the path
leads to no file that can be read, or it cannot even be a path. -/
def readKeyFile (path : Text) (content : Option Bytes) : Except Failure (Text × Bytes) :=
  match content with
  | none => do
    Folder.checkPath path
    throw (.recoveryFailed ("cannot read secret key file '" ++ path ++ "'"))
  | some bs =>
    match Text.utf8? bs with
    | none => .error .undecodable
    | some t => Bech32.decode (keyLine t)

def fromPhrase (words password : Text) (account index : Int) : Except Failure Material := do
  let words := Text.words words
  Mnemonic.checkCount words.length
  let phrase := Text.join " " words
  if !Mnemonic.isValid phrase then
    throw (.recoveryFailed "invalid mnemonic: unknown word or bad checksum")
  let seed ← Mnemonic.seed phrase password
  let node ← (Node.ofSeed seed).walk (walletPath account index)
  node.material

/-- The key material of a key card. The PIN is looked at before anything is read. -/
def fromCard (pin : Text) (payload : Option Text)
    (picture : Option (Text × Card.Picture)) : Except Failure Material := do
  let _ ← Card.pinBytes pin
  let payload ← match payload, picture with
    | some payload, _ => pure payload
    | none, some (path, picture) => Card.readPicture path picture
    | none, none => throw (.recoveryFailed "QR recovery needs an image or a payload")
  let secret ← Card.decode payload pin
  Material.ofExtended secret

def fromKeyFile (path : Text) (content : Option Bytes) : Except Failure Material := do
  let (_, data) ← readKeyFile path content
  if data.length ≠ Material.extendedSize then
    throw (.malformedKey
      ("secret key payload must be 64 bytes, got " ++ toString data.length))
  match Material.ofExtended data with
  | .error (.recoveryFailed reason) => throw (.malformedKey reason)
  | result => result

def material : Source → Except Failure Material
  | phrase words password account index => fromPhrase words password account index
  | card pin payload picture => fromCard pin payload picture
  | keyFile path content => fromKeyFile path content

def identity (source : Source) : Except Failure Identity :=
  Identity.ofMaterial <$> source.material

end Source

end BallotWallet.Key
