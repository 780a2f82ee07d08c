import BallotWallet.Bech32
import BallotWallet.Bytes.Hex
import BallotWallet.Crypto.Blake2b
import BallotWallet.Crypto.Ecdsa

/-!
# Key material and identities

Every way of recovering a wallet leads to a signing key with its chain code. Key material holds
the proof that its key is usable, so an identity can always sign.
-/

namespace BallotWallet.Key

/-- Whether a signing key has 32 bytes that write a scalar between zero and the order. -/
def IsUsable (key : Bytes) : Prop :=
  key.length = 32 ∧ 0 < Bytes.toNatBE key ∧ Bytes.toNatBE key < Secp256k1.order

instance (key : Bytes) : Decidable (IsUsable key) :=
  inferInstanceAs (Decidable (_ ∧ _))

/-- A signing key and its chain code. -/
structure Material where
  privateKey : Bytes
  chainCode : Bytes
  usable : IsUsable privateKey
  deriving DecidableEq

namespace Material

instance : Inhabited Material := ⟨⟨List.replicate 32 1, [], by decide +kernel⟩⟩

def make (privateKey : Bytes) (chainCode : Bytes := []) : Except Failure Material :=
  if h : IsUsable privateKey then .ok ⟨privateKey, chainCode, h⟩
  else if privateKey.length ≠ 32 then
    .error (.recoveryFailed ("private key must be 32 bytes, got " ++ toString privateKey.length))
  else .error (.recoveryFailed "private key is outside the curve order")

/-- The number of bytes of an extended key. -/
def extendedSize : Nat := 64

/-- The key material of an extended key: the signing key, then the chain code. -/
def ofExtended (data : Bytes) : Except Failure Material :=
  if data.length ≠ extendedSize then
    .error (.recoveryFailed
      ("extended key must be 64 bytes, got " ++ toString data.length))
  else make (data.take 32) (data.drop 32)

/-- The extended key: the signing key and the chain code, filled up to 32 bytes. -/
def extended (keys : Material) : Bytes :=
  keys.privateKey ++ Bytes.padRight 32 keys.chainCode

def scalar (keys : Material) : Nat :=
  Bytes.toNatBE keys.privateKey

end Material

/-- The identifier of an account: the hexadecimal text of its public key. -/
def accountId (publicKey : Bytes) : String :=
  Hex.encode publicKey

/-- The readable part of addresses on test chains. -/
def testAddresses : String := "ca"

/-- The readable part of addresses on production chains. -/
def productionAddresses : String := "ta"

/-- The address of a public key, with a readable part. -/
def address (publicKey : Bytes) (hrp : Text := testAddresses) : Text :=
  Bech32.encode hrp (Blake2b.hash publicKey)

/-- An account that can be signed for. -/
structure Identity where
  keys : Material
  publicKey : Bytes
  deriving DecidableEq

namespace Identity

def ofMaterial (keys : Material) : Identity :=
  ⟨keys, Ecdsa.publicKeyOf keys.scalar⟩

def accountId (identity : Identity) : String :=
  Key.accountId identity.publicKey

/-- The first part of the identifier, which is enough to recognise an account. -/
def shortId (identity : Identity) : String :=
  String.ofList (identity.accountId.toList.take 16)

/-- The address of the account on a test chain or on a production chain. -/
def address (identity : Identity) (testing : Bool := true) : Text :=
  Key.address identity.publicKey (if testing then testAddresses else productionAddresses)

def sign (identity : Identity) (message : Bytes) : Bytes :=
  Ecdsa.signWithScalar identity.keys.scalar message

/-- Whether a signature of a message is the account's. -/
def verify (identity : Identity) (message signature : Bytes) : Except Failure Bool :=
  Ecdsa.verify identity.publicKey message signature

def text (identity : Identity) : String :=
  "WalletIdentity(" ++ identity.accountId ++ ")"

end Identity

end BallotWallet.Key
