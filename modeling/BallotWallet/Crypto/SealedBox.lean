import BallotWallet.Crypto.ChaCha20
import BallotWallet.Crypto.Poly1305

/-!
# Authenticated encryption

ChaCha20 for secrecy and Poly1305 for authenticity, without associated data. The tag is made
with a key of its own from block zero of the stream; the message starts at block one.
-/

namespace BallotWallet.SealedBox

/-- Zero bytes up to the next multiple of 16. -/
def fill (length : Nat) : Bytes :=
  List.replicate ((16 - length % 16) % 16) 0

/-- The twelve bytes of a nonce; a nonce of eight has four zeros in front. -/
def fullNonce? (nonce : Bytes) : Option Bytes :=
  if nonce.length = 12 then some nonce
  else if nonce.length = 8 then some ([0, 0, 0, 0] ++ nonce)
  else none

def tag (key nonce ciphertext : Bytes) : Bytes :=
  Poly1305.tag ((ChaCha20.stream key nonce 0).take 32)
    (ciphertext ++ fill ciphertext.length ++ Bytes.ofNatLE 8 0 ++
      Bytes.ofNatLE 8 ciphertext.length)

/-- The ciphertext of a message and its tag. -/
def lock (key nonce message : Bytes) : Bytes × Bytes :=
  let ciphertext := ChaCha20.apply key nonce 1 message
  (ciphertext, tag key nonce ciphertext)

/-- The message of a ciphertext, if the tag is the one that belongs to it. -/
def unlock? (key nonce ciphertext given : Bytes) : Option Bytes :=
  if tag key nonce ciphertext = given then some (ChaCha20.apply key nonce 1 ciphertext) else none

@[simp] theorem length_tag (key nonce ciphertext : Bytes) :
    (tag key nonce ciphertext).length = 16 := by
  simp [tag]

end BallotWallet.SealedBox
