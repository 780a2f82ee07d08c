import BallotWallet.Crypto.Sha256
import BallotWallet.Crypto.Sha512

/-!
# Keyed hashes

A keyed hash is two hashes, one inside the other, each started with a block made of the key.
With SHA-512 the two started states are kept as a value, because a password is stretched by
applying the same key thousands of times.
-/

namespace BallotWallet.Hmac

/-- The key as one block of `size` bytes: a longer key is hashed first, a shorter one is padded. -/
def keyBlock (hash : Bytes → Bytes) (size : Nat) (key : Bytes) : Bytes :=
  Bytes.padRight size (if size < key.length then hash key else key)

/-- The keyed hash of a message under SHA-256. -/
def sha256 (key message : Bytes) : Bytes :=
  let block := keyBlock Sha256.hash 64 key
  Sha256.hash (block.map (· ^^^ 0x5c) ++ Sha256.hash (block.map (· ^^^ 0x36) ++ message))

/-- A key under SHA-512: the states after the inner and after the outer key block. -/
structure Key512 where
  inner : Sha512.State
  outer : Sha512.State

/-- The state after the one block `bs`. -/
def started (bs : Bytes) : Sha512.State :=
  Sha512.compress Sha512.start (Sha512.words bs).toArray

/-- The two started states of a key. -/
def Key512.ofBytes (key : Bytes) : Key512 :=
  let block := keyBlock Sha512.hash 128 key
  ⟨started (block.map (· ^^^ 0x36)), started (block.map (· ^^^ 0x5c))⟩

/-- The keyed hash of a message, as a state. -/
def Key512.sign (k : Key512) (message : Bytes) : Sha512.State :=
  Sha512.hashFrom k.outer 128 (Sha512.hashFrom k.inner 128 message).bytes

/-- The padded block of a message that is itself a hash and follows a key block. -/
def hashBlock (s : Sha512.State) : Array UInt64 :=
  #[s.a, s.b, s.c, s.d, s.e, s.f, s.g, s.h, 0x8000000000000000, 0, 0, 0, 0, 0, 0, 1536]

/-- The keyed hash of a message that is itself a hash: one block inside and one outside. -/
def Key512.signHash (k : Key512) (s : Sha512.State) : Sha512.State :=
  Sha512.compress k.outer (hashBlock (Sha512.compress k.inner (hashBlock s)))

/-- The keyed hash of a message under SHA-512. -/
def sha512 (key message : Bytes) : Bytes :=
  ((Key512.ofBytes key).sign message).bytes

@[simp] theorem length_sha256 (key message : Bytes) : (sha256 key message).length = 32 := by
  simp [sha256]

@[simp] theorem length_sha512 (key message : Bytes) : (sha512 key message).length = 64 := by
  simp [sha512]

end BallotWallet.Hmac
