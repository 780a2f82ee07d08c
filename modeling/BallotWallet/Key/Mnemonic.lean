import BallotWallet.Bytes.Bits
import BallotWallet.Crypto.Pbkdf2
import BallotWallet.Failure
import BallotWallet.Key.WordList
import BallotWallet.Text.Blank
import BallotWallet.Text.Decomposition

/-!
# Secret phrases

A phrase writes down random bits and a few bits of their hash, eleven bits a word. A seed is
stretched from the words of a phrase and an optional passphrase.
-/

namespace BallotWallet.Key.Mnemonic

/-- The numbers of words that a phrase may have. -/
def wordCounts : List Nat := [12, 15, 18, 21, 24]

/-- The number of words is refused unless it is one of the supported ones. -/
def checkCount (count : Int) : Except Failure Unit :=
  if wordCounts.any fun n => (n : Int) = count then .ok ()
  else .error (.wordCount count (wordCounts.map Int.ofNat))

/-- The number of random bytes in a phrase of `count` words: four in every three words. -/
def entropyLength (count : Nat) : Nat :=
  count / 3 * 4

/-- The bits of the hash that follow `length` random bytes, one for every four of them. -/
def hashBits (entropy : Bytes) : List Bool :=
  (Bits.ofBytes (Sha256.hash entropy)).take (entropy.length / 4)

def word (bits : List Bool) : String :=
  wordList.getD (Bits.toNat bits) ""

def wordsOf (entropy : Bytes) : List String :=
  (Bits.groups 11 (Bits.ofBytes entropy ++ hashBits entropy)).map word

def phrase (entropy : Bytes) : String :=
  String.intercalate " " (wordsOf entropy)

/-- A new phrase of `count` words, given what the source of random bytes yields. A source that
runs dry leaves a shorter phrase, if it yields enough for one at all. -/
def generate (count : Int) (entropy : Bytes) : Except Failure String := do
  checkCount count
  let drawn := entropy.take (entropyLength count.toNat)
  if (wordCounts.map entropyLength).contains drawn.length then return phrase drawn
  else throw .badValue

/-- The bits of words, if all of them are in the list. -/
def bitsOf? (words : List String) : Option (List Bool) :=
  (words.mapM (wordList.idxOf? ·)).map (Bits.ofNats 11)

/-- The words of a phrase that are separated by single blanks, in the form of the list. -/
def listWords (s : String) : List String :=
  (Text.cut (· == ' ') (Text.decompose s).toList).map String.ofList

/-- Whether words are in the list and their last bits are those of the hash of the others. -/
def isPhrase (words : List String) : Bool :=
  wordCounts.contains words.length &&
    match bitsOf? words with
    | none => false
    | some bits =>
      let size := bits.length / 33 * 32
      let entropy := (Bits.groups 8 (bits.take size)).map Bits.byte
      bits.drop size == hashBits entropy

/-- Whether a text is a phrase with single blanks between its words. -/
def isValid (t : Text) : Bool :=
  t.string?.any fun s => isPhrase (listWords s)

/-- The number of rounds in which a seed is stretched. -/
def rounds : Nat := 2048

/-- The 64 bytes stretched from a phrase and a passphrase. -/
def stretch (s passphrase : String) : Bytes :=
  Pbkdf2.derive (Bytes.ofString (Text.decompose s))
    (Bytes.ofString ("mnemonic" ++ Text.decompose passphrase)) rounds

/-- The seed of a phrase, whose words may be separated by any white space. -/
def seed (phrase passphrase : Text) : Except Failure Bytes := do
  let words := Text.words phrase
  checkCount words.length
  match (Text.join " " words).string?, passphrase.string? with
  | some s, some passphrase => return stretch s passphrase
  | _, _ => throw .unencodable

end BallotWallet.Key.Mnemonic
