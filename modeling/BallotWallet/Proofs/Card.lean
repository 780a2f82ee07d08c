import BallotWallet.Key.Card
import BallotWallet.Proofs.Numeral

/-!
# Reading key cards

Whatever key a PIN and a salt give, the stream of the cipher is as long as the message, so it is
taken off as it was put on, and the tag is found to be the right one. The parts of a payload are
found where they were put, with white space around it or without.
-/

namespace BallotWallet.ChaCha20

/-! ## The cipher -/

@[simp] theorem size_quarter (v : Array UInt32) (a b c d : Nat) :
    (quarter v a b c d).size = v.size := by
  simp [quarter]

@[simp] theorem size_doubleRound (v : Array UInt32) : (doubleRound v).size = v.size := by
  simp [doubleRound]

@[simp] theorem length_words (bs : Bytes) : (words bs).length = bs.length / 4 := by
  induction bs using words.induct with
  | case1 b0 b1 b2 b3 rest ih =>
      simp only [words, List.length_cons, ih]
      omega
  | case2 bs h =>
      have hshort : bs.length < 4 := by
        rcases bs with _ | ⟨b0, _ | ⟨b1, _ | ⟨b2, _ | ⟨b3, rest⟩⟩⟩⟩
        · simp
        · simp
        · simp
        · simp
        · exact absurd rfl (h b0 b1 b2 b3 rest)
      rw [words, List.length_nil, Nat.div_eq_of_lt hshort]
      exact h

variable {key nonce : Bytes}

theorem length_block (hkey : key.length = 32) (hnonce : nonce.length = 12) (counter : Nat) :
    (block key nonce counter).length = 16 := by
  simp [block, hkey, hnonce]

theorem size_foldl_doubleRound (rounds : List Nat) (v : Array UInt32) :
    (rounds.foldl (fun v _ => doubleRound v) v).size = v.size := by
  induction rounds generalizing v with
  | nil => rfl
  | cons _ rounds ih => rw [List.foldl_cons, ih, size_doubleRound]

theorem length_stream (hkey : key.length = 32) (hnonce : nonce.length = 12) (counter : Nat) :
    (stream key nonce counter).length = 64 := by
  have hblock := length_block hkey hnonce counter
  unfold stream
  simp only [List.length_flatMap, Bytes.length_ofNatLE, List.map_const', List.sum_replicate_nat,
    List.length_zipWith, Array.length_toList, size_foldl_doubleRound, List.size_toArray, hblock]
  rfl

/-- The stream reaches as far as the message. -/
theorem length_le_streams (hkey : key.length = 32) (hnonce : nonce.length = 12) (counter n : Nat) :
    n ≤ ((List.range ((n + 63) / 64)).flatMap fun i => stream key nonce (counter + i)).length := by
  simp only [List.length_flatMap, length_stream hkey hnonce, List.map_const', List.length_range,
    List.sum_replicate_nat]
  omega

theorem xor_xor {message stream : Bytes} (h : message.length ≤ stream.length) :
    Bytes.xor (Bytes.xor message stream) stream = message := by
  unfold Bytes.xor
  induction message generalizing stream with
  | nil => simp
  | cons b message ih =>
      cases stream with
      | nil => simp at h
      | cons s stream =>
          rw [List.zipWith_cons_cons, List.zipWith_cons_cons, UInt8.xor_assoc, UInt8.xor_self,
            UInt8.xor_zero, ih (Nat.le_of_succ_le_succ h)]

@[simp] theorem length_apply (hkey : key.length = 32) (hnonce : nonce.length = 12) (counter : Nat)
    (message : Bytes) : (apply key nonce counter message).length = message.length := by
  have hlong := length_le_streams hkey hnonce counter message.length
  unfold apply Bytes.xor
  rw [List.length_zipWith]
  exact Nat.min_eq_left hlong

/-- Deciphering gives the message back. -/
theorem apply_apply (hkey : key.length = 32) (hnonce : nonce.length = 12) (counter : Nat)
    (message : Bytes) :
    apply key nonce counter (apply key nonce counter message) = message := by
  have hlength := length_apply hkey hnonce counter message
  have htwice : apply key nonce counter (apply key nonce counter message) =
      Bytes.xor (apply key nonce counter message)
        ((List.range ((message.length + 63) / 64)).flatMap fun i =>
          stream key nonce (counter + i)) := by
    rw [apply, hlength]
  rw [htwice]
  exact xor_xor (length_le_streams hkey hnonce counter message.length)

end BallotWallet.ChaCha20

namespace BallotWallet.SealedBox

/-- A locked message is unlocked with the same key. -/
theorem unlock?_lock {key nonce : Bytes} (hkey : key.length = 32) (hnonce : nonce.length = 12)
    (message : Bytes) :
    unlock? key nonce (lock key nonce message).1 (lock key nonce message).2 = some message := by
  have hmessage := ChaCha20.apply_apply hkey hnonce 1 message
  simp [unlock?, lock, hmessage]

theorem length_lock {key nonce : Bytes} (hkey : key.length = 32) (hnonce : nonce.length = 12)
    (message : Bytes) : (lock key nonce message).1.length = message.length :=
  ChaCha20.length_apply hkey hnonce 1 message

end BallotWallet.SealedBox

namespace BallotWallet.Hex

theorem isBlank_digit {n : Nat} (h : n < 16) : Text.isBlank (digit n) = false := by
  have hall : ∀ i : Fin 16, Text.isBlank (digit i) = false := by decide
  exact hall ⟨n, h⟩

theorem isBlank_of_mem_chars {bs : Bytes} {c : Char} (h : c ∈ chars bs) :
    Text.isBlank c = false := by
  induction bs with
  | nil => cases h
  | cons b bs ih =>
      have hb : b.toNat < 256 := b.toNat_lt
      rcases List.mem_cons.mp h with rfl | h
      · exact isBlank_digit (by omega)
      · rcases List.mem_cons.mp h with rfl | h
        · exact isBlank_digit (Nat.mod_lt _ (by decide))
        · exact ih h

end BallotWallet.Hex

namespace BallotWallet.Key.Card

/-! ## The key -/

theorem length_secretKey {pin : Text} {salt key : Bytes} (h : secretKey pin salt = .ok key) :
    key.length = 32 := by
  unfold secretKey at h
  cases hdigits : pinBytes pin with
  | error e =>
      rw [hdigits] at h
      cases h
  | ok digits =>
      rw [hdigits] at h
      cases h
      simp

/-! ## The payload -/

section Payload

variable {salt nonce ciphertext tag : Bytes}

/-- The parts of a payload are where they were put. -/
theorem parts_eq (v : UInt8) (hsalt : salt.length = saltSize) (hnonce : nonce.length = nonceSize)
    (htag : tag.length = tagSize) :
    parts (v :: (salt ++ nonce ++ ciphertext ++ tag)) = ⟨v, salt, nonce, ciphertext, tag⟩ := by
  have hsalt' : salt.length = 16 := hsalt
  have hnonce' : nonce.length = 12 := hnonce
  have htag' : tag.length = 16 := htag
  have hheader : headerSize = (v :: (salt ++ nonce)).length := by
    simp [hsalt', hnonce', headerSize, saltSize, nonceSize]
  have hmiddle : (v :: (salt ++ nonce ++ ciphertext ++ tag)).length - headerSize - tagSize =
      ciphertext.length := by
    simp only [List.length_cons, List.length_append, hsalt', hnonce', htag', headerSize, saltSize,
      nonceSize, tagSize]
    omega
  have hend : (v :: (salt ++ nonce ++ ciphertext ++ tag)).length - tagSize =
      (v :: (salt ++ nonce ++ ciphertext)).length := by
    simp only [List.length_cons, List.length_append, htag', tagSize]
    omega
  have hcipher : (v :: (salt ++ nonce ++ ciphertext ++ tag)).drop headerSize =
      ciphertext ++ tag := by
    rw [hheader, List.append_assoc _ ciphertext]
    exact List.drop_left
  have hlast : (v :: (salt ++ nonce ++ ciphertext ++ tag)).drop
      (v :: (salt ++ nonce ++ ciphertext)).length = tag :=
    List.drop_left
  unfold parts
  rw [hend, hmiddle, hcipher, hlast, List.take_left]
  simp [← hsalt, ← hnonce, List.append_assoc, Nat.add_comm 1]

end Payload

section Encoded

variable {pin : Text} {secret salt nonce : Bytes}

/-- The bytes of a payload: the version, the random bytes, and the locked secret. -/
def blob (key salt nonce secret : Bytes) : Bytes :=
  version :: (salt ++ nonce ++ (SealedBox.lock key nonce secret).1 ++
    (SealedBox.lock key nonce secret).2)

/-- A payload is written whenever the PIN gives a key. -/
theorem encode_eq (hsalt : salt.length = saltSize) (hnonce : nonce.length = nonceSize) {key : Bytes}
    (hkey : secretKey pin salt = .ok key) :
    encode secret pin (salt ++ nonce) = .ok (Hex.encode (blob key salt nonce secret)) := by
  have hfront : (salt ++ nonce).take saltSize = salt := by
    rw [← hsalt, List.take_left]
  have hback : ((salt ++ nonce).drop saltSize).take nonceSize = nonce := by
    rw [← hsalt, List.drop_left, ← hnonce, List.take_length]
  have hfull : SealedBox.fullNonce? nonce = some nonce := if_pos hnonce
  unfold encode
  simp only [hfront, hback, hkey, hfull]
  rfl

theorem encode_cases (hsalt : salt.length = saltSize) (hnonce : nonce.length = nonceSize)
    {payload : String} (hpayload : encode secret pin (salt ++ nonce) = .ok payload) :
    ∃ key, secretKey pin salt = .ok key ∧ payload = Hex.encode (blob key salt nonce secret) := by
  cases hkey : secretKey pin salt with
  | error e =>
      have hfront : (salt ++ nonce).take saltSize = salt := by rw [← hsalt, List.take_left]
      rw [encode, hfront, hkey] at hpayload
      cases hpayload
  | ok key =>
      rw [encode_eq hsalt hnonce hkey] at hpayload
      exact ⟨key, rfl, (Except.ok.inj hpayload).symm⟩

/-- A payload is read with white space around it or without. -/
theorem read_encode {bs : Bytes} {before after : List Text.CodePoint}
    (hbefore : ∀ p ∈ before, p.isChar Text.isBlank = true)
    (hafter : ∀ p ∈ after, p.isChar Text.isBlank = true)
    (hlength : headerSize + tagSize < bs.length) (hversion : (parts bs).version = version) :
    read ⟨before ++ (Hex.encode bs : Text).points ++ after⟩ = .ok (parts bs) := by
  have hkept : ∀ p ∈ (Hex.encode bs : Text).points, p.isChar Text.isBlank = false := by
    intro p hp
    obtain ⟨c, hc, rfl⟩ := List.mem_map.mp hp
    rw [Hex.encode, String.toList_ofList] at hc
    exact Hex.isBlank_of_mem_chars hc
  have hstrip : Text.strip ⟨before ++ (Hex.encode bs : Text).points ++ after⟩ =
      Text.ofChars (Hex.chars bs) := by
    rw [Text.strip, Text.trimWhile_append hbefore hkept hafter, Text.ofString, Hex.encode,
      String.toList_ofList]
  unfold read
  rw [hstrip, Text.chars?_ofChars, Option.bind_some, Hex.bytes?_chars]
  simp [Nat.not_le.mpr hlength, hversion]

theorem decode_eq {payload : Text} {parts : Parts} {key : Bytes} (hparts : read payload = .ok parts)
    (hkey : secretKey pin parts.salt = .ok key)
    (hsecret : SealedBox.unlock? key parts.nonce parts.ciphertext parts.tag = some secret) :
    decode payload pin = .ok secret := by
  unfold decode
  rw [hparts]
  dsimp only [bind, Except.bind]
  rw [hkey]
  dsimp only
  rw [hsecret]
  rfl

/-- **A card is read with its PIN.** A payload that was written for a secret gives the secret
back, whatever the salt and the nonce, with white space around it or without. -/
theorem decode_encode (hne : secret ≠ []) (hsalt : salt.length = saltSize)
    (hnonce : nonce.length = nonceSize) {payload : String}
    (hpayload : encode secret pin (salt ++ nonce) = .ok payload)
    {before after : List Text.CodePoint}
    (hbefore : ∀ p ∈ before, p.isChar Text.isBlank = true)
    (hafter : ∀ p ∈ after, p.isChar Text.isBlank = true) :
    decode ⟨before ++ (payload : Text).points ++ after⟩ pin = .ok secret := by
  obtain ⟨key, hkey, rfl⟩ := encode_cases hsalt hnonce hpayload
  have hkeySize := length_secretKey hkey
  have hcipher := SealedBox.length_lock hkeySize hnonce secret
  have htag : (SealedBox.lock key nonce secret).2.length = tagSize :=
    SealedBox.length_tag _ _ _
  have hpos := List.length_pos_iff.mpr hne
  have hlength : headerSize + tagSize < (blob key salt nonce secret).length := by
    simp only [blob, List.length_cons, List.length_append, hsalt, hnonce, hcipher, htag, headerSize]
    omega
  have hparts : parts (blob key salt nonce secret) = ⟨version, salt, nonce, _, _⟩ :=
    parts_eq version hsalt hnonce htag
  have hread := read_encode hbefore hafter hlength (by rw [hparts])
  rw [hparts] at hread
  exact decode_eq hread hkey (SealedBox.unlock?_lock hkeySize hnonce secret)

end Encoded

end BallotWallet.Key.Card
