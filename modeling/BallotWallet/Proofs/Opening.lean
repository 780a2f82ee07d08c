import BallotWallet.Proofs.Exporting

/-!
# Opening key cards

A payload is opened exactly if it was sealed: whatever is sealed under a PIN opens under it, and
whatever opens is, up to the spelling of its digits, what sealing gives for the same secret, salt
and nonce. The parts of a payload have no lengths written down, but all of them except the
ciphertext are of a fixed size, so a payload falls apart in one way only; and the tag belongs to
the key, the nonce and the ciphertext.

Recovering an identity from a card asks for the PIN first, so the kinds of PIN decide how it can
end: only a PIN that stands for digits gets as far as the payload.
-/

namespace BallotWallet

/-- What is unlocked was locked. -/
theorem SealedBox.lock_of_unlock? {key nonce ciphertext given message : Bytes}
    (hkey : key.length = 32) (hnonce : nonce.length = 12)
    (h : unlock? key nonce ciphertext given = some message) :
    lock key nonce message = (ciphertext, given) := by
  have hback := ChaCha20.apply_apply hkey hnonce 1 ciphertext
  unfold unlock? at h
  split at h
  · rename_i htag
    obtain rfl := Option.some.inj h
    rw [lock, hback, htag]
  · cases h

namespace Key

namespace Card

/-- The bytes of a payload, whose hexadecimal text may have white space around it. -/
def payloadBytes? (payload : Text) : Option Bytes :=
  (Text.strip payload).chars?.bind Hex.bytes?

section Parts

variable {bs : Bytes}

/-- The parts of a payload make it up. -/
theorem eq_of_parts (h : headerSize + tagSize < bs.length) :
    bs = (parts bs).version ::
      ((parts bs).salt ++ (parts bs).nonce ++ (parts bs).ciphertext ++ (parts bs).tag) := by
  have hlong : 45 < bs.length := h
  obtain ⟨v, rest, rfl⟩ := List.exists_cons_of_length_pos (Nat.lt_trans (by decide) hlong)
  have hrest : 44 < rest.length := Nat.lt_of_succ_lt_succ hlong
  -- the ciphertext and the tag share what is behind the header
  have hend : (rest.drop 28).take (rest.length - 44) ++ rest.drop (rest.length - 16) =
      rest.drop 28 := by
    have hplace : rest.drop (rest.length - 16) = (rest.drop 28).drop (rest.length - 44) := by
      rw [List.drop_drop]
      congr 1
      omega
    rw [hplace, List.take_append_drop]
  have hcipher : (parts (v :: rest)).ciphertext = (rest.drop 28).take (rest.length - 44) := by
    show ((v :: rest).drop 29).take ((v :: rest).length - 29 - 16) = _
    rw [List.drop_succ_cons]
    congr 1
  have htag : (parts (v :: rest)).tag = rest.drop (rest.length - 16) := by
    have hplace : (v :: rest).length - 16 = rest.length - 16 + 1 := by
      rw [List.length_cons]
      omega
    show (v :: rest).drop ((v :: rest).length - 16) = _
    rw [hplace, List.drop_succ_cons]
  show v :: rest = v :: (rest.take 16 ++ (rest.drop 16).take 12 ++ _ ++ _)
  rw [hcipher, htag, List.append_assoc, hend, List.append_assoc,
    show rest.drop 28 = (rest.drop 16).drop 12 by rw [List.drop_drop],
    List.take_append_drop, List.take_append_drop]

theorem length_parts (h : headerSize + tagSize < bs.length) :
    (parts bs).salt.length = saltSize ∧ (parts bs).nonce.length = nonceSize ∧
      0 < (parts bs).ciphertext.length := by
  simp only [parts, List.length_take, List.length_drop, headerSize, saltSize, nonceSize, tagSize]
    at h ⊢
  omega

/-- What is read off a payload is the parts of its bytes. -/
theorem read_eq_ok_iff {payload : Text} {p : Parts} :
    read payload = .ok p ↔ ∃ bs, payloadBytes? payload = some bs ∧
      headerSize + tagSize < bs.length ∧ (parts bs).version = version ∧ p = parts bs := by
  unfold read payloadBytes?
  cases (Text.strip payload).chars?.bind Hex.bytes? with
  | none => simp
  | some bs =>
      dsimp only
      constructor
      · intro h
        split at h
        · cases h
        · rename_i hlong
          split at h
          · cases h
          · rename_i hversion
            exact ⟨bs, rfl, Nat.lt_of_not_le hlong, Decidable.not_not.mp hversion,
              (Except.ok.inj h).symm⟩
      · rintro ⟨_, hsame, hlong, hversion, rfl⟩
        obtain rfl := Option.some.inj hsame
        rw [if_neg (Nat.not_le.mpr hlong), if_neg (not_not.mpr hversion)]

end Parts

section Opened

variable {payload pin : Text} {secret : Bytes}

theorem decode_eq_ok_iff :
    decode payload pin = .ok secret ↔ ∃ p key, read payload = .ok p ∧
      secretKey pin p.salt = .ok key ∧
      SealedBox.unlock? key p.nonce p.ciphertext p.tag = some secret := by
  constructor
  · intro h
    obtain ⟨p, hread, h⟩ := exists_of_bind_ok h
    obtain ⟨key, hkey, h⟩ := exists_of_bind_ok h
    split at h
    · rename_i found hunlocked
      obtain rfl := Except.ok.inj h
      exact ⟨p, key, hread, hkey, hunlocked⟩
    · cases h
  · rintro ⟨p, key, hread, hkey, hunlocked⟩
    exact decode_eq hread hkey hunlocked

/-- What opens was sealed: with the salt and the nonce that stand in it. -/
theorem encode_of_decode (h : decode payload pin = .ok secret) :
    ∃ bs, payloadBytes? payload = some bs ∧ secret ≠ [] ∧
      (parts bs).salt.length = saltSize ∧ (parts bs).nonce.length = nonceSize ∧
      encode secret pin ((parts bs).salt ++ (parts bs).nonce) = .ok (Hex.encode bs) := by
  obtain ⟨_, key, hread, hkey, hunlocked⟩ := decode_eq_ok_iff.mp h
  obtain ⟨bs, hbytes, hlong, hversion, rfl⟩ := read_eq_ok_iff.mp hread
  obtain ⟨hsalt, hnonce, hcipher⟩ := length_parts hlong
  have hsize := length_secretKey hkey
  have hlocked := SealedBox.lock_of_unlock? hsize hnonce hunlocked
  have hblob : blob key (parts bs).salt (parts bs).nonce secret = bs := by
    rw [blob, hlocked, ← hversion]
    exact (eq_of_parts hlong).symm
  have hne : secret ≠ [] := by
    have hlength := SealedBox.length_lock hsize hnonce secret
    rw [hlocked] at hlength
    exact List.ne_nil_of_length_pos (hlength ▸ hcipher)
  refine ⟨bs, hbytes, hne, hsalt, hnonce, ?_⟩
  rw [encode_eq hsalt hnonce hkey, hblob]

end Opened

/-- **A payload opens exactly if it was sealed.** Under every PIN that is one, each secret of at
least a byte is sealed with any salt and nonce, and the payload opens as that secret, with white
space around it or without. Every payload that opens under a PIN is spelt, in lower case, as the
payload of its secret with the salt and the nonce that are found in it. -/
theorem opens_exactly_sealed :
    (∀ pin digits secret salt nonce, pinBytes pin = .ok digits → secret ≠ [] →
      salt.length = saltSize → nonce.length = nonceSize →
      ∃ payload, encode secret pin (salt ++ nonce) = .ok payload ∧
        decode payload pin = .ok secret ∧
        ∀ before after : List Text.CodePoint, (∀ p ∈ before, p.isChar Text.isBlank = true) →
          (∀ p ∈ after, p.isChar Text.isBlank = true) →
          decode ⟨before ++ (payload : Text).points ++ after⟩ pin = .ok secret) ∧
    ∀ payload pin secret, decode payload pin = .ok secret →
      ∃ bytes, payloadBytes? payload = some bytes ∧ secret ≠ [] ∧
        (parts bytes).salt.length = saltSize ∧ (parts bytes).nonce.length = nonceSize ∧
        encode secret pin ((parts bytes).salt ++ (parts bytes).nonce) = .ok (Hex.encode bytes) := by
  refine ⟨?_, fun _ _ _ => encode_of_decode⟩
  intro pin digits secret salt nonce hpin hne hsalt hnonce
  have hkey : secretKey pin salt = .ok ((Pbkdf2.derive digits salt rounds).take 32) := by
    rw [secretKey, hpin]
    rfl
  have hpayload := @encode_eq pin secret salt nonce hsalt hnonce _ hkey
  have hopens := @decode_encode pin secret salt nonce hne hsalt hnonce _ hpayload
  refine ⟨_, hpayload, ?_, fun before after => hopens⟩
  have hplain := hopens (List.forall_mem_nil _) (List.forall_mem_nil _)
  rwa [List.nil_append, List.append_nil] at hplain

/-- A secret of one byte under a PIN with a digit of another script, and what its payload tells
when it is opened between blanks. -/
theorem opens_exactly_sealed_foreign :
    let pin : Text := "12٣"
    ∃ payload, encode [7] pin (List.replicate 16 1 ++ List.replicate 12 2) = .ok payload ∧
      decode (" " ++ payload ++ "\n") pin = .ok [7] ∧
      ∃ bytes, payloadBytes? (" " ++ payload ++ "\n") = some bytes ∧
        encode [7] pin ((parts bytes).salt ++ (parts bytes).nonce) = .ok (Hex.encode bytes) := by
  intro pin
  obtain ⟨hsealed, hopened⟩ := opens_exactly_sealed
  obtain ⟨payload, hpayload, _, hopens⟩ := hsealed pin [1, 2, 3] [7] (List.replicate 16 1)
    (List.replicate 12 2) (by decide +kernel) (by decide) rfl rfl
  have hopen : decode (" " ++ payload ++ "\n") pin = .ok [7] :=
    hopens [.char ' '] [.char '\n'] (by decide) (by decide)
  obtain ⟨bytes, hbytes, _, _, _, hagain⟩ := hopened _ pin [7] hopen
  exact ⟨payload, hpayload, hopen, bytes, hbytes, hagain⟩

end Card

/-! ## What a card gives -/

namespace Source

variable {pin : Text} (payload : Option Text) (picture : Option (Text × Card.Picture))

/-- The PIN is looked at first. -/
theorem identity_card_of_pinBytes_error {e : Failure} (h : Card.pinBytes pin = .error e) :
    (card pin payload picture).identity = .error e := by
  unfold identity material
  dsimp only
  rw [fromCard, h]
  rfl

theorem failsWithin_card (h : Card.IsNumeric pin) :
    FailsWithin (·.isRecovery = true) (card pin payload picture).identity := by
  obtain ⟨digits, hdigits⟩ := h.pinBytes_ok
  exact .bind (failsWithin_fromCard (fun _ => id) (hdigits ▸ .ok _) payload picture)
    fun _ _ => .ok _

/-- **How a key card is recovered.** A card gives an identity only under a PIN that stands for
digits. Under every PIN but those that look numeric it fails as a recovery only, whatever is read
off it, and before anything is read if the PIN does not stand for digits. Under a PIN that looks
numeric it fails for the value of the PIN, which is no failure of recovery. -/
theorem card_recovered (pin : Text) (payload : Option Text)
    (picture : Option (Text × Card.Picture)) :
    (∀ identity, (card pin payload picture).identity = .ok identity → Card.IsNumeric pin) ∧
    (¬Card.LooksNumeric pin →
      FailsWithin (·.isRecovery = true) (card pin payload picture).identity) ∧
    (¬Card.IsNumeric pin → ¬Card.LooksNumeric pin →
      (card pin payload picture).identity = .error Card.notDigits) ∧
    (Card.LooksNumeric pin → (card pin payload picture).identity = .error .badValue) := by
  have hlooks : Card.LooksNumeric pin → (card pin payload picture).identity = .error .badValue :=
    fun h => identity_card_of_pinBytes_error payload picture h.pinBytes_error
  have hother : ¬Card.IsNumeric pin → ¬Card.LooksNumeric pin →
      (card pin payload picture).identity = .error Card.notDigits := fun hnumeric hlooks =>
    identity_card_of_pinBytes_error payload picture (Card.pinBytes_refused hnumeric hlooks)
  refine ⟨fun identity h => ?_, fun hnot => ?_, hother, hlooks⟩
  · by_contra hnumeric
    by_cases hlike : Card.LooksNumeric pin
    · rw [hlooks hlike] at h
      cases h
    · rw [hother hnumeric hlike] at h
      cases h
  · by_cases hnumeric : Card.IsNumeric pin
    · exact failsWithin_card payload picture hnumeric
    · rw [hother hnumeric hnot]
      exact .error rfl

/-- A card that was made for a key, under its PIN; a payload that is not hexadecimal, under the same
PIN; a letter in a PIN; and a superscript in a PIN. -/
theorem card_recovered_kinds :
    let keys : Material := ⟨List.replicate 32 2, List.replicate 32 0, isUsable_twos⟩
    let random : Bytes := List.replicate 16 7 ++ List.replicate 12 9
    (∃ payload, Card.encode keys.extended "0123" random = .ok payload ∧
      (card "0123" (some (" " ++ payload ++ "\n")) none).identity = .ok (.ofMaterial keys) ∧
      Card.IsNumeric "0123") ∧
    (∃ e, (card "0123" (some "no") none).identity = .error e ∧ e.isRecovery = true) ∧
    (card "12a4" (some "no") none).identity = .error Card.notDigits ∧
    (card "1²" (some "no") none).identity = .error .badValue := by
  intro keys random
  refine ⟨?_, ?_, ?_, ?_⟩
  · have hnumeric : Card.IsNumeric "0123" := by decide
    obtain ⟨digits, hpin⟩ := hnumeric.pinBytes_ok
    have hkey : Card.secretKey "0123" (List.replicate 16 7) =
        .ok ((Pbkdf2.derive digits (List.replicate 16 7) Card.rounds).take 32) := by
      rw [Card.secretKey, hpin]
      rfl
    obtain ⟨payload, hpayload⟩ : ∃ payload, Card.encode keys.extended "0123" random = .ok payload :=
      ⟨_, Card.encode_eq rfl rfl hkey⟩
    have hidentity := @card_identity keys "0123" (List.replicate 16 7) (List.replicate 12 9) rfl rfl
      rfl payload hpayload [.char ' '] [.char '\n'] (by decide) (by decide) none
    exact ⟨payload, hpayload, hidentity, (card_recovered _ _ _).1 _ hidentity⟩
  · obtain ⟨_, hrecovery, _⟩ := card_recovered "0123" (some "no") none
    have herror : (card "0123" (some "no") none).identity =
        .error (.recoveryFailed "QR payload is not valid hex") := by decide +kernel
    exact ⟨_, herror, hrecovery (by decide) _ herror⟩
  · exact (card_recovered _ _ _).2.2.1 (by decide) (by decide)
  · exact (card_recovered _ _ _).2.2.2 (by decide)

end Source

end Key

end BallotWallet
