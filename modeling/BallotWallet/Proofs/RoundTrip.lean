import BallotWallet.Proofs.Decoding

/-!
# The round trip of a fragment

Texts without halves of surrogate pairs come back as they were written. So a fragment of a
transaction with such texts decodes to itself, and the bytes that are signed say which
transaction they are for.
-/

namespace BallotWallet

open Json

namespace Transaction

/-! ## What the signed bytes determine -/

variable {tx other : Transaction}

theorem Plain.parseBytes_signingBytes (h : tx.Plain) (hw : tx.isWritable = true) :
    parseBytes tx.signingBytes = .ok (readObject .compact asRead tx.bodyFields) :=
  (h.legible_body hw).parseBytes (by decide)

/-- The bytes that are signed read as the body of the transaction they are for. -/
theorem Plain.ofBody_signingBytes (h : tx.Plain) (hw : tx.isWritable = true) :
    (parseBytes tx.signingBytes >>= ofBody) = .ok tx.paired := by
  rw [h.parseBytes_signingBytes hw]
  exact h.ofBody_readObject hw

/-- The same bytes are signed for transactions that differ in the spelling of texts only. -/
theorem Plain.signingBytes_eq_iff (h : tx.Plain) (hw : tx.isWritable = true)
    (hother : other.Plain) (hwother : other.isWritable = true) :
    other.signingBytes = tx.signingBytes ↔ other.paired = tx.paired := by
  constructor
  · intro hbytes
    have hread := hother.ofBody_signingBytes hwother
    rw [hbytes, h.ofBody_signingBytes hw] at hread
    exact (Except.ok.inj hread).symm
  · intro hpaired
    rw [← hother.signingBytes_paired, hpaired, h.signingBytes_paired]

/-! ## Transactions over texts without halves -/

/-- A transaction made from texts without halves of surrogate pairs. -/
inductive Built : Transaction → Prop
  | transfer (account destination block0Hash : String) (value fee counter : Int)
      (validUntil : BlockDate) {tx : Transaction}
      (h : newTransfer account destination value fee counter validUntil
        (.text block0Hash) = .ok tx) : Built tx
  | vote (account votePlan block0Hash : String) (proposalIndex choice fee counter : Int)
      (validUntil : BlockDate) :
      Built (newVote account votePlan proposalIndex choice fee counter validUntil
        (.text block0Hash))

theorem newTransfer_eq_ok_iff {account destination : Text} {value fee counter : Int}
    {validUntil : BlockDate} {block0Hash : Document} :
    newTransfer account destination value fee counter validUntil block0Hash = .ok tx ↔
      0 < value ∧ tx = {
        kind := .transfer
        account := .text account
        counter := counter
        validUntil := validUntil
        fee := fee
        value := value
        destination := .text destination
        block0Hash := block0Hash } := by
  unfold newTransfer
  by_cases hvalue : value ≤ 0
  · rw [if_pos hvalue]
    constructor
    · intro h
      cases h
    · intro h
      omega
  · rw [if_neg hvalue]
    constructor
    · intro h
      exact ⟨by omega, (Except.ok.inj h).symm⟩
    · rintro ⟨_, rfl⟩
      rfl

theorem Built.plain (h : tx.Built) : tx.Plain := by
  cases h with
  | transfer account destination block0Hash value fee counter validUntil h =>
      obtain ⟨_, rfl⟩ := newTransfer_eq_ok_iff.mp h
      exact .transfer _ _ _ _ _ _ _
  | vote => exact .vote _ _ _ _ _ _ _ _

/-- Without halves there is nothing to pair. -/
theorem Built.paired_eq (h : tx.Built) : tx.paired = tx := by
  cases h with
  | transfer account destination block0Hash value fee counter validUntil h =>
      obtain ⟨_, rfl⟩ := newTransfer_eq_ok_iff.mp h
      simp only [paired, asRead_ofString]
  | vote => simp only [paired, newVote, asRead_ofString]

/-- The bytes that are signed for one transaction are signed for no other. -/
theorem Built.eq_of_signingBytes (h : tx.Built) (hw : tx.isWritable = true)
    (hother : other.Built) (hwother : other.isWritable = true)
    (hbytes : other.signingBytes = tx.signingBytes) : other = tx := by
  have hpaired := (h.plain.signingBytes_eq_iff hw hother.plain hwother).mp hbytes
  rwa [hother.paired_eq, h.paired_eq] at hpaired

/-- A transfer with escaped characters, one that takes two escapes, and numbers below zero. -/
def escaped : Transaction where
  kind := .transfer
  account := .text "ca1\"\\\n"
  counter := -3
  validUntil := ⟨-1, 7⟩
  fee := -5
  value := 1
  destination := .text "é😀"

end Transaction

namespace Fragment

open Transaction

variable {tx : Transaction}

/-- **Round trip.** A signed transaction decodes to itself, with the same signature, bytes and
identifier, and the bytes that were signed for it are signed for no other transaction. -/
theorem round_trip (h : tx.Built) (hw : tx.isWritable = true) (publicKey signature : Bytes)
    (hsigned : signature ≠ []) :
    (∃ fragment decoded : Fragment, make tx publicKey signature = .ok fragment ∧
      fragment.transaction = tx ∧ fragment.publicKey = publicKey ∧
      fragment.signature = signature ∧
      parse fragment.bytes = .ok decoded ∧ decoded = fragment ∧
      decoded.id = fragment.id ∧ decoded.bytes = fragment.bytes) ∧
    ∀ other : Transaction, other.Built → other.isWritable = true →
      other.signingBytes = tx.signingBytes → other = tx := by
  constructor
  · let fragment : Fragment := ⟨tx, publicKey, signature, hsigned⟩
    have hmake : make tx publicKey signature = .ok fragment := dif_pos hsigned
    have hparse : parse fragment.bytes = .ok fragment := by
      have hdecoded := @parse_bytes fragment h.plain hw
      rwa [h.paired_eq] at hdecoded
    exact ⟨fragment, fragment, hmake, rfl, rfl, rfl, hparse, rfl, rfl, rfl⟩
  · intro other hother hwother hbytes
    exact h.eq_of_signingBytes hw hother hwother hbytes

/-- The transfer with escapes comes back, and a vote over the same texts has other signed bytes. -/
theorem round_trip_escaped :
    newTransfer "ca1\"\\\n" "é😀" 1 (-5) (-3) ⟨-1, 7⟩ (.text "") = .ok escaped ∧
    (∃ fragment : Fragment, make escaped [0x02] [0xff, 0x00] = .ok fragment ∧
      parse fragment.bytes = .ok fragment) ∧
    (newVote "ca1\"\\\n" "é😀" 0 1 (-5) (-3) ⟨-1, 7⟩ (.text "")).signingBytes ≠
      escaped.signingBytes := by
  have hbuilt : escaped.Built := .transfer "ca1\"\\\n" "é😀" "" 1 (-5) (-3) ⟨-1, 7⟩ rfl
  have hw : escaped.isWritable = true := by decide +kernel
  obtain ⟨⟨fragment, _, hmake, _, _, _, hparse, rfl, _⟩, hunique⟩ :=
    round_trip hbuilt hw [0x02] [0xff, 0x00] (by decide)
  refine ⟨rfl, ⟨_, hmake, hparse⟩, ?_⟩
  intro hbytes
  have hsame := hunique _ (.vote "ca1\"\\\n" "é😀" "" 0 1 (-5) (-3) ⟨-1, 7⟩)
    (by decide +kernel) hbytes
  exact absurd (congrArg Transaction.kind hsame) (by simp [newVote, escaped])

end Fragment

end BallotWallet
