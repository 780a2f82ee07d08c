import BallotWallet.Key.Source
import BallotWallet.Proofs.Failing

/-!
# How recovery fails

Deriving an identity is a function of its source. It fails as a recovery, for a value that is
unsuitable, or for an index or a key that the tree and the curve refuse, and in no other way.
-/

namespace BallotWallet

/-- The failures of deriving keys. -/
def Failure.isOfKeys (e : Failure) : Bool :=
  e.isRecovery || e.isBadValue || e == .childIndex || e == .badPoint

theorem Failure.isOfKeys_of_isRecovery {e : Failure} (h : e.isRecovery = true) :
    e.isOfKeys = true := by
  simp [isOfKeys, h]

theorem Failure.isRecovery_of_reason {e : Failure} (h : ∃ reason, e = .recoveryFailed reason) :
    e.isRecovery = true := by
  obtain ⟨reason, rfl⟩ := h
  rfl

/-- Whether the failure is that of a malformed key. -/
def Failure.isMalformed : Failure → Bool
  | malformedKey _ => true
  | _ => false

theorem Failure.isRecovery_of_isMalformed {e : Failure} (h : e.isMalformed = true) :
    e.isRecovery = true := by
  cases e with
  | malformedKey reason => rfl
  | _ => cases h

theorem Bech32.failsWithin_decode (t : Text) : FailsWithin (·.isMalformed = true) (decode t) := by
  unfold decode
  split
  · exact .error rfl
  · split
    · exact .error rfl
    · exact .ok _

theorem Folder.failsWithin_checkPath (path : Text) :
    FailsWithin (fun e => e = .unencodable ∨ e = .badValue) (checkPath path) := by
  unfold checkPath
  split
  · exact .error (Or.inl rfl)
  · split
    · exact .error (Or.inr rfl)
    · exact .ok ()

namespace Key

/-! ## Phrases -/

namespace Mnemonic

theorem failsWithin_checkCount (count : Int) :
    FailsWithin (·.isOfKeys = true) (checkCount count) := by
  unfold checkCount
  split
  · exact .ok ()
  · exact .error rfl

theorem failsWithin_generate (count : Int) (entropy : Bytes) :
    FailsWithin (·.isOfKeys = true) (generate count entropy) := by
  refine .bind (failsWithin_checkCount count) fun _ _ => ?_
  dsimp only
  split
  · exact .ok _
  · exact .error rfl

theorem failsWithin_seed (phrase passphrase : Text) :
    FailsWithin (·.isOfKeys = true) (seed phrase passphrase) := by
  refine .bind (failsWithin_checkCount _) fun _ _ => ?_
  split
  · exact .ok _
  · exact .error rfl

end Mnemonic

/-! ## The tree -/

theorem Material.failsWithin_make (privateKey chainCode : Bytes) :
    FailsWithin (fun e => ∃ reason, e = .recoveryFailed reason) (make privateKey chainCode) := by
  unfold make
  split
  · exact .ok _
  · split
    · exact .error ⟨_, rfl⟩
    · exact .error ⟨_, rfl⟩

theorem Material.failsWithin_ofExtended (data : Bytes) :
    FailsWithin (fun e => ∃ reason, e = .recoveryFailed reason) (ofExtended data) := by
  unfold ofExtended
  split
  · exact .error ⟨_, rfl⟩
  · exact failsWithin_make _ _

namespace Node

theorem failsWithin_publicKey (node : Node) :
    FailsWithin (·.isOfKeys = true) node.publicKey := by
  unfold publicKey Ecdsa.publicKey
  split
  · exact .error rfl
  · refine .bind ?_ fun d _ => .ok _
    unfold Ecdsa.scalar
    split
    · exact .ok _
    · exact .error rfl

theorem failsWithin_indexBytes (index : Int) :
    FailsWithin (·.isOfKeys = true) (indexBytes index) := by
  unfold indexBytes
  split
  · exact .ok _
  · exact .error rfl

theorem failsWithin_child (node : Node) (index : Int) :
    FailsWithin (·.isOfKeys = true) (node.child index) := by
  have hsuffix := failsWithin_indexBytes index
  refine .bind ?_ fun _ _ => .ok _
  unfold childData
  split
  · exact .bind hsuffix fun _ _ => .ok _
  · refine .bind node.failsWithin_publicKey fun _ _ => ?_
    exact .bind hsuffix fun _ _ => .ok _

theorem failsWithin_componentIndex (component : Text) :
    FailsWithin (·.isOfKeys = true) (componentIndex component) := by
  unfold componentIndex
  dsimp only
  split
  · exact .ok _
  · exact .error rfl

theorem failsWithin_follow (node : Node) (components : List Text) :
    FailsWithin (·.isOfKeys = true) (node.follow components) := by
  induction components generalizing node with
  | nil => exact .ok node
  | cons component rest ih =>
      refine .bind (failsWithin_componentIndex component) fun index _ => ?_
      exact .bind (node.failsWithin_child index) fun next _ => ih next

theorem failsWithin_walk (node : Node) (path : Text) :
    FailsWithin (·.isOfKeys = true) (node.walk path) := by
  unfold walk
  split
  · exact .ok node
  · exact node.failsWithin_follow _

end Node

/-! ## Key cards -/

namespace Card

theorem failsWithin_pinBytes (pin : Text) : FailsWithin (·.isOfKeys = true) (pinBytes pin) := by
  unfold pinBytes
  split
  · split
    · refine .mapM fun c _ => ?_
      unfold pinDigit
      split
      · exact .ok _
      · exact .error rfl
    · exact .error rfl
  · exact .error rfl

theorem failsWithin_readPicture (path : Text) (picture : Picture) :
    FailsWithin (·.isRecovery = true) (readPicture path picture) := by
  unfold readPicture
  dsimp only
  split
  · exact .error rfl
  · split
    · exact .error rfl
    · split
      · exact .error rfl
      · exact .ok _

theorem failsWithin_read (payload : Text) :
    FailsWithin (·.isRecovery = true) (read payload) := by
  unfold read
  split
  · exact .error rfl
  · split
    · exact .error rfl
    · dsimp only
      split
      · exact .error rfl
      · exact .ok _

/-- A payload fails to open as its PIN fails, or as a recovery. -/
theorem failsWithin_decode {P : Failure → Prop} (hrecovery : ∀ e, e.isRecovery = true → P e)
    {pin : Text} (hpin : FailsWithin P (pinBytes pin)) (payload : Text) :
    FailsWithin P (decode payload pin) := by
  refine .bind ((failsWithin_read payload).mono hrecovery) fun p _ => ?_
  refine .bind (.bind hpin fun _ _ => .ok _) fun key _ => ?_
  split
  · exact .ok _
  · exact .error (hrecovery _ rfl)

end Card

/-! ## Sources -/

namespace Source

theorem failsWithin_fromPhrase (words password : Text) (account index : Int) :
    FailsWithin (·.isOfKeys = true) (fromPhrase words password account index) := by
  refine .bind (Mnemonic.failsWithin_checkCount _) fun _ _ => ?_
  dsimp only
  split
  · exact .error rfl
  · refine .bind (Mnemonic.failsWithin_seed _ _) fun seed _ => ?_
    refine .bind (Node.failsWithin_walk _ _) fun node _ => ?_
    exact (Material.failsWithin_make _ _).mono fun _ h =>
      Failure.isOfKeys_of_isRecovery (Failure.isRecovery_of_reason h)

/-- A key card fails as its PIN fails, or as a recovery. -/
theorem failsWithin_fromCard {P : Failure → Prop} (hrecovery : ∀ e, e.isRecovery = true → P e)
    {pin : Text} (hpin : FailsWithin P (Card.pinBytes pin)) (payload : Option Text)
    (picture : Option (Text × Card.Picture)) : FailsWithin P (fromCard pin payload picture) := by
  have hopen : ∀ payload, FailsWithin P (Card.decode payload pin >>= Material.ofExtended) := by
    intro payload
    refine .bind (Card.failsWithin_decode hrecovery hpin payload) fun secret _ => ?_
    exact (Material.failsWithin_ofExtended secret).mono fun _ h =>
      hrecovery _ (Failure.isRecovery_of_reason h)
  refine .bind hpin fun _ _ => ?_
  dsimp only
  split
  · exact .bind (.ok _) fun payload _ => hopen payload
  · refine .bind ?_ fun payload _ => hopen payload
    exact (Card.failsWithin_readPicture _ _).mono hrecovery
  · exact .bind (.error (hrecovery _ rfl)) fun payload _ => hopen payload

theorem failsWithin_readKeyFile (path : Text) (content : Option Bytes) :
    FailsWithin (·.isOfKeys = true) (readKeyFile path content) := by
  unfold readKeyFile
  split
  · refine .bind ((Folder.failsWithin_checkPath path).mono ?_) fun _ _ => .error rfl
    rintro _ (rfl | rfl) <;> rfl
  · split
    · exact .error rfl
    · exact (Bech32.failsWithin_decode _).mono fun _ h =>
        Failure.isOfKeys_of_isRecovery (Failure.isRecovery_of_isMalformed h)

/-- A key file fails as it fails to be read, or as malformed. -/
theorem failsWithin_fromKeyFile {P : Failure → Prop} (hmalformed : ∀ e, e.isMalformed = true → P e)
    {path : Text} {content : Option Bytes} (hread : FailsWithin P (readKeyFile path content)) :
    FailsWithin P (fromKeyFile path content) := by
  refine .bind hread fun found _ => ?_
  dsimp only
  split
  · exact .error (hmalformed _ rfl)
  · split
    · exact .error (hmalformed _ rfl)
    · -- what is left cannot fail: every failure of an extended key has been caught
      rename_i hcaught
      intro e he
      obtain ⟨reason, rfl⟩ := Material.failsWithin_ofExtended _ e he
      exact absurd he (hcaught reason)

/-- **How recovery fails.** Whatever the source is, no other failure comes out of it. -/
theorem failsWithin_identity (source : Source) :
    FailsWithin (·.isOfKeys = true) source.identity := by
  refine .bind ?_ fun _ _ => .ok _
  cases source with
  | phrase words password account index =>
      exact failsWithin_fromPhrase words password account index
  | card pin payload picture =>
      exact failsWithin_fromCard (fun _ => Failure.isOfKeys_of_isRecovery)
        (Card.failsWithin_pinBytes pin) payload picture
  | keyFile path content =>
      exact failsWithin_fromKeyFile
        (fun _ h => Failure.isOfKeys_of_isRecovery (Failure.isRecovery_of_isMalformed h))
        (failsWithin_readKeyFile path content)

end Source

end Key

end BallotWallet
