import BallotWallet.Key.Source
import BallotWallet.Proofs.Bech32
import BallotWallet.Proofs.Card
import BallotWallet.Proofs.KeyFile
import BallotWallet.Proofs.Pin

/-!
# Exported keys

Key material leaves the wallet on a key card or as a line of text in a file. Either way it comes
back as the same material, and so as the same identity: whatever PIN and random bytes a card is
made with, whatever white space is put around its payload, and wherever the line is broken.
-/

namespace BallotWallet.Key

open Text (CodePoint)

/-! ## Chain codes -/

theorem Material.length_chainCode_of_ofExtended {data : Bytes} {keys : Material}
    (h : ofExtended data = .ok keys) : keys.chainCode.length = 32 := by
  obtain ⟨hsize, _, hchain⟩ := ofExtended_eq_ok_iff.mp h
  rw [hchain, List.length_drop, hsize]
  rfl

namespace Node

theorem length_chainCode_ofSeed (seed : Bytes) : (ofSeed seed).chainCode.length = 32 := by
  simp [ofSeed]

theorem length_chainCode_child {node next : Node} {index : Int}
    (h : node.child index = .ok next) : next.chainCode.length = 32 := by
  obtain ⟨data, _, hnext⟩ := exists_of_bind_ok h
  obtain rfl := Except.ok.inj hnext
  simp

theorem length_chainCode_follow {node last : Node} {components : List Text}
    (hnode : node.chainCode.length = 32) (h : node.follow components = .ok last) :
    last.chainCode.length = 32 := by
  induction components generalizing node with
  | nil =>
      obtain rfl := Except.ok.inj h
      exact hnode
  | cons component components ih =>
      obtain ⟨index, _, hrest⟩ := exists_of_bind_ok h
      obtain ⟨next, hchild, hlast⟩ := exists_of_bind_ok hrest
      exact ih (length_chainCode_child hchild) hlast

theorem length_chainCode_walk {node last : Node} {path : Text}
    (hnode : node.chainCode.length = 32) (h : node.walk path = .ok last) :
    last.chainCode.length = 32 := by
  unfold walk at h
  split at h
  · obtain rfl := Except.ok.inj h
    exact hnode
  · exact length_chainCode_follow hnode h

end Node

/-- Every way of recovering gives a chain code of 32 bytes. -/
theorem Source.length_chainCode {source : Source} {keys : Material}
    (h : source.material = .ok keys) : keys.chainCode.length = 32 := by
  cases source with
  | phrase words password account index =>
      obtain ⟨_, _, h⟩ := exists_of_bind_ok (show fromPhrase _ _ _ _ = _ from h)
      dsimp only at h
      split at h
      · cases h
      · obtain ⟨seed, _, h⟩ := exists_of_bind_ok h
        obtain ⟨node, hwalk, hmake⟩ := exists_of_bind_ok h
        rw [(Material.make_eq_ok_iff.mp hmake).2]
        exact Node.length_chainCode_walk (Node.length_chainCode_ofSeed seed) hwalk
  | card pin payload picture =>
      obtain ⟨_, _, h⟩ := exists_of_bind_ok (show fromCard _ _ _ = _ from h)
      dsimp only at h
      split at h
      · obtain ⟨_, _, h⟩ := exists_of_bind_ok h
        obtain ⟨secret, _, hkeys⟩ := exists_of_bind_ok h
        exact Material.length_chainCode_of_ofExtended hkeys
      · obtain ⟨_, _, h⟩ := exists_of_bind_ok h
        obtain ⟨secret, _, hkeys⟩ := exists_of_bind_ok h
        exact Material.length_chainCode_of_ofExtended hkeys
      · cases h
  | keyFile path content =>
      obtain ⟨⟨hrp, data⟩, _, h⟩ := exists_of_bind_ok (show fromKeyFile _ _ = _ from h)
      dsimp only at h
      split at h
      · cases h
      · split at h
        · cases h
        · exact Material.length_chainCode_of_ofExtended h

/-! ## Extended keys -/

namespace Material

variable {keys : Material}

theorem length_extended (hchain : keys.chainCode.length = 32) :
    keys.extended.length = extendedSize := by
  have hkey := keys.usable.1
  simp [extended, Bytes.padRight, hkey, hchain, extendedSize]

/-- The key and the chain code of an extended key are those that it was made of. -/
theorem ofExtended_extended (hchain : keys.chainCode.length = 32) :
    ofExtended keys.extended = .ok keys := by
  have hkey := keys.usable.1
  have hfront : keys.extended.take 32 = keys.privateKey := by
    rw [extended, ← hkey, List.take_left]
  have hback : keys.extended.drop 32 = keys.chainCode := by
    rw [extended, ← hkey, List.drop_left, Bytes.padRight, hkey, hchain, Nat.sub_self,
      List.replicate_zero, List.append_nil]
  exact ofExtended_eq_ok_iff.mpr ⟨length_extended hchain, hfront.symm, hback.symm⟩

end Material

/-! ## Broken lines -/

/-- The second text is the first one with line feeds and carriage returns put in. -/
inductive Broken : List CodePoint → List CodePoint → Prop where
  | nil : Broken [] []
  | keep (p : CodePoint) {ps qs : List CodePoint} : Broken ps qs → Broken (p :: ps) (p :: qs)
  | feed {ps qs : List CodePoint} : Broken ps qs → Broken ps (.char '\n' :: qs)
  | back {ps qs : List CodePoint} : Broken ps qs → Broken ps (.char '\r' :: qs)

namespace Broken

variable {ps qs : List CodePoint}

/-- A text without breaks. -/
theorem refl : ∀ ps : List CodePoint, Broken ps ps
  | [] => .nil
  | p :: ps => .keep p (refl ps)

theorem mem (h : Broken ps qs) {q : CodePoint} (hq : q ∈ qs) :
    q ∈ ps ∨ q = .char '\n' ∨ q = .char '\r' := by
  induction h with
  | nil => cases hq
  | keep p _ ih =>
      rcases List.mem_cons.mp hq with rfl | hq
      · exact .inl List.mem_cons_self
      · exact (ih hq).imp_left (List.mem_cons_of_mem _)
  | feed _ ih =>
      rcases List.mem_cons.mp hq with rfl | hq
      · exact .inr (.inl rfl)
      · exact ih hq
  | back _ ih =>
      rcases List.mem_cons.mp hq with rfl | hq
      · exact .inr (.inr rfl)
      · exact ih hq

/-- The breaks can be found and taken out again. -/
theorem filter_eq (h : Broken ps qs) (hps : ∀ p ∈ ps, p ≠ .char '\n' ∧ p ≠ .char '\r') :
    qs.filter (fun p => p != .char '\n' && p != .char '\r') = ps := by
  induction h with
  | nil => rfl
  | keep p _ ih =>
      obtain ⟨hfeed, hback⟩ := hps p List.mem_cons_self
      have hrest := ih fun q hq => hps q (List.mem_cons_of_mem _ hq)
      rw [List.filter_cons_of_pos (by simp [hfeed, hback]), hrest]
  | feed _ ih =>
      rw [List.filter_cons_of_neg (by simp), ih hps]
  | back _ ih =>
      rw [List.filter_cons_of_neg (by simp), ih hps]

end Broken

/-- Graphic code points are plain characters other than white space. -/
theorem graphic_cases {p : CodePoint} (h : 33 ≤ p.toNat ∧ p.toNat ≤ 126) :
    ∃ c, p = .char c ∧ Text.IsAscii c ∧ Text.isBlank c = false := by
  cases p with
  | half n =>
      have hlarge : 0xd800 ≤ (CodePoint.half n).toNat := Nat.le_add_right _ _
      omega
  | char c =>
      have hc : 33 ≤ c.toNat ∧ c.toNat ≤ 126 := h
      refine ⟨c, rfl, Nat.lt_of_le_of_lt hc.2 (by decide), ?_⟩
      unfold Text.isBlank
      simp
      omega

theorem exists_ofChars {ps : List CodePoint} (h : ∀ p ∈ ps, ∃ c, p = .char c ∧ Text.IsAscii c) :
    ∃ cs : List Char, ps = cs.map .char ∧ ∀ c ∈ cs, Text.IsAscii c := by
  induction ps with
  | nil => exact ⟨[], rfl, nofun⟩
  | cons p ps ih =>
      obtain ⟨c, rfl, hc⟩ := h p List.mem_cons_self
      obtain ⟨cs, rfl, hcs⟩ := ih fun q hq => h q (List.mem_cons_of_mem _ hq)
      refine ⟨c :: cs, rfl, ?_⟩
      intro d hd
      rcases List.mem_cons.mp hd with rfl | hd
      · exact hc
      · exact hcs d hd

namespace Source

/-! ## Key cards -/

section Card

variable {keys : Material} {pin : Text} {salt nonce : Bytes}

/-- A card gives the identity whose keys it was made for. -/
theorem card_identity (hchain : keys.chainCode.length = 32) (hsalt : salt.length = Card.saltSize)
    (hnonce : nonce.length = Card.nonceSize) {payload : String}
    (hpayload : Card.encode keys.extended pin (salt ++ nonce) = .ok payload)
    {before after : List CodePoint} (hbefore : ∀ p ∈ before, p.isChar Text.isBlank = true)
    (hafter : ∀ p ∈ after, p.isChar Text.isBlank = true)
    (picture : Option (Text × Card.Picture)) :
    (card pin (some ⟨before ++ (payload : Text).points ++ after⟩) picture).identity =
      .ok (.ofMaterial keys) := by
  have hne : keys.extended ≠ [] := by
    apply List.ne_nil_of_length_pos
    rw [Material.length_extended hchain]
    decide
  obtain ⟨key, hkey, _⟩ := Card.encode_cases hsalt hnonce hpayload
  obtain ⟨digits, hpin, _⟩ := exists_of_bind_ok (show Card.secretKey pin salt = _ from hkey)
  have hdecode := Card.decode_encode hne hsalt hnonce hpayload hbefore hafter
  have hmaterial : fromCard pin (some ⟨before ++ (payload : Text).points ++ after⟩) picture =
      .ok keys := by
    unfold fromCard
    rw [hpin]
    show (Card.decode _ pin >>= _) = _
    rw [hdecode]
    exact Material.ofExtended_extended hchain
  unfold identity material
  dsimp only
  rw [hmaterial]
  rfl

end Card

/-! ## Key files -/

section KeyFile

variable {keys : Material} {hrp : Text} {qs : List CodePoint}

/-- A broken line is still a text of ASCII characters. -/
theorem exists_ofChars_broken (hpart : Bech32.IsPart hrp)
    (hbroken : Broken (Bech32.encode hrp keys.extended).points qs) :
    ∃ cs : List Char, qs = cs.map .char ∧ ∀ c ∈ cs, Text.IsAscii c := by
  refine exists_ofChars fun p hp => ?_
  rcases hbroken.mem hp with hp | rfl | rfl
  · obtain ⟨c, hc, hsmall, _⟩ := graphic_cases (Bech32.mem_points_encode hpart p hp).1
    exact ⟨c, hc, hsmall⟩
  · exact ⟨_, rfl, by decide⟩
  · exact ⟨_, rfl, by decide⟩

/-- The line of a key file is what was written, without the line breaks. -/
theorem keyLine_broken (hpart : Bech32.IsPart hrp)
    (hbroken : Broken (Bech32.encode hrp keys.extended).points qs) :
    keyLine ⟨qs⟩ = Bech32.encode hrp keys.extended := by
  have hgraphic : ∀ p ∈ (Bech32.encode hrp keys.extended).points,
      ∃ c, p = .char c ∧ Text.IsAscii c ∧ Text.isBlank c = false :=
    fun p hp => graphic_cases (Bech32.mem_points_encode hpart p hp).1
  have hunbroken : ∀ p ∈ (Bech32.encode hrp keys.extended).points,
      p ≠ .char '\n' ∧ p ≠ .char '\r' := by
    intro p hp
    obtain ⟨c, rfl, _, hblank⟩ := hgraphic p hp
    constructor
    · rintro ⟨⟩
      exact absurd hblank (by decide)
    · rintro ⟨⟩
      exact absurd hblank (by decide)
  unfold keyLine Text.strip
  -- what was written has no blank of its own: only the breaks are taken out, and nothing is trimmed
  rw [hbroken.filter_eq hunbroken, Text.trimWhile_eq]
  intro p hp
  obtain ⟨c, rfl, _, hblank⟩ := hgraphic p hp
  exact hblank

/-- A file gives the identity whose keys were written into it. -/
theorem keyFile_identity_of_broken (hchain : keys.chainCode.length = 32) (hpart : Bech32.IsPart hrp)
    (hlength : (Bech32.encode hrp keys.extended).points.length ≤ Bech32.maxLength)
    (hbroken : Broken (Bech32.encode hrp keys.extended).points qs) :
    ∃ content, Text.toUtf8? ⟨qs⟩ = some content ∧
      ∀ path, (keyFile path (some content)).identity = .ok (.ofMaterial keys) := by
  have hline := keyLine_broken hpart hbroken
  obtain ⟨cs, rfl, hcs⟩ := exists_ofChars_broken hpart hbroken
  refine ⟨Bytes.ofString (String.ofList cs), ?_, ?_⟩
  · have hstring : (Text.ofChars cs).string? = some (String.ofList cs) := by
      rw [Text.string?, Text.chars?_ofChars]
      rfl
    show (Text.ofChars cs).string?.map Bytes.ofString = _
    rw [hstring]
    rfl
  · intro path
    have hread : readKeyFile path (some (Bytes.ofString (String.ofList cs))) =
        .ok (hrp, keys.extended) := by
      rw [readKeyFile_of_utf8 (Text.utf8?_ofString hcs), Text.ofChars, hline]
      exact Bech32.decode_encode hpart hlength
    have hmaterial : fromKeyFile path (some (Bytes.ofString (String.ofList cs))) = .ok keys := by
      unfold fromKeyFile
      rw [hread]
      show (if keys.extended.length ≠ Material.extendedSize then _ else _) = _
      rw [if_neg (not_not.mpr (Material.length_extended hchain)),
        Material.ofExtended_extended hchain]
    unfold identity material
    dsimp only
    rw [hmaterial]
    rfl

end KeyFile

end Source

/-! ## Both ways out -/

/-- **Exported keys come back as the same identity.** Whatever is recovered has a chain code of 32
bytes. Key material with such a chain code can be put on a card under any PIN of digits, with any
salt and nonce; the card's payload is recovered as the identity of the keys, with white space
around it or without. Written behind any readable part into a file, it is recovered as the same
identity, wherever the line is broken. -/
theorem exported_recovered {keys : Material} (hchain : keys.chainCode.length = 32) :
    (∀ {source : Source} {recovered : Material}, source.material = .ok recovered →
      recovered.chainCode.length = 32) ∧
    (∀ (digits : List Char) (salt nonce : Bytes), (∀ c ∈ digits, c.isDigit = true) →
      salt.length = Card.saltSize → nonce.length = Card.nonceSize →
      (digits ≠ [] → ∃ payload,
        Card.encode keys.extended (Text.ofChars digits) (salt ++ nonce) = .ok payload) ∧
      ∀ {payload : String},
        Card.encode keys.extended (Text.ofChars digits) (salt ++ nonce) = .ok payload →
        ∀ {before after : List CodePoint}, (∀ p ∈ before, p.isChar Text.isBlank = true) →
          (∀ p ∈ after, p.isChar Text.isBlank = true) → ∀ picture,
          (Source.card (Text.ofChars digits)
            (some ⟨before ++ (payload : Text).points ++ after⟩) picture).identity =
              .ok (.ofMaterial keys)) ∧
    ∀ (hrp : Text) (broken : List CodePoint), Bech32.IsPart hrp →
      (Bech32.encode hrp keys.extended).points.length ≤ Bech32.maxLength →
      Broken (Bech32.encode hrp keys.extended).points broken →
      ∃ content, Text.toUtf8? ⟨broken⟩ = some content ∧
        ∀ path, (Source.keyFile path (some content)).identity = .ok (.ofMaterial keys) := by
  refine ⟨Source.length_chainCode, ?_, ?_⟩
  · intro digits salt nonce hdigits hsalt hnonce
    constructor
    · intro hne
      obtain ⟨bs, hpin⟩ := (Card.isNumeric_digits hne hdigits).pinBytes_ok
      have hkey : Card.secretKey (Text.ofChars digits) salt =
          .ok ((Pbkdf2.derive bs salt Card.rounds).take 32) := by
        rw [Card.secretKey, hpin]
        rfl
      exact ⟨_, Card.encode_eq hsalt hnonce hkey⟩
    · intro payload hpayload before after hbefore hafter picture
      exact Source.card_identity hchain hsalt hnonce hpayload hbefore hafter picture
  · intro hrp broken hpart hlength hbroken
    exact Source.keyFile_identity_of_broken hchain hpart hlength hbroken

theorem isUsable_twos : IsUsable (List.replicate 32 2) := by
  decide +kernel

/-- A key with a chain code of zeros leaves on a card and in a file whose line begins with a
carriage return and a line feed. -/
theorem exported_recovered_zeros :
    let keys : Material := ⟨List.replicate 32 2, List.replicate 32 0, isUsable_twos⟩
    let card := fun payload : String => Source.card "0123"
      (some ⟨[.char ' '] ++ (payload : Text).points ++ [.char '\n']⟩) none
    let line := .char '\r' :: .char '\n' :: (Bech32.encode "key" keys.extended).points
    (∃ payload, Card.encode keys.extended "0123" (List.replicate 16 7 ++ List.replicate 12 9) =
        .ok payload ∧
      (card payload).identity = .ok (.ofMaterial keys)) ∧
    ∃ content, Text.toUtf8? ⟨line⟩ = some content ∧
      (Source.keyFile "key.sk" (some content)).identity = .ok (.ofMaterial keys) := by
  intro keys card line
  obtain ⟨_, hcards, hfiles⟩ := @exported_recovered keys (by decide)
  obtain ⟨hwritten, hread⟩ := hcards ['0', '1', '2', '3']
    (List.replicate 16 7) (List.replicate 12 9) (List.all_eq_true.mp rfl) List.length_replicate
    List.length_replicate
  obtain ⟨payload, hpayload⟩ := hwritten (by decide)
  obtain ⟨content, hcontent, hidentity⟩ := hfiles "key" line
    ⟨by decide, by decide, by decide⟩ (by decide +kernel) (.back (.feed (.refl _)))
  exact ⟨⟨payload, hpayload, hread hpayload (by decide) (by decide) none⟩,
    content, hcontent, hidentity "key.sk"⟩

end BallotWallet.Key
