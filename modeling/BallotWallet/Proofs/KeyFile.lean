import BallotWallet.Proofs.Recovering
import Mathlib.Data.List.Basic

/-!
# Key files

A key file holds one line of Bech32 with an extended key. Three things are asked of its content:
that it is UTF-8, that the line is valid, and that the key is usable. A file that fails the second
or the third is refused as malformed, and every other one gives the identity of its key. Two
failures are none of recovery: the first one, and that of what cannot be a path.
-/

namespace BallotWallet.Key

/-! ## Extended keys -/

namespace Material

variable {data privateKey chainCode : Bytes} {keys : Material}

theorem make_eq_ok_iff :
    make privateKey chainCode = .ok keys ↔
      keys.privateKey = privateKey ∧ keys.chainCode = chainCode := by
  unfold make
  constructor
  · intro h
    split at h
    · obtain rfl := Except.ok.inj h
      exact ⟨rfl, rfl⟩
    · split at h
      · cases h
      · cases h
  · rintro ⟨rfl, rfl⟩
    rw [dif_pos keys.usable]

theorem ofExtended_eq_ok_iff :
    ofExtended data = .ok keys ↔ data.length = extendedSize ∧
      keys.privateKey = data.take 32 ∧ keys.chainCode = data.drop 32 := by
  unfold ofExtended
  split
  · rename_i hsize
    exact iff_of_false nofun fun h => hsize h.1
  · rename_i hsize
    rw [make_eq_ok_iff]
    exact ⟨fun h => ⟨not_not.mp hsize, h⟩, fun h => h.2⟩

end Material

/-! ## What a file holds -/

/-- The content of a file is a line of Bech32 in UTF-8, perhaps broken and with white space around
it, and the bytes of the line are a key with a scalar of the curve, and its chain code. -/
structure HoldsKey (content data : Bytes) : Prop where
  line : ∃ text hrp, Text.utf8? content = some text ∧
    Bech32.decode (Source.keyLine text) = .ok (hrp, data)
  size : data.length = 64
  positive : 0 < Bytes.toNatBE (data.take 32)
  below : Bytes.toNatBE (data.take 32) < Secp256k1.order

/-- The key material of a file. -/
def HoldsKey.keys {content data : Bytes} (h : HoldsKey content data) : Material :=
  ⟨data.take 32, data.drop 32, by rw [List.length_take, h.size]; rfl, h.positive, h.below⟩

namespace Source

variable {path : Text} {content : Bytes} {text : Text}

theorem readKeyFile_of_no_path {e : Failure} (hpath : Folder.checkPath path = .error e) :
    readKeyFile path none = .error e := by
  unfold readKeyFile
  rw [hpath]
  rfl

theorem readKeyFile_of_missing (hpath : Folder.checkPath path = .ok ()) :
    readKeyFile path none =
      .error (.recoveryFailed ("cannot read secret key file '" ++ path ++ "'")) := by
  unfold readKeyFile
  rw [hpath]
  rfl

theorem readKeyFile_of_utf8 (htext : Text.utf8? content = some text) :
    readKeyFile path (some content) = Bech32.decode (keyLine text) := by
  unfold readKeyFile
  simp only [htext]

theorem readKeyFile_of_not_utf8 (hnone : Text.utf8? content = none) :
    readKeyFile path (some content) = .error .undecodable := by
  unfold readKeyFile
  simp only [hnone]

theorem readKeyFile_eq_ok_iff {found : Text × Bytes} :
    readKeyFile path (some content) = .ok found ↔
      ∃ text, Text.utf8? content = some text ∧ Bech32.decode (keyLine text) = .ok found := by
  cases htext : Text.utf8? content with
  | none =>
      rw [readKeyFile_of_not_utf8 htext]
      exact iff_of_false nofun fun ⟨_, h, _⟩ => nomatch h
  | some text =>
      rw [readKeyFile_of_utf8 htext]
      exact ⟨fun h => ⟨text, rfl, h⟩, fun ⟨_, hsame, h⟩ => Option.some.inj hsame ▸ h⟩

theorem fromKeyFile_eq_ok_iff {keys : Material} :
    fromKeyFile path (some content) = .ok keys ↔
      ∃ data, ∃ h : HoldsKey content data, keys = h.keys := by
  constructor
  · intro h
    obtain ⟨⟨hrp, data⟩, hread, h⟩ := exists_of_bind_ok h
    obtain ⟨text, htext, hline⟩ := readKeyFile_eq_ok_iff.mp hread
    dsimp only at h
    split at h
    · cases h
    · split at h
      · cases h
      · obtain ⟨hsize, hkey, hchain⟩ := Material.ofExtended_eq_ok_iff.mp h
        obtain ⟨_, hpositive, hbelow⟩ := hkey ▸ keys.usable
        refine ⟨data, ⟨⟨text, hrp, htext, hline⟩, hsize, hpositive, hbelow⟩, ?_⟩
        cases keys
        cases hkey
        cases hchain
        rfl
  · rintro ⟨data, h, rfl⟩
    obtain ⟨text, hrp, htext, hline⟩ := h.line
    have hkeys : Material.ofExtended data = .ok h.keys :=
      Material.ofExtended_eq_ok_iff.mpr ⟨h.size, rfl, rfl⟩
    have hsize : ¬data.length ≠ Material.extendedSize := not_not.mpr h.size
    unfold fromKeyFile
    rw [readKeyFile_eq_ok_iff.mpr ⟨text, htext, hline⟩]
    simp only [bind, Except.bind, hsize, hkeys, if_false]

theorem fromKeyFile_isMalformed (htext : Text.utf8? content = some text) :
    FailsWithin (·.isMalformed = true) (fromKeyFile path (some content)) := by
  refine failsWithin_fromKeyFile (fun _ => id) ?_
  rw [readKeyFile_of_utf8 htext]
  exact Bech32.failsWithin_decode _

/-- The identity of a file is that of its key material. -/
theorem identity_keyFile (path : Text) (content : Option Bytes) :
    (keyFile path content).identity = Identity.ofMaterial <$> fromKeyFile path content :=
  rfl

theorem identity_of_read_error {found : Option Bytes} {e : Failure}
    (hread : readKeyFile path found = .error e) : (keyFile path found).identity = .error e := by
  rw [identity_keyFile, fromKeyFile, hread]
  rfl

/-- A file whose line is refused is refused for the same reason. -/
theorem identity_of_line_error {e : Failure} (htext : Text.utf8? content = some text)
    (hline : Bech32.decode (keyLine text) = .error e) :
    (keyFile path (some content)).identity = .error e :=
  identity_of_read_error ((readKeyFile_of_utf8 htext).trans hline)

/-- **What a key file gives.** A file that cannot be read is refused; what cannot be a path fails as
a path does. A file that is read as UTF-8 gives the identity of the key that it holds, and is
refused as malformed exactly if it holds none. One that is not UTF-8 fails as text. The failures as
a path and as text are none of recovery. -/
theorem keyFile_recovered (path : Text) :
    (Folder.checkPath path = .ok () → (keyFile path none).identity =
      .error (.recoveryFailed ("cannot read secret key file '" ++ path ++ "'"))) ∧
    (∀ e, Folder.checkPath path = .error e →
      (keyFile path none).identity = .error e ∧ (e = .unencodable ∨ e = .badValue)) ∧
    ∀ content,
      (Text.utf8? content = none → (keyFile path (some content)).identity = .error .undecodable) ∧
      (Text.utf8? content ≠ none →
        FailsWithin (·.isMalformed = true) (keyFile path (some content)).identity) ∧
      ∀ identity, (keyFile path (some content)).identity = .ok identity ↔
        ∃ data, ∃ h : HoldsKey content data, identity = .ofMaterial h.keys := by
  refine ⟨fun hpath => identity_of_read_error (readKeyFile_of_missing hpath), fun e hpath =>
    ⟨identity_of_read_error (readKeyFile_of_no_path hpath),
      Folder.failsWithin_checkPath path e hpath⟩,
    fun content => ⟨fun hnone => ?_, fun hsome => ?_, fun identity => ?_⟩⟩
  · exact identity_of_read_error (readKeyFile_of_not_utf8 hnone)
  · obtain ⟨text, htext⟩ := Option.ne_none_iff_exists'.mp hsome
    exact .bind (fromKeyFile_isMalformed htext) fun _ _ => .ok _
  · rw [identity_keyFile]
    constructor
    · intro h
      obtain ⟨keys, hkeys, h⟩ := exists_of_bind_ok h
      obtain rfl := Except.ok.inj h
      obtain ⟨data, hdata, rfl⟩ := fromKeyFile_eq_ok_iff.mp hkeys
      exact ⟨data, hdata, rfl⟩
    · rintro ⟨data, hdata, rfl⟩
      rw [fromKeyFile_eq_ok_iff.mpr ⟨data, hdata, rfl⟩]
      rfl

/-- A file with a line that is broken in the middle and stands behind a wide blank; a file with a
single letter; a file with a byte that UTF-8 never has; no file; and what no path can be. -/
theorem keyFile_recovered_broken :
    let front : Text := "k1qgpqyqszqgpqyqszqgpqyqszqgpqyqszqgpqyqszqgpqyqszqgp"
    let back : Text := "qqqqqqqqqqqqqqqqqqqqqqqqqqqqqqqqqqqqqqqqqqqqqqqqqqqql4x3xa"
    let text : Text := "\u3000" ++ front ++ "\r\n" ++ back ++ "\n"
    let data : Bytes := List.replicate 32 2 ++ List.replicate 32 0
    ∃ content, ∃ h : HoldsKey content data, Text.utf8? content = some text ∧
      (keyFile "secret.key" (some content)).identity = .ok (.ofMaterial h.keys) ∧
      (∃ e, (keyFile "secret.key" (some [0x61])).identity = .error e ∧ e.isMalformed = true) ∧
      (keyFile "secret.key" (some [0xff])).identity = .error .undecodable ∧
      (keyFile "secret.key" none).identity =
        .error (.recoveryFailed "cannot read secret key file 'secret.key'") ∧
      (keyFile "secret\x00key" none).identity = .error .badValue := by
  intro front back text data
  let plain (t : Text) : Bytes := t.points.map fun p => UInt8.ofNat p.toNat
  let content : Bytes := [0xe3, 0x80, 0x80] ++ plain front ++ [13, 10] ++ plain back ++ [10]
  have htext : Text.utf8? content = some text := by decide +kernel
  have hline : Bech32.decode (keyLine text) = .ok ("k", data) := by decide +kernel
  have hkey : HoldsKey content data :=
    ⟨⟨text, "k", htext, hline⟩, rfl, by decide +kernel, by decide +kernel⟩
  obtain ⟨hmissing, _, hfiles⟩ := keyFile_recovered "secret.key"
  obtain ⟨_, hnul, _⟩ := keyFile_recovered "secret\x00key"
  have hletter : (keyFile "secret.key" (some [0x61])).identity =
      .error (.malformedKey "invalid bech32 string") := by decide +kernel
  refine ⟨content, hkey, htext, ?_, ⟨_, hletter, ?_⟩, ?_, ?_, ?_⟩
  · exact ((hfiles content).2.2 _).mpr ⟨data, hkey, rfl⟩
  · exact (hfiles [0x61]).2.1 (by decide +kernel) _ hletter
  · exact (hfiles [0xff]).1 (by decide +kernel)
  · exact hmissing (by decide +kernel)
  · exact (hnul .badValue (by decide +kernel)).1

end Source

end BallotWallet.Key
