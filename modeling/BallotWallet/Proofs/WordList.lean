import BallotWallet.Key.Mnemonic
import BallotWallet.Proofs.Ascii
import BallotWallet.Proofs.Bits
import Mathlib.Data.List.GetD
import Mathlib.Data.List.Nodup

/-!
# The word list

The words of secret phrases are 2048 words of small letters. Their first four letters ascend
through the list, so no word is in it twice, and a word and the eleven bits of its place determine
each other.
-/

namespace BallotWallet.Key

/-! ## Spelling -/

/-- A small letter. -/
def IsLetter (c : Char) : Prop :=
  97 ≤ c.toNat ∧ c.toNat ≤ 122

/-- A word of small letters. -/
def IsSpelling (w : String) : Prop :=
  w.toList ≠ [] ∧ ∀ c ∈ w.toList, IsLetter c

/-- The bytes of a word, for checks on the whole list. -/
def letters (w : String) : Bytes :=
  w.toUTF8.data.toList

/-- Whether a word consists of small letters, of at least one. -/
def isSpelled (w : String) : Bool :=
  !(letters w).isEmpty && (letters w).all fun b => 97 ≤ b.toNat && b.toNat ≤ 122

theorem letters_eq_ofString (w : String) : letters w = Bytes.ofString w :=
  (Text.toList_loop w.toUTF8 0 []).symm

/-- What consists of letters by its bytes does so by its characters. -/
theorem isSpelling_of_isSpelled {w : String} (h : isSpelled w = true) : IsSpelling w := by
  obtain ⟨hne, hall⟩ := Bool.and_eq_true_iff.mp h
  have hletter : ∀ b ∈ letters w, 97 ≤ b.toNat ∧ b.toNat ≤ 122 := by
    intro b hb
    have hb := List.all_eq_true.mp hall b hb
    exact ⟨of_decide_eq_true (Bool.and_eq_true_iff.mp hb).1,
      of_decide_eq_true (Bool.and_eq_true_iff.mp hb).2⟩
  -- the word is that of the characters with the numbers of its bytes
  let cs := (letters w).map fun b => Char.ofNat b.toNat
  have hnumber : ∀ b ∈ letters w, (Char.ofNat b.toNat).toNat = b.toNat := by
    intro b hb
    have hrange := hletter b hb
    exact Text.toNat_ofNat (.inl (by omega))
  have hcs : ∀ c ∈ cs, IsLetter c := by
    intro c hc
    obtain ⟨b, hb, rfl⟩ := List.mem_map.mp hc
    rw [IsLetter, hnumber b hb]
    exact hletter b hb
  have hw : w = String.ofList cs := by
    apply Text.ofString_inj
    rw [Text.ofString_ofList fun c hc => Nat.lt_of_le_of_lt (hcs c hc).2 (by decide),
      List.map_map, ← letters_eq_ofString]
    calc letters w = (letters w).map id := (List.map_id _).symm
      _ = (letters w).map _ := List.map_congr_left fun b hb => by
          rw [Function.comp_apply, hnumber b hb, UInt8.ofNat_toNat, id]
  rw [hw, IsSpelling, String.toList_ofList]
  refine ⟨?_, hcs⟩
  simpa [cs] using hne

/-! ## Order -/

/-- The first four letters of a word, as a number. -/
def front (w : String) : Nat :=
  Bytes.toNatBE (Bytes.padRight 4 ((letters w).take 4))

/-- Whether the fronts of words ascend from above a number. -/
def ascends (n : Nat) : List String → Bool
  | [] => true
  | w :: ws => decide (n < front w) && ascends (front w) ws

theorem pairwise_of_ascends {n : Nat} {ws : List String} (h : ascends n ws = true) :
    (∀ w ∈ ws, n < front w) ∧ ws.Pairwise fun v w => front v < front w := by
  induction ws generalizing n with
  | nil => exact ⟨nofun, .nil⟩
  | cons w ws ih =>
      obtain ⟨hfirst, hrest⟩ := Bool.and_eq_true_iff.mp h
      have hlow : n < front w := of_decide_eq_true hfirst
      obtain ⟨habove, hpairs⟩ := ih hrest
      refine ⟨?_, .cons habove hpairs⟩
      rintro v (_ | ⟨_, hv⟩)
      · exact hlow
      · exact Nat.lt_trans hlow (habove v hv)

theorem length_wordList : wordList.length = 2048 := by
  decide +kernel

-- one statement, so that the letters of the list are evaluated once
theorem spelled_and_ascending : wordList.all isSpelled = true ∧ ascends 0 wordList = true := by
  decide +kernel

theorem isSpelling_of_mem {w : String} (h : w ∈ wordList) : IsSpelling w :=
  isSpelling_of_isSpelled (List.all_eq_true.mp spelled_and_ascending.1 w h)

/-- The first four letters tell a word from all others. -/
theorem nodup_front : (wordList.map front).Nodup := by
  rw [List.Nodup, List.pairwise_map]
  exact (pairwise_of_ascends spelled_and_ascending.2).2.imp Nat.ne_of_lt

theorem nodup_wordList : wordList.Nodup :=
  List.Nodup.of_map front nodup_front

/-! ## Places -/

namespace Mnemonic

variable {bits : List Bool}

theorem word_eq (h : bits.length = 11) : ∃ hlt : Bits.toNat bits < wordList.length,
    word bits = wordList[Bits.toNat bits] := by
  have hlt : Bits.toNat bits < wordList.length := by
    rw [length_wordList]
    exact Nat.lt_of_lt_of_eq (Bits.toNat_lt bits) (h ▸ rfl)
  exact ⟨hlt, List.getD_eq_getElem _ _ hlt⟩

theorem word_mem (h : bits.length = 11) : word bits ∈ wordList := by
  obtain ⟨hlt, heq⟩ := word_eq h
  exact heq ▸ List.getElem_mem hlt

/-- A word has the place that its bits stand for. -/
theorem idxOf?_word (h : bits.length = 11) :
    wordList.idxOf? (word bits) = some (Bits.toNat bits) := by
  obtain ⟨hlt, heq⟩ := word_eq h
  refine List.idxOf?_eq_some_iff.mpr ⟨hlt, heq.symm, fun j hj hsame => ?_⟩
  have hplace := (List.Nodup.getElem_inj_iff nodup_wordList).mp (hsame.trans heq)
  omega

end Mnemonic

end BallotWallet.Key
