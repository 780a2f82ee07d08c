import BallotWallet.Bytes.Bits
import Mathlib.Data.List.Basic
import Mathlib.Tactic.Ring

/-!
# Regrouping bits

Bits and the number that they stand for determine each other. Bits that are cut into groups, the
last one filled up with zeros, come back with these zeros behind them.
-/

namespace BallotWallet.Bits

/-! ## Bits and numbers -/

theorem foldl_toNat (n : Nat) (bits : List Bool) :
    bits.foldl (fun n b => 2 * n + b.toNat) n = n * 2 ^ bits.length + toNat bits := by
  induction bits generalizing n with
  | nil => simp [toNat]
  | cons b bits ih =>
      show bits.foldl _ (2 * n + b.toNat) =
        n * 2 ^ (bits.length + 1) + bits.foldl _ (2 * 0 + b.toNat)
      rw [ih, ih (2 * 0 + b.toNat), Nat.pow_succ]
      ring

theorem toNat_cons (b : Bool) (bits : List Bool) :
    toNat (b :: bits) = b.toNat * 2 ^ bits.length + toNat bits := by
  show bits.foldl _ (2 * 0 + b.toNat) = _
  rw [foldl_toNat, Nat.mul_zero, Nat.zero_add]

theorem toNat_lt (bits : List Bool) : toNat bits < 2 ^ bits.length := by
  induction bits with
  | nil => exact Nat.one_pos
  | cons b bits ih =>
      rw [toNat_cons, List.length_cons, Nat.pow_succ]
      have hb := b.toNat_le
      have hhead : b.toNat * 2 ^ bits.length ≤ 1 * 2 ^ bits.length := Nat.mul_le_mul_right _ hb
      omega

/-- The low bits of a number stand for its rest modulo a power of two. -/
theorem toNat_ofNat (width n : Nat) : toNat (ofNat width n) = n % 2 ^ width := by
  induction width with
  | zero => simp [ofNat, toNat, Nat.mod_one]
  | succ width ih =>
      rw [ofNat, toNat_cons, ih, length_ofNat, Nat.mod_pow_succ, Nat.toNat_testBit]
      ring

theorem ofNat_congr {width n m : Nat} (h : ∀ i < width, n.testBit i = m.testBit i) :
    ofNat width n = ofNat width m := by
  induction width with
  | zero => rfl
  | succ width ih =>
      rw [ofNat, ofNat, h width (Nat.lt_succ_self _), ih fun i hi => h i (Nat.lt_succ_of_lt hi)]

/-- Bits come back from the number that they stand for. -/
theorem ofNat_toNat (bits : List Bool) : ofNat bits.length (toNat bits) = bits := by
  induction bits with
  | nil => rfl
  | cons b bits ih =>
      have hlt := toNat_lt bits
      have hnumber : toNat (b :: bits) = 2 ^ bits.length * b.toNat + toNat bits := by
        rw [toNat_cons, Nat.mul_comm]
      have hbit : ∀ i, (toNat (b :: bits)).testBit i =
          if i < bits.length then (toNat bits).testBit i
          else b.toNat.testBit (i - bits.length) := by
        intro i
        rw [hnumber, Nat.testBit_two_pow_mul_add _ hlt]
      have hhead : (toNat (b :: bits)).testBit bits.length = b := by
        rw [hbit, if_neg (Nat.lt_irrefl _), Nat.sub_self]
        cases b <;> rfl
      rw [List.length_cons, ofNat, hhead, ofNat_congr fun i hi => (hbit i).trans (if_pos hi), ih]

/-- A byte comes back from its eight bits. -/
theorem byte_ofNat (b : UInt8) : byte (ofNat 8 b.toNat) = b := by
  unfold byte
  rw [toNat_ofNat, Nat.mod_eq_of_lt b.toNat_lt, UInt8.ofNat_toNat]

/-- Eight bits come back from their byte. -/
theorem ofNat_byte {bits : List Bool} (h : bits.length = 8) : ofNat 8 (byte bits).toNat = bits := by
  have hlt : toNat bits < 2 ^ 8 := h ▸ toNat_lt bits
  have hback := ofNat_toNat bits
  rw [h] at hback
  unfold byte
  rw [UInt8.toNat_ofNat_of_lt' hlt, hback]

@[simp] theorem length_ofNats (width : Nat) (ns : List Nat) :
    (ofNats width ns).length = width * ns.length := by
  induction ns with
  | nil => rfl
  | cons n ns ih =>
      show (ofNat width n ++ ofNats width ns).length = _
      rw [List.length_append, length_ofNat, ih, List.length_cons]
      ring

/-- Numbers that fit into the width are determined by the bits that they are written in. -/
theorem ofNats_inj {width : Nat} (hwidth : 0 < width) {ns ms : List Nat}
    (hns : ∀ n ∈ ns, n < 2 ^ width) (hms : ∀ m ∈ ms, m < 2 ^ width)
    (h : ofNats width ns = ofNats width ms) : ns = ms := by
  have hlength : ns.length = ms.length := by
    have hbits := congrArg List.length h
    rw [length_ofNats, length_ofNats] at hbits
    exact Nat.eq_of_mul_eq_mul_left hwidth hbits
  induction ns generalizing ms with
  | nil => exact (List.eq_nil_of_length_eq_zero hlength.symm).symm
  | cons n ns ih =>
      obtain ⟨m, ms, rfl⟩ := List.exists_cons_of_length_eq_add_one hlength.symm
      have hsplit : ofNat width n ++ ofNats width ns = ofNat width m ++ ofNats width ms := h
      obtain ⟨hhead, htail⟩ := List.append_inj hsplit (by simp)
      have hnumber := congrArg toNat hhead
      rw [toNat_ofNat, toNat_ofNat, Nat.mod_eq_of_lt (hns n List.mem_cons_self),
        Nat.mod_eq_of_lt (hms m List.mem_cons_self)] at hnumber
      rw [hnumber, ih (fun k hk => hns k (List.mem_cons_of_mem _ hk))
        (fun k hk => hms k (List.mem_cons_of_mem _ hk)) htail (Nat.succ.inj hlength)]

@[simp] theorem length_ofBytes (bs : Bytes) : (ofBytes bs).length = 8 * bs.length := by
  induction bs with
  | nil => rfl
  | cons b bs ih =>
      show (ofNat 8 b.toNat ++ ofBytes bs).length = _
      rw [List.length_append, length_ofNat, ih, List.length_cons]
      omega

/-! ## Groups -/

variable {size : Nat} {group bits : List Bool}

theorem length_padRight (h : bits.length ≤ size) : (padRight size bits).length = size := by
  unfold padRight
  rw [List.length_append, List.length_replicate]
  omega

/-- A group in progress is completed by the bits that it lacks. -/
theorem groupsFrom_append (hsize : group.length + bits.length = size) (hne : bits ≠ [])
    (rest : List Bool) :
    groupsFrom size group (bits ++ rest) = (group ++ bits) :: groups size rest := by
  induction bits generalizing group with
  | nil => exact absurd rfl hne
  | cons b bits ih =>
      rw [List.cons_append, groupsFrom]
      by_cases hlast : bits = []
      · subst hlast
        have hfull : (group ++ [b]).length = size := by simpa using hsize
        simp only [hfull, if_true]
        rfl
      · have hpos := List.length_pos_iff_ne_nil.mpr hlast
        have hopen : (group ++ [b]).length ≠ size := by
          simp only [List.length_append, List.length_cons, List.length_nil] at hsize ⊢
          omega
        have hrest : (group ++ [b]).length + bits.length = size := by
          simp only [List.length_append, List.length_cons, List.length_nil] at hsize ⊢
          omega
        simp only [hopen, if_false]
        rw [ih hrest hlast, List.append_assoc]
        rfl

theorem groups_append (hne : bits ≠ []) (hsize : bits.length = size) (rest : List Bool) :
    groups size (bits ++ rest) = bits :: groups size rest :=
  @groupsFrom_append size [] bits (by simpa using hsize) hne rest

/-- The groups of eight of the bits of bytes are the bits of each byte. -/
theorem groups_ofBytes (bs : Bytes) : groups 8 (ofBytes bs) = bs.map fun b => ofNat 8 b.toNat := by
  induction bs with
  | nil => rfl
  | cons b bs ih =>
      have hne : ofNat 8 b.toNat ≠ [] := List.ne_nil_of_length_pos (by simp)
      show groups 8 (ofNat 8 b.toNat ++ ofBytes bs) = _
      rw [groups_append hne (length_ofNat 8 _), ih, List.map_cons]

/-- Bytes come back from the groups of eight of their bits. -/
theorem map_byte_groups (bs : Bytes) : (groups 8 (ofBytes bs)).map byte = bs := by
  rw [groups_ofBytes, List.map_map]
  calc bs.map (byte ∘ fun b => ofNat 8 b.toNat)
      = bs.map id := List.map_congr_left fun b _ => byte_ofNat b
    _ = bs := List.map_id _

/-- Bits that make up whole groups are cut into these groups. -/
theorem groups_whole (hsize : 0 < size) {n : Nat} (h : bits.length = size * n) :
    (groups size bits).length = n ∧ (∀ g ∈ groups size bits, g.length = size) ∧
      (groups size bits).flatten = bits := by
  induction n generalizing bits with
  | zero =>
      obtain rfl := List.eq_nil_of_length_eq_zero h
      exact ⟨rfl, nofun, rfl⟩
  | succ n ih =>
      rw [Nat.mul_succ] at h
      have hfirst : (bits.take size).length = size := by
        rw [List.length_take]
        omega
      have hrest : (bits.drop size).length = size * n := by
        rw [List.length_drop]
        omega
      have hne : bits.take size ≠ [] := List.ne_nil_of_length_pos (by omega)
      have hsplit : groups size bits = bits.take size :: groups size (bits.drop size) := by
        rw [← groups_append hne hfirst, List.take_append_drop]
      obtain ⟨hlength, hgroups, hflat⟩ := ih hrest
      rw [hsplit]
      refine ⟨?_, ?_, ?_⟩
      · rw [List.length_cons, hlength]
      · rintro g (_ | ⟨_, hg⟩)
        · exact hfirst
        · exact hgroups g hg
      · rw [List.flatten_cons, hflat, List.take_append_drop]

/-- Bits that make up whole groups come back from the numbers of the groups. -/
theorem ofNats_groups (hsize : 0 < size) {n : Nat} (h : bits.length = size * n) :
    ofNats size ((groups size bits).map toNat) = bits := by
  obtain ⟨_, hgroups, hflat⟩ := groups_whole hsize h
  calc ofNats size ((groups size bits).map toNat)
      = (groups size bits).flatMap fun g => ofNat size (toNat g) := List.flatMap_map _ _ _
    _ = (groups size bits).flatMap id :=
        List.flatMap_congr fun g hg => hgroups g hg ▸ ofNat_toNat g
    _ = bits := by rw [List.flatMap_id, hflat]

/-- Bits that make up whole bytes come back from these bytes. -/
theorem ofBytes_groups {n : Nat} (h : bits.length = 8 * n) :
    ofBytes ((groups 8 bits).map byte) = bits := by
  obtain ⟨_, hgroups, hflat⟩ := groups_whole (by decide) h
  calc ofBytes ((groups 8 bits).map byte)
      = (groups 8 bits).flatMap fun g => ofNat 8 (byte g).toNat := List.flatMap_map _ _ _
    _ = (groups 8 bits).flatMap id := List.flatMap_congr fun g hg => ofNat_byte (hgroups g hg)
    _ = bits := by rw [List.flatMap_id, hflat]

theorem length_le_of_mem_groupsFrom (hopen : group.length < size) {g : List Bool}
    (hg : g ∈ groupsFrom size group bits) : g.length ≤ size := by
  induction bits generalizing group with
  | nil =>
      rw [groupsFrom] at hg
      split at hg
      · cases hg
      · obtain rfl := List.mem_singleton.mp hg
        exact Nat.le_of_lt hopen
  | cons b bits ih =>
      rw [groupsFrom] at hg
      split at hg
      · rename_i hfull
        rcases List.mem_cons.mp hg with rfl | hg
        · exact Nat.le_of_eq hfull
        · exact @ih [] (Nat.zero_lt_of_lt hopen) hg
      · rename_i hfull
        refine ih ?_ hg
        rw [List.length_append, List.length_singleton] at hfull ⊢
        omega

/-- No bit is lost in groups, and only the last one is filled up. -/
theorem flatMap_padRight_groupsFrom (hopen : group.length < size) :
    ∃ k < size, (groupsFrom size group bits).flatMap (padRight size) =
      group ++ bits ++ List.replicate k false := by
  -- the group in progress is never whole between two bits
  induction bits generalizing group with
  | nil =>
      rw [groupsFrom]
      split
      · rename_i hempty
        obtain rfl := List.isEmpty_iff.mp hempty
        exact ⟨0, Nat.zero_lt_of_lt hopen, rfl⟩
      · rename_i hsome
        have hpos : 0 < group.length := by
          rw [List.length_pos_iff_ne_nil]
          exact fun hnil => hsome (List.isEmpty_iff.mpr hnil)
        refine ⟨size - group.length, by omega, ?_⟩
        rw [List.flatMap_singleton, List.append_nil]
        rfl
  | cons b bits ih =>
      rw [groupsFrom]
      split
      · rename_i hfull
        obtain ⟨k, hk, hrest⟩ := @ih [] (Nat.zero_lt_of_lt hopen)
        have hsame : padRight size (group ++ [b]) = group ++ [b] := by
          unfold padRight
          rw [hfull, Nat.sub_self, List.replicate_zero, List.append_nil]
        refine ⟨k, hk, ?_⟩
        rw [List.flatMap_cons, hsame, hrest]
        simp
      · rename_i hfull
        have hlonger : (group ++ [b]).length < size := by
          rw [List.length_append, List.length_singleton] at hfull ⊢
          omega
        obtain ⟨k, hk, hrest⟩ := ih hlonger
        refine ⟨k, hk, ?_⟩
        rw [hrest]
        simp

end BallotWallet.Bits
