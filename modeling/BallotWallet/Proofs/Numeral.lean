import BallotWallet.Bytes.Hex
import BallotWallet.Chain.BlockDate
import BallotWallet.Proofs.Ascii

/-!
# Numbers and bytes as text

A whole number is written with the digits of its amount, behind a minus if it is negative. Read
back it is the same number, as long as it has few enough digits. Bytes, and numbers of a fixed
width, are written in hexadecimal.
-/

namespace BallotWallet.Numeral

/-- The digits of the amount of a number. -/
def digits (n : Int) : List Char :=
  Nat.toDigits 10 n.natAbs

theorem isDigit_of_mem_digits {n : Int} {c : Char} (h : c ∈ digits n) : c.isDigit = true :=
  Nat.isDigit_of_mem_toDigits (by decide) (by decide) h

theorem digits_ne_nil (n : Int) : digits n ≠ [] :=
  Nat.toDigits_ne_nil

theorem toString_toList (n : Int) :
    (toString n).toList = if n < 0 then '-' :: digits n else digits n := by
  cases n with
  | ofNat n =>
      rw [if_neg (by simp)]
      show n.repr.toList = _
      rw [Nat.toList_repr]
      rfl
  | negSucc n =>
      rw [if_pos (by simp)]
      show ("-" ++ (n + 1).repr).toList = _
      rw [String.toList_append, Nat.toList_repr]
      rfl

theorem toString_ne_nil (n : Int) : (toString n).toList ≠ [] := by
  rw [toString_toList]
  split
  · exact List.cons_ne_nil _ _
  · exact digits_ne_nil n

theorem ofDigits_digits (n : Int) : ofDigits (digits n) = n.natAbs := by
  have hsame : ofDigits (digits n) = Nat.ofDigitChars 10 (digits n) 0 := by
    rw [Nat.ofDigitChars_eq_foldl]
    unfold ofDigits
    congr 1
    funext m c
    rw [Nat.mul_comm]
    rfl
  rw [hsame]
  exact Nat.ofDigitChars_ten_toDigits

/-- Sign and digits give the number back. -/
theorem signed_digits (n : Int) : signed (decide (n < 0)) (digits n) = n := by
  unfold signed
  rw [ofDigits_digits]
  by_cases h : n < 0
  · simp only [h, decide_true, if_true]
    omega
  · simp only [h, decide_false]
    rw [if_neg Bool.false_ne_true]
    omega

/-- Numbers are written differently if they are different. -/
theorem toString_injective {m n : Int} (h : toString m = toString n) : m = n := by
  have hchars := congrArg String.toList h
  have hminus : ∀ (k : Int) (ds : List Char), digits k ≠ '-' :: ds := by
    intro k ds hdigits
    have hdigit := isDigit_of_mem_digits (hdigits ▸ List.mem_cons_self : '-' ∈ digits k)
    exact absurd hdigit (by decide)
  rw [toString_toList, toString_toList] at hchars
  have hm := signed_digits m
  have hn := signed_digits n
  by_cases hneg : m < 0
  · by_cases hneg' : n < 0
    · rw [if_pos hneg, if_pos hneg'] at hchars
      rw [← hm, ← hn, (List.cons.inj hchars).2, decide_eq_true hneg, decide_eq_true hneg']
    · rw [if_pos hneg, if_neg hneg'] at hchars
      exact absurd hchars.symm (hminus n _)
  · by_cases hneg' : n < 0
    · rw [if_neg hneg, if_pos hneg'] at hchars
      exact absurd hchars (hminus m _)
    · rw [if_neg hneg, if_neg hneg'] at hchars
      rw [← hm, ← hn, hchars, decide_eq_false hneg, decide_eq_false hneg']

theorem length_digits_le {n : Int} (h : isWritable n = true) :
    (digits n).length ≤ maxDigits := by
  have hbound : ∀ k : Nat, 0 < k → n.natAbs < Nat.pow 10 k → (digits n).length ≤ k :=
    fun k hk hlt => (Nat.length_toDigits_le_iff (by decide) hk).mpr hlt
  exact hbound maxDigits (by decide) (of_decide_eq_true h)

/-- Only zero is written with a zero in front. -/
theorem digits_of_zero_front {n : Int} {ds : List Char} (h : digits n = '0' :: ds) : ds = [] := by
  unfold digits at h
  generalize n.natAbs = m at h
  induction m using Nat.strongRecOn generalizing ds with
  | ind m ih =>
      rw [Nat.toDigits_eq_if (by decide)] at h
      split at h
      · exact (List.cons.inj h).2.symm
      · rename_i hge
        cases hhead : Nat.toDigits 10 (m / 10) with
        | nil => exact absurd hhead Nat.toDigits_ne_nil
        | cons c cs =>
            rw [hhead] at h
            obtain rfl : c = '0' := (List.cons.inj h).1
            have hcs := ih (m / 10) (by omega) hhead
            rw [hcs] at hhead
            have hvalue := Nat.ofDigitChars_ten_toDigits (n := m / 10)
            rw [hhead] at hvalue
            have hzero : m / 10 = 0 := by simpa [Nat.ofDigitChars] using hvalue.symm
            omega

/-! ## Reading numerals -/

/-- A character that a written number consists of. -/
def IsWritten (c : Char) : Prop :=
  c.isDigit = true ∨ c = '-'

instance (c : Char) : Decidable (IsWritten c) :=
  inferInstanceAs (Decidable (_ ∨ _))

theorem isWritten_of_mem {n : Int} {c : Char} (h : c ∈ (toString n).toList) : IsWritten c := by
  rw [toString_toList] at h
  split at h
  · rcases List.mem_cons.mp h with rfl | h
    · exact .inr rfl
    · exact .inl (isDigit_of_mem_digits h)
  · exact .inl (isDigit_of_mem_digits h)

theorem IsWritten.toNat_bounds {c : Char} (h : IsWritten c) : 45 ≤ c.toNat ∧ c.toNat ≤ 57 := by
  rcases h with h | rfl
  · unfold Char.isDigit at h
    rw [Bool.and_eq_true, decide_eq_true_eq, decide_eq_true_eq] at h
    exact ⟨Nat.le_trans (by decide) h.1, h.2⟩
  · decide

theorem IsWritten.isMargin {c : Char} (h : IsWritten c) : isMargin c = false := by
  obtain ⟨hlow, hhigh⟩ := h.toNat_bounds
  unfold Numeral.isMargin Text.isBlank
  simp
  omega

theorem IsWritten.plain {c : Char} (h : IsWritten c) : plain c = c := by
  obtain ⟨_, hhigh⟩ := h.toNat_bounds
  unfold Numeral.plain
  rw [if_pos (by omega)]

theorem IsWritten.ne {c : Char} (h : IsWritten c) {d : Char} (hd : d.toNat < 45 ∨ 57 < d.toNat) :
    c ≠ d := by
  rintro rfl
  have := h.toNat_bounds
  omega

theorem ungroup?_eq {cs : List Char} (h : ∀ c ∈ cs, IsWritten c) {last : Char}
    (hlast : last ≠ '_') : ungroup? last cs = some cs := by
  induction cs generalizing last with
  | nil =>
      unfold ungroup?
      rw [if_neg (by simpa using hlast)]
  | cons c cs ih =>
      have hc : c ≠ '_' := (h c List.mem_cons_self).ne (by decide)
      have hrest := ih (fun d hd => h d (List.mem_cons_of_mem _ hd)) hc
      have hlow : (c == '_') = false := beq_false_of_ne hc
      have hbefore : (last == '_') = false := beq_false_of_ne hlast
      unfold ungroup?
      rw [hlow, hbefore, hrest]
      rfl

theorem core?_ofChars {cs : List Char} (h : ∀ c ∈ cs, IsWritten c) :
    core? (Text.ofChars cs) = some cs := by
  unfold core?
  rw [Text.chars?_ofChars, Option.bind_some, Text.trimWhile_eq fun c hc => (h c hc).isMargin,
    List.map_congr_left fun c hc => (h c hc).plain, List.map_id', ungroup?_eq h (by decide)]

/-- A number is read back from its text unless it has too many digits. -/
theorem toInt?_toString_eq (n : Int) :
    toInt? (toString n) = if maxDigits < (digits n).length then none else some n := by
  have hall : (digits n).all Char.isDigit = true :=
    List.all_eq_true.mpr fun c hc => isDigit_of_mem_digits hc
  have hne : (digits n).isEmpty = false := List.isEmpty_eq_false_iff.mpr (digits_ne_nil n)
  have hsplit : splitSign (toString n).toList = (decide (n < 0), digits n) := by
    rw [toString_toList]
    by_cases hn : n < 0
    · simp [hn, splitSign]
    · simp only [hn, if_false, decide_false]
      unfold splitSign
      split
      · rename_i cs heq
        exact absurd (isDigit_of_mem_digits (heq ▸ List.mem_cons_self)) (by decide)
      · rename_i cs heq
        exact absurd (isDigit_of_mem_digits (heq ▸ List.mem_cons_self)) (by decide)
      · rfl
  unfold toInt?
  rw [show ((toString n : String) : Text) = Text.ofChars (toString n).toList from rfl,
    core?_ofChars fun c => isWritten_of_mem]
  simp only [hsplit, hne, hall, Bool.not_true, Bool.or_self, Bool.false_or, decide_eq_true_eq,
    signed_digits]

/-- A number that can be written is read back from its text. -/
theorem toInt?_toString {n : Int} (h : isWritable n = true) : toInt? (toString n) = some n := by
  rw [toInt?_toString_eq, if_neg (Nat.not_lt.mpr (length_digits_le h))]

/-- What is read back from the text of a number is the number. -/
theorem eq_of_toInt?_toString {m n : Int} (h : toInt? (toString n) = some m) : m = n := by
  rw [toInt?_toString_eq] at h
  split at h
  · cases h
  · exact (Option.some.inj h).symm

end BallotWallet.Numeral

namespace BallotWallet

open Numeral

/-- A date that can be written is read back from its text. -/
theorem BlockDate.parse_text {date : BlockDate} (h : date.isWritable = true) :
    BlockDate.parse date.text = .ok date := by
  obtain ⟨hepoch, hslot⟩ := Bool.and_eq_true_iff.mp h
  have hchars : (date.text : Text).points =
      (toString date.epoch).toList.map .char ++
        .char '.' :: (toString date.slot).toList.map .char := by
    show (date.text.toList).map Text.CodePoint.char = _
    unfold BlockDate.text
    simp [String.toList_append]
  have hbefore : ∀ p ∈ (toString date.epoch).toList.map Text.CodePoint.char,
      (p != Text.CodePoint.char '.') = true := by
    intro p hp
    obtain ⟨c, hc, rfl⟩ := List.mem_map.mp hp
    have hne : c ≠ '.' := by
      rintro rfl
      rcases isWritten_of_mem hc with hdot | hdot
      · exact absurd hdot (by decide)
      · exact absurd hdot (by decide)
    simpa using hne
  have hsplit : Text.splitFirst '.' date.text =
      ((toString date.epoch : Text), (toString date.slot : Text)) := by
    unfold Text.splitFirst
    rw [hchars, List.takeWhile_append_of_pos hbefore, List.dropWhile_append_of_pos hbefore]
    simp [Text.ofString, Text.ofChars]
  have hfull : (toString date.slot : Text).isEmpty = false := by
    refine List.isEmpty_eq_false_iff.mpr fun hempty => toString_ne_nil date.slot ?_
    exact List.map_eq_nil_iff.mp hempty
  unfold BlockDate.parse
  rw [hsplit]
  simp only [hfull, Document.toInt, toInt?_toString hepoch, toInt?_toString hslot]
  rfl

end BallotWallet

namespace BallotWallet.Hex

/-! ## Hexadecimal digits -/

theorem value?_digitChar {n : Nat} (h : n < 16) : value? (Nat.digitChar n) = some n := by
  have hall : ∀ i : Fin 16, value? (Nat.digitChar i) = some i.val := by decide
  exact hall ⟨n, h⟩

theorem value?_digit {n : Nat} (h : n < 16) : value? (digit n) = some n := by
  have hall : ∀ i : Fin 16, value? (digit i) = some i.val := by decide
  exact hall ⟨n, h⟩

theorem isGap_digit {n : Nat} (h : n < 16) : isGap (digit n) = false := by
  have hall : ∀ i : Fin 16, isGap (digit i) = false := by decide
  exact hall ⟨n, h⟩

/-- Bytes are read back from their digits. -/
theorem bytes?_chars (bs : Bytes) : bytes? (chars bs) = some bs := by
  induction bs with
  | nil => rfl
  | cons b bs ih =>
      have hb : b.toNat < 256 := b.toNat_lt
      have hhigh : b.toNat / 16 < 16 := by omega
      have hlow : b.toNat % 16 < 16 := Nat.mod_lt _ (by decide)
      have hbyte : UInt8.ofNat (b.toNat / 16 * 16 + b.toNat % 16) = b := by
        rw [Nat.div_add_mod', UInt8.ofNat_toNat]
      unfold chars bytes?
      simp only [isGap_digit hhigh, value?_digit hhigh, value?_digit hlow, ih, hbyte,
        Bool.false_eq_true, if_false, Option.map_some]

theorem toList_ofNat_one {n : Nat} (h : n < 16) : (ofNat 1 n).toList = [Nat.digitChar n] := by
  unfold ofNat
  rw [Nat.toDigits_eq_if (by decide), if_pos h]
  exact String.toList_ofList

theorem toList_ofNat_succ {width : Nat} (hwidth : 0 < width) (n : Nat) :
    (ofNat (width + 1) n).toList = (ofNat width (n / 16)).toList ++ [Nat.digitChar (n % 16)] := by
  unfold ofNat
  simp only [String.toList_ofList]
  rw [Nat.toDigits_eq_if (b := 16) (n := n) (by decide)]
  split
  · rename_i hsmall
    have hwide : width = width - 1 + 1 := (Nat.sub_add_cancel hwidth).symm
    rw [Nat.div_eq_of_lt hsmall, Nat.mod_eq_of_lt hsmall, Nat.toDigits_zero]
    rw [List.length_singleton, List.length_singleton, Nat.add_sub_cancel, hwide,
      List.replicate_succ', Nat.add_sub_cancel]
  · simp

end BallotWallet.Hex
