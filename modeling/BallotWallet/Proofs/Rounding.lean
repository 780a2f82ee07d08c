import BallotWallet.Document
import Mathlib.Algebra.Order.Field.Basic
import Mathlib.Algebra.Order.Field.Power
import Mathlib.Data.Rat.Cast.Order
import Mathlib.Tactic.Linarith
import Mathlib.Tactic.Ring
import Mathlib.Tactic.NormNum

/-!
# Rounding

When floating point numbers are finite. Every operation is exact arithmetic followed by one
rounding, and what is below a ceiling is rounded to a finite number. So the sum of finite numbers
is finite as long as it stays below the ceiling, and a quotient that is rounded down always is, if
the divisor is a whole number.
-/

namespace BallotWallet

theorem twoTo_cast {k : Int} (hk : 0 ≤ k) : (twoTo k : ℚ) = 2 ^ k := by
  obtain ⟨n, rfl⟩ := Int.eq_ofNat_of_zero_le hk
  unfold twoTo
  show ((2 ^ n : Nat) : ℚ) = _
  simp

theorem two_zpow_pos (k : Int) : (0 : ℚ) < 2 ^ k :=
  zpow_pos two_pos k

namespace Binary64

/-! ## Rounding -/

theorem log2_bounds {n : Nat} (hn : n ≠ 0) :
    (2 : ℚ) ^ (n.log2 : Int) ≤ n ∧ (n : ℚ) < 2 ^ ((n.log2 : Int) + 1) := by
  have hlow := Nat.log2_self_le hn
  have hhigh := Nat.lt_log2_self (n := n)
  constructor
  · rw [zpow_natCast]
    exact_mod_cast hlow
  · rw [← Nat.cast_succ, zpow_natCast]
    exact_mod_cast hhigh

/-- The comparison that decides about the last bit of a logarithm. -/
theorem fits_iff {num den : Nat} (hden : den ≠ 0) (k : Int) :
    (if 0 ≤ k then den * twoTo k ≤ num else den ≤ num * twoTo (-k)) ↔
      (2 : ℚ) ^ k ≤ num / den := by
  have hpos : (0 : ℚ) < den := by exact_mod_cast Nat.pos_of_ne_zero hden
  rw [le_div_iff₀ hpos]
  split
  · rename_i hk
    rw [← twoTo_cast hk, mul_comm]
    norm_cast
  · rename_i hk
    have hneg : 0 ≤ -k := by omega
    have hscale : (2 : ℚ) ^ k = (twoTo (-k) : ℚ)⁻¹ := by
      rw [twoTo_cast hneg, zpow_neg, inv_inv]
    have htwo : (0 : ℚ) < twoTo (-k) := by
      rw [twoTo_cast hneg]
      exact two_zpow_pos _
    rw [hscale, inv_mul_le_iff₀ htwo, mul_comm]
    norm_cast

/-- The logarithm of a quotient, rounded down. -/
theorem floorLog2_bounds {num den : Nat} (hnum : num ≠ 0) (hden : den ≠ 0) :
    (2 : ℚ) ^ floorLog2 num den ≤ num / den ∧ (num : ℚ) / den < 2 ^ (floorLog2 num den + 1) := by
  obtain ⟨hnlow, hnhigh⟩ := log2_bounds hnum
  obtain ⟨hdlow, hdhigh⟩ := log2_bounds hden
  have hpos : (0 : ℚ) < den := by exact_mod_cast Nat.pos_of_ne_zero hden
  have hhigh : (num : ℚ) / den < 2 ^ ((num.log2 : Int) - den.log2 + 1) := by
    rw [div_lt_iff₀ hpos]
    calc (num : ℚ) < 2 ^ ((num.log2 : Int) + 1) := hnhigh
      _ = 2 ^ ((num.log2 : Int) - den.log2 + 1) * 2 ^ (den.log2 : Int) := by
          rw [← zpow_add₀ two_ne_zero]
          ring_nf
      _ ≤ 2 ^ ((num.log2 : Int) - den.log2 + 1) * den :=
          mul_le_mul_of_nonneg_left hdlow (two_zpow_pos _).le
  have hlow : (2 : ℚ) ^ ((num.log2 : Int) - den.log2 - 1) ≤ num / den := by
    rw [le_div_iff₀ hpos]
    calc (2 : ℚ) ^ ((num.log2 : Int) - den.log2 - 1) * den
        ≤ 2 ^ ((num.log2 : Int) - den.log2 - 1) * 2 ^ ((den.log2 : Int) + 1) :=
          mul_le_mul_of_nonneg_left hdhigh.le (two_zpow_pos _).le
      _ = 2 ^ (num.log2 : Int) := by
          rw [← zpow_add₀ two_ne_zero]
          ring_nf
      _ ≤ num := hnlow
  have hlog : floorLog2 num den =
      if (2 : ℚ) ^ ((num.log2 : Int) - den.log2) ≤ num / den then (num.log2 : Int) - den.log2
      else (num.log2 : Int) - den.log2 - 1 :=
    if_congr (fits_iff hden _) rfl rfl
  rw [hlog]
  split
  · exact ⟨‹_›, hhigh⟩
  · refine ⟨hlow, ?_⟩
    rw [Int.sub_add_cancel]
    exact lt_of_not_ge ‹_›

/-- A quotient that is less than half above a number is not rounded beyond it. -/
theorem roundQuotient_le {num den bound : Nat} (h : 2 * num < (2 * bound + 1) * den) :
    roundQuotient num den ≤ bound := by
  have hdiv := Nat.div_add_mod num den
  unfold roundQuotient
  dsimp only
  generalize num / den = q at hdiv ⊢
  generalize num % den = r at hdiv ⊢
  have hexpand : (2 * bound + 1) * den = 2 * (den * bound) + den := by ring
  rw [hexpand] at h
  have hquotient : q ≤ bound := by
    by_contra hlt
    have hmul : den * (bound + 1) ≤ den * q := Nat.mul_le_mul_left den (Nat.lt_of_not_ge hlt)
    rw [Nat.mul_succ] at hmul
    omega
  split
  · rename_i hup
    -- at the bound itself, the remainder is less than half
    have hne : q ≠ bound := by
      rintro rfl
      have hmore : den ≤ 2 * r := by
        rcases (Bool.or_eq_true _ _).mp hup with hless | htie
        · exact (of_decide_eq_true hless).le
        · exact (eq_of_beq ((Bool.and_eq_true _ _).mp htie).1).ge
      omega
    omega
  · exact hquotient

/-- A quotient is not rounded below a number that it reaches. -/
theorem le_roundQuotient {num den bound : Nat} (hden : den ≠ 0) (h : bound * den ≤ num) :
    bound ≤ roundQuotient num den := by
  have hle : bound ≤ num / den := (Nat.le_div_iff_mul_le (Nat.pos_of_ne_zero hden)).mpr h
  unfold roundQuotient
  dsimp only
  split <;> omega

/-! ## Quotients -/

theorem twoTo_of_nonpos {e : Int} (he : e ≤ 0) : twoTo e = 1 := by
  unfold twoTo
  rw [Int.toNat_of_nonpos he]

theorem twoTo_pos (e : Int) : 0 < twoTo e :=
  Nat.pow_pos (by decide)

theorem twoTo_neg (e : Int) : (twoTo (-e) : ℚ) * 2 ^ e = twoTo e := by
  rcases le_total 0 e with he | he
  · rw [twoTo_of_nonpos (by omega : -e ≤ 0), twoTo_cast he, Nat.cast_one, one_mul]
  · rw [twoTo_of_nonpos he, twoTo_cast (by omega : 0 ≤ -e), ← zpow_add₀ two_ne_zero,
      neg_add_cancel, zpow_zero, Nat.cast_one]

/-- The exponent of the last bit of a quotient. -/
def scale (num den : Nat) : Int :=
  Max.max (floorLog2 num den - 52) (-1074)

/-- A quotient in units of its last bit, rounded. -/
def mantissa (num den : Nat) : Nat :=
  roundQuotient (num * twoTo (-scale num den)) (den * twoTo (scale num den))

variable {num den bound : Nat}

theorem ofRatio_eq (negative : Bool) (den : Nat) (hnum : num ≠ 0) :
    ofRatio negative num den =
      ofMagnitude negative
        (min ((scale num den + 1074).toNat * 0x10000000000000 + mantissa num den) infinity) := by
  have hmantissa : (if 0 ≤ scale num den then roundQuotient num (den * twoTo (scale num den))
      else roundQuotient (num * twoTo (-scale num den)) den) = mantissa num den := by
    unfold mantissa
    split
    · rw [twoTo_of_nonpos (by omega : -scale num den ≤ 0), Nat.mul_one]
    · rw [twoTo_of_nonpos (by omega : scale num den ≤ 0), Nat.mul_one]
  rw [← hmantissa]
  unfold ofRatio
  rw [if_neg hnum]
  rfl

theorem mantissa_le (hden : den ≠ 0)
    (h : 2 * ((num : ℚ) / den) < (2 * bound + 1) * 2 ^ scale num den) :
    mantissa num den ≤ bound := by
  have hpos : (0 : ℚ) < den := by exact_mod_cast Nat.pos_of_ne_zero hden
  have htwo : (0 : ℚ) < twoTo (-scale num den) := by exact_mod_cast twoTo_pos _
  refine roundQuotient_le ?_
  rw [← Nat.cast_lt (α := ℚ)]
  push_cast
  rw [← twoTo_neg (scale num den)]
  rw [← mul_div_assoc, div_lt_iff₀ hpos] at h
  calc 2 * ((num : ℚ) * twoTo (-scale num den))
      = 2 * num * twoTo (-scale num den) := by ring
    _ < (2 * bound + 1) * 2 ^ scale num den * den * twoTo (-scale num den) :=
        mul_lt_mul_of_pos_right h htwo
    _ = (2 * bound + 1) * (den * (twoTo (-scale num den) * 2 ^ scale num den)) := by ring

theorem le_mantissa (hden : den ≠ 0) (h : (bound : ℚ) * 2 ^ scale num den ≤ num / den) :
    bound ≤ mantissa num den := by
  have hpos : (0 : ℚ) < den := by exact_mod_cast Nat.pos_of_ne_zero hden
  have htwo : (0 : ℚ) < twoTo (-scale num den) := by exact_mod_cast twoTo_pos _
  refine le_roundQuotient (Nat.mul_ne_zero hden (twoTo_pos _).ne') ?_
  rw [← Nat.cast_le (α := ℚ)]
  push_cast
  rw [← twoTo_neg (scale num den)]
  rw [le_div_iff₀ hpos] at h
  calc (bound : ℚ) * (den * (twoTo (-scale num den) * 2 ^ scale num den))
      = bound * 2 ^ scale num den * den * twoTo (-scale num den) := by ring
    _ ≤ num * twoTo (-scale num den) := mul_le_mul_of_nonneg_right h htwo.le

/-! ## Finite numbers -/

theorem magnitude_ofMagnitude (negative : Bool) {n : Nat} (hn : n < 0x8000000000000000) :
    (ofMagnitude negative n).magnitude = n := by
  have hsize : UInt64.size = 0x10000000000000000 := rfl
  unfold ofMagnitude magnitude
  cases negative with
  | false =>
      simp only [Bool.false_eq_true, if_false]
      rw [UInt64.toNat_ofNat_of_lt' (by omega)]
      exact Nat.mod_eq_of_lt hn
  | true =>
      simp only [if_true]
      rw [UInt64.toNat_ofNat_of_lt' (by omega)]
      omega

theorem negative_ofMagnitude (negative : Bool) {n : Nat} (hn : n < 0x8000000000000000) :
    (ofMagnitude negative n).negative = negative := by
  have hsize : UInt64.size = 0x10000000000000000 := rfl
  unfold ofMagnitude Binary64.negative
  cases negative with
  | false =>
      simp only [Bool.false_eq_true, if_false]
      rw [UInt64.toNat_ofNat_of_lt' (by omega)]
      exact decide_eq_false (by omega)
  | true =>
      simp only [if_true]
      rw [UInt64.toNat_ofNat_of_lt' (by omega)]
      exact decide_eq_true (by omega)

/-- The unit of the last bit of the greatest numbers. -/
def topUnit : ℚ :=
  2 ^ (971 : Int)

theorem topUnit_pos : 0 < topUnit :=
  two_zpow_pos 971

/-- The greatest finite number. -/
def greatest : ℚ :=
  (2 ^ 53 - 1) * topUnit

/-- The least number that is rounded to an infinity. -/
def ceiling : ℚ :=
  (2 ^ 53 - 1 / 2) * topUnit

theorem isFinite_ofMagnitude (negative : Bool) {n : Nat} (hn : n < infinity) :
    (ofMagnitude negative n).isFinite = true := by
  unfold isFinite
  rw [magnitude_ofMagnitude negative (hn.trans (by decide))]
  exact decide_eq_true hn

/-- What is below the ceiling is rounded to a finite number. -/
theorem isFinite_ofRatio (negative : Bool) (hden : den ≠ 0) (h : (num : ℚ) / den < ceiling) :
    (ofRatio negative num den).isFinite = true := by
  by_cases hnum : num = 0
  · unfold ofRatio
    rw [if_pos hnum]
    exact isFinite_ofMagnitude negative (by decide)
  · obtain ⟨hlow, hhigh⟩ := floorLog2_bounds hnum hden
    have hlog : floorLog2 num den ≤ 1023 := by
      by_contra hlarge
      have hpow : 2 ^ 53 * topUnit ≤ 2 ^ floorLog2 num den := by
        unfold topUnit
        rw [← zpow_natCast, ← zpow_add₀ two_ne_zero]
        exact zpow_le_zpow_right₀ one_le_two (by omega)
      have hpos := topUnit_pos
      unfold ceiling at h
      linarith
    rw [ofRatio_eq negative den hnum]
    refine isFinite_ofMagnitude negative (lt_of_le_of_lt (min_le_left _ _) ?_)
    rcases lt_or_eq_of_le hlog with hsmall | htop
    · have hmantissa : mantissa num den ≤ 2 ^ 53 := by
        have hscale : (2 : ℚ) ^ (floorLog2 num den - 52) ≤ 2 ^ scale num den :=
          zpow_le_zpow_right₀ one_le_two (le_max_left _ _)
        have hsplit : (2 : ℚ) ^ (floorLog2 num den + 1) =
            2 ^ 53 * 2 ^ (floorLog2 num den - 52) := by
          rw [← zpow_natCast, ← zpow_add₀ two_ne_zero]
          congr 1
          push_cast
          ring
        have hpos := two_zpow_pos (scale num den)
        refine mantissa_le hden ?_
        push_cast
        linarith
      have hscale : scale num den ≤ 970 := by
        unfold scale
        omega
      unfold infinity
      omega
    · have hscale : scale num den = 971 := by
        unfold scale
        omega
      have hmantissa : mantissa num den ≤ 2 ^ 53 - 1 := by
        refine mantissa_le hden ?_
        rw [hscale]
        show _ < _ * topUnit
        unfold ceiling at h
        push_cast
        linarith
      unfold infinity
      omega

/-- What is one or more is rounded to a number that is. -/
theorem magnitude_ofRatio_ge (negative : Bool) (hden : den ≠ 0) (h : 1 ≤ (num : ℚ) / den) :
    1023 * 0x10000000000000 ≤ (ofRatio negative num den).magnitude := by
  have hnum : num ≠ 0 := by
    rintro rfl
    rw [Nat.cast_zero, zero_div] at h
    exact absurd h (by norm_num)
  obtain ⟨hlow, hhigh⟩ := floorLog2_bounds hnum hden
  have hlog : 0 ≤ floorLog2 num den := by
    by_contra hneg
    have hpow : (2 : ℚ) ^ (floorLog2 num den + 1) ≤ 2 ^ (0 : Int) :=
      zpow_le_zpow_right₀ one_le_two (by omega)
    rw [zpow_zero] at hpow
    linarith
  have hscale : scale num den = floorLog2 num den - 52 := by
    unfold scale
    omega
  have hmantissa : 2 ^ 52 ≤ mantissa num den := by
    refine le_mantissa hden ?_
    have hsplit : (2 : ℚ) ^ 52 * 2 ^ (floorLog2 num den - 52) = 2 ^ floorLog2 num den := by
      rw [← zpow_natCast, ← zpow_add₀ two_ne_zero]
      congr 1
      push_cast
      ring
    rw [hscale, Nat.cast_pow, Nat.cast_ofNat, hsplit]
    exact hlow
  rw [ofRatio_eq negative den hnum,
    magnitude_ofMagnitude negative (lt_of_le_of_lt (min_le_right _ _) (by decide)), hscale]
  unfold infinity
  omega

theorem negative_ofRatio (negative : Bool) (num den : Nat) :
    (ofRatio negative num den).negative = negative := by
  by_cases hnum : num = 0
  · unfold ofRatio
    rw [if_pos hnum]
    exact negative_ofMagnitude negative (by decide)
  · rw [ofRatio_eq negative den hnum]
    exact negative_ofMagnitude negative (lt_of_le_of_lt (min_le_right _ _) (by decide))

/-! ## Values -/

/-- The number that a sign stands for. -/
def sign (negative : Bool) : ℚ :=
  if negative then -1 else 1

theorem abs_sign (negative : Bool) : |sign negative| = 1 := by
  cases negative <;> norm_num [sign]

/-- The number that is meant; an infinity counts as zero. -/
def value (x : Binary64) : ℚ :=
  match x.view with
  | .finite negative m e => sign negative * (m * 2 ^ e)
  | _ => 0

variable {x y : Binary64}

theorem value_eq {negative : Bool} {m : Nat} {e : Int} (h : x.view = .finite negative m e) :
    x.value = sign negative * (m * 2 ^ e) := by
  unfold value
  rw [h]

theorem abs_value {negative : Bool} {m : Nat} {e : Int} (h : x.view = .finite negative m e) :
    |x.value| = m * 2 ^ e := by
  rw [value_eq h, abs_mul, abs_sign, one_mul]
  exact abs_of_nonneg (mul_nonneg (Nat.cast_nonneg m) (two_zpow_pos e).le)

/-- What the bits of a finite number say. -/
theorem view_of_isFinite (h : x.isFinite = true) :
    ∃ m e, x.view = .finite x.negative m e ∧ m < 2 ^ 53 ∧ e ≤ 971 ∧
      (1023 * 0x10000000000000 ≤ x.magnitude → 2 ^ 52 ≤ m ∧ -52 ≤ e) := by
  have hlt : x.magnitude < infinity := of_decide_eq_true h
  unfold view
  simp only [Nat.not_lt.mpr hlt.le, if_false, Nat.ne_of_lt hlt]
  unfold infinity at hlt
  split
  · exact ⟨_, _, rfl, by omega, by omega, by omega⟩
  · exact ⟨_, _, rfl, by omega, by omega, by omega⟩

theorem view_of_not_finite (h : x.isFinite = false) :
    x.view = .nan ∨ ∃ negative, x.view = .infinite negative := by
  have hge : infinity ≤ x.magnitude := Nat.not_lt.mp (of_decide_eq_false h)
  unfold view
  dsimp only
  split
  · exact .inl rfl
  · rename_i hle
    rw [if_pos (Nat.le_antisymm (Nat.not_lt.mp hle) hge)]
    exact .inr ⟨_, rfl⟩

theorem greatest_nonneg : 0 ≤ greatest :=
  mul_nonneg (by norm_num) topUnit_pos.le

theorem abs_value_le (x : Binary64) : |x.value| ≤ greatest := by
  cases hfinite : x.isFinite with
  | true =>
      obtain ⟨m, e, hview, hm, he, _⟩ := view_of_isFinite hfinite
      rw [abs_value hview]
      have hm' : (m : ℚ) ≤ 2 ^ 53 - 1 := by
        have hle : m + 1 ≤ 2 ^ 53 := hm
        have hcast : ((m + 1 : Nat) : ℚ) ≤ ((2 ^ 53 : Nat) : ℚ) := by exact_mod_cast hle
        push_cast at hcast
        linarith
      exact mul_le_mul hm' (zpow_le_zpow_right₀ one_le_two he) (two_zpow_pos e).le (by norm_num)
  | false =>
      have hzero : x.value = 0 := by
        unfold value
        rcases view_of_not_finite hfinite with h | ⟨negative, h⟩ <;> rw [h]
      rw [hzero, abs_zero]
      exact greatest_nonneg

theorem one_le_abs_value (h : x.isFinite = true) (hge : 1023 * 0x10000000000000 ≤ x.magnitude) :
    1 ≤ |x.value| := by
  obtain ⟨m, e, hview, _, _, hnormal⟩ := view_of_isFinite h
  obtain ⟨hm, he⟩ := hnormal hge
  have hm' : (2 : ℚ) ^ 52 ≤ m := by exact_mod_cast hm
  have hscale : (2 : ℚ) ^ (-52 : Int) ≤ 2 ^ e := zpow_le_zpow_right₀ one_le_two he
  rw [abs_value hview]
  calc (1 : ℚ) = 2 ^ 52 * 2 ^ (-52 : Int) := by norm_num
    _ ≤ m * 2 ^ e := mul_le_mul hm' hscale (two_zpow_pos _).le (Nat.cast_nonneg m)

/-! ## Operations -/

theorem unitsOf_cast (negative : Bool) (m : Nat) {d e : Int} (h : e ≤ d) :
    (unitsOf negative m d e : ℚ) * 2 ^ e = sign negative * (m * 2 ^ d) := by
  have hsplit : (2 : ℚ) ^ (d - e) * 2 ^ e = 2 ^ d := by
    rw [← zpow_add₀ two_ne_zero, Int.sub_add_cancel]
  have hunits : (unitsOf negative m d e : ℚ) = sign negative * (m * 2 ^ (d - e)) := by
    rw [← twoTo_cast (by omega : 0 ≤ d - e)]
    unfold unitsOf sign
    cases negative <;> push_cast <;> simp
  rw [hunits, ← hsplit]
  ring

theorem isFinite_ofScaled (negative : Bool) {m : Nat} {e : Int} (h : (m : ℚ) * 2 ^ e < ceiling) :
    (ofScaled negative m e).isFinite = true := by
  unfold ofScaled
  split
  · rename_i he
    refine isFinite_ofRatio negative one_ne_zero ?_
    push_cast
    rw [twoTo_cast he, div_one]
    exact h
  · rename_i he
    refine isFinite_ofRatio negative (twoTo_pos _).ne' ?_
    rw [twoTo_cast (by omega : 0 ≤ -e), zpow_neg, div_inv_eq_mul]
    exact h

theorem negative_ofScaled (negative : Bool) (m : Nat) (e : Int) :
    (ofScaled negative m e).negative = negative := by
  unfold ofScaled
  split <;> exact negative_ofRatio _ _ _

theorem isFinite_zero (negative : Bool) : (zero negative).isFinite = true :=
  isFinite_ofMagnitude negative (by decide)

theorem isFinite_add (hx : x.isFinite = true) (hy : y.isFinite = true)
    (h : |x.value + y.value| < ceiling) : (x.add y).isFinite = true := by
  obtain ⟨m, d, hxview, _⟩ := view_of_isFinite hx
  obtain ⟨n, e, hyview, _⟩ := view_of_isFinite hy
  unfold add
  rw [hxview, hyview]
  dsimp only
  split
  · exact isFinite_zero _
  · refine isFinite_ofScaled _ ?_
    have hsum : ((unitsOf x.negative m d (min d e) + unitsOf y.negative n e (min d e) : Int) : ℚ) *
        2 ^ min d e = x.value + y.value := by
      rw [Int.cast_add, add_mul, unitsOf_cast _ _ (min_le_left d e),
        unitsOf_cast _ _ (min_le_right d e), value_eq hxview, value_eq hyview]
    rw [Nat.cast_natAbs, Int.cast_abs]
    rw [← hsum, abs_mul, abs_of_pos (two_zpow_pos _)] at h
    exact h

theorem magnitude_lt (x : Binary64) : x.magnitude < 0x8000000000000000 :=
  Nat.mod_lt _ (by decide)

theorem isFinite_neg (hx : x.isFinite = true) : x.neg.isFinite = true :=
  isFinite_ofMagnitude _ (of_decide_eq_true hx)

theorem value_neg (x : Binary64) : x.neg.value = -x.value := by
  have hmagnitude : x.neg.magnitude = x.magnitude := magnitude_ofMagnitude _ x.magnitude_lt
  have hnegative : x.neg.negative = !x.negative := negative_ofMagnitude _ x.magnitude_lt
  unfold value view
  rw [hmagnitude, hnegative]
  dsimp only
  split_ifs <;> cases x.negative <;> simp [sign]

theorem isFinite_sub (hx : x.isFinite = true) (hy : y.isFinite = true)
    (h : |x.value - y.value| < ceiling) : (x.sub y).isFinite = true := by
  refine isFinite_add hx (isFinite_neg hy) ?_
  rw [value_neg, ← sub_eq_add_neg]
  exact h

theorem value_eq_sign (hx : x.isFinite = true) : x.value = sign x.negative * |x.value| := by
  obtain ⟨m, e, hview, _⟩ := view_of_isFinite hx
  rw [abs_value hview, value_eq hview]

theorem greatest_lt_ceiling : greatest < ceiling :=
  mul_lt_mul_of_pos_right (by norm_num) topUnit_pos

theorem two_lt_topUnit : 2 < topUnit := by
  have hpow : (2 : ℚ) ^ (1 : Int) < 2 ^ (971 : Int) := zpow_lt_zpow_right₀ one_lt_two (by decide)
  rw [zpow_one] at hpow
  exact hpow

theorem greatest_add_one_lt : greatest + 1 < ceiling := by
  have hunit := two_lt_topUnit
  unfold greatest ceiling
  linarith

/-- The distance of two finite numbers with one sign is that of a finite number. -/
theorem isFinite_sub_of_negative (hx : x.isFinite = true) (hy : y.isFinite = true)
    (h : y.negative = x.negative) : (x.sub y).isFinite = true := by
  refine isFinite_sub hx hy (lt_of_le_of_lt ?_ greatest_lt_ceiling)
  have hxle := x.abs_value_le
  have hyle := y.abs_value_le
  rw [value_eq_sign hx, value_eq_sign hy, h, ← mul_sub, abs_mul, abs_sign, one_mul, abs_le]
  constructor
  · linarith [abs_nonneg x.value]
  · linarith [abs_nonneg y.value]

theorem natAbs_unitsOf_cast (negative : Bool) (m : Nat) {d e : Int} (h : e ≤ d) :
    ((unitsOf negative m d e).natAbs : ℚ) * 2 ^ e = m * 2 ^ d := by
  have hunits := congrArg abs (unitsOf_cast negative m h)
  rw [abs_mul, abs_mul, abs_sign, one_mul, abs_of_pos (two_zpow_pos e),
    abs_of_nonneg (mul_nonneg (Nat.cast_nonneg m) (two_zpow_pos d).le)] at hunits
  rw [Nat.cast_natAbs, Int.cast_abs]
  exact hunits

/-- A remainder is finite and has the sign of what was divided. -/
theorem isFinite_rem (hx : x.isFinite = true) (hy : y.isFinite = true) (hne : y.value ≠ 0) :
    (x.rem y).isFinite = true ∧ (x.rem y).negative = x.negative := by
  obtain ⟨m, d, hxview, _⟩ := view_of_isFinite hx
  obtain ⟨n, e, hyview, _⟩ := view_of_isFinite hy
  have hn : n ≠ 0 := by
    rintro rfl
    rw [value_eq hyview] at hne
    simp at hne
  unfold rem
  rw [hxview, hyview]
  dsimp only
  rw [if_neg hn]
  refine ⟨isFinite_ofScaled _ (lt_of_le_of_lt ?_ greatest_lt_ceiling), negative_ofScaled _ _ _⟩
  refine le_trans ?_ x.abs_value_le
  rw [abs_value hxview, ← natAbs_unitsOf_cast false m (min_le_left d e)]
  exact mul_le_mul_of_nonneg_right (by exact_mod_cast Nat.mod_le _ _) (two_zpow_pos _).le

/-- A quotient by a number that is not less than one is finite. -/
theorem isFinite_div (hx : x.isFinite = true) (hy : y.isFinite = true) (hone : 1 ≤ |y.value|) :
    (x.div y).isFinite = true := by
  obtain ⟨m, d, hxview, _⟩ := view_of_isFinite hx
  obtain ⟨n, e, hyview, _⟩ := view_of_isFinite hy
  have hxunits := natAbs_unitsOf_cast false m (min_le_left d e)
  have hyunits := natAbs_unitsOf_cast false n (min_le_right d e)
  rw [← abs_value hxview] at hxunits
  rw [← abs_value hyview] at hyunits
  have hpos := two_zpow_pos (min d e)
  have hn : n ≠ 0 := by
    rintro rfl
    rw [abs_value hyview] at hone
    simp at hone
    linarith
  unfold div
  rw [hxview, hyview]
  dsimp only
  rw [if_neg hn]
  have hden : (unitsOf false n e (min d e)).natAbs ≠ 0 := by
    intro hzero
    rw [hzero, Nat.cast_zero, zero_mul] at hyunits
    linarith
  refine isFinite_ofRatio _ hden (lt_of_le_of_lt ?_ greatest_lt_ceiling)
  refine le_trans ?_ x.abs_value_le
  rw [← mul_div_mul_right _ _ hpos.ne', hxunits, hyunits]
  exact div_le_self (abs_nonneg _) hone

theorem isFinite_ofInt {n : Int} (h : |(n : ℚ)| < ceiling) : (ofInt n).isFinite = true := by
  refine isFinite_ofRatio _ one_ne_zero ?_
  rw [Nat.cast_natAbs, Int.cast_abs, Nat.cast_one, div_one]
  exact h

theorem floor?_lt (hx : x.isFinite = true) {n : Int} (h : x.floor? = some n) :
    |(n : ℚ)| < ceiling := by
  obtain ⟨m, e, hview, hm, _⟩ := view_of_isFinite hx
  unfold floor? at h
  rw [hview] at h
  dsimp only at h
  split at h
  · rename_i he
    cases h
    have hunits := natAbs_unitsOf_cast x.negative m he
    rw [zpow_zero, mul_one, Nat.cast_natAbs, Int.cast_abs, ← abs_value hview] at hunits
    rw [hunits]
    exact lt_of_le_of_lt x.abs_value_le greatest_lt_ceiling
  · cases h
    have habs : (if x.negative = true then -(m : Int) else m).natAbs = m := by
      split <;> simp
    have hle : ((if x.negative = true then -(m : Int) else m).fdiv
        ((twoTo (-e) : Nat) : Int)).natAbs ≤ m := by
      rw [Int.fdiv_eq_ediv_of_nonneg _ (Int.natCast_nonneg _)]
      exact (Int.natAbs_ediv_le_natAbs _ _).trans habs.le
    have hsmall : (m : ℚ) < 2 ^ 53 := by exact_mod_cast hm
    have hunit := two_lt_topUnit
    rw [← Int.cast_abs, ← Nat.cast_natAbs]
    refine lt_of_le_of_lt (by exact_mod_cast hle) (hsmall.trans ?_)
    unfold ceiling
    linarith

/-- Rounding down leaves a number finite. -/
theorem isFinite_floor (hx : x.isFinite = true) : x.floor.isFinite = true := by
  unfold floor
  split
  · exact isFinite_zero _
  · exact isFinite_ofInt (floor?_lt hx ‹_›)
  · exact hx

theorem value_one : (ofInt 1).value = 1 := by
  have hview : (ofInt 1).view = .finite false (2 ^ 52) (-52) := by decide +kernel
  rw [value_eq hview]
  norm_num [sign]

/-- One more or less leaves a number finite. -/
theorem isFinite_succ (hx : x.isFinite = true) :
    (x.add (ofInt 1)).isFinite = true ∧ (x.sub (ofInt 1)).isFinite = true := by
  have hone : (ofInt 1).isFinite = true := by decide +kernel
  have hle := x.abs_value_le
  have hlt := greatest_add_one_lt
  constructor
  · refine isFinite_add hx hone (lt_of_le_of_lt (abs_add_le _ _) ?_)
    rw [value_one, abs_one]
    linarith
  · refine isFinite_sub hx hone (lt_of_le_of_lt (abs_sub _ _) ?_)
    rw [value_one, abs_one]
    linarith

/-- The last step of a division, which rounds down. -/
theorem isFinite_rounded (negative : Bool) {q : Binary64} (hq : q.isFinite = true) :
    (if q.isZero then zero negative
      else if half.lt (q.sub q.floor) then q.floor.add (ofInt 1) else q.floor).isFinite = true := by
  have hfloor := isFinite_floor hq
  split
  · exact isFinite_zero _
  · split
    · exact (isFinite_succ hfloor).1
    · exact hfloor

/-- **Division.** The quotient of finite numbers, rounded down, is finite if the divisor is not
less than one. -/
theorem isFinite_floorDiv (hx : x.isFinite = true) (hy : y.isFinite = true)
    (hone : 1 ≤ |y.value|) : (x.floorDiv y).isFinite = true := by
  have hne : y.value ≠ 0 := by
    rintro hzero
    rw [hzero, abs_zero] at hone
    exact absurd hone (by norm_num)
  obtain ⟨hrem, hsign⟩ := isFinite_rem hx hy hne
  have hquotient := isFinite_div (isFinite_sub_of_negative hx hrem hsign) hy hone
  unfold floorDiv
  refine isFinite_rounded _ ?_
  split
  · exact (isFinite_succ hquotient).2
  · exact hquotient

theorem view_nan : nan.view = .nan := by
  decide +kernel

/-- Nothing that is not finite can be divided. -/
theorem floorDiv_of_not_finite (hx : x.isFinite = false) (hy : y.isFinite = true) :
    x.floorDiv y = nan := by
  obtain ⟨n, e, hyview, _⟩ := view_of_isFinite hy
  have hrem : x.rem y = nan := by
    unfold rem
    rcases view_of_not_finite hx with h | ⟨negative, h⟩ <;> rw [h, hyview]
  have hdiff : x.sub nan = nan := by
    have hneg : nan.neg.view = .nan := by decide +kernel
    unfold sub add
    rw [hneg]
    rcases view_of_not_finite hx with h | ⟨negative, h⟩ <;> rw [h]
  have hquotient : nan.div y = nan := by
    unfold div
    rw [view_nan, hyview]
  have hstep : nan.sub (ofInt 1) = nan := by decide +kernel
  have hfloor : nan.floor = nan := by decide +kernel
  have hnone : nan.isZero = false ∧ half.lt (nan.sub nan) = false := by decide +kernel
  unfold floorDiv
  dsimp only
  rw [hrem, hdiff, hquotient, hstep, ite_self, hfloor, hnone.1, hnone.2,
    if_neg Bool.false_ne_true, if_neg Bool.false_ne_true]

/-! ## Whole numbers -/

theorem magnitude_ofInt_ge {n : Int} (hn : n ≠ 0) :
    1023 * 0x10000000000000 ≤ (ofInt n).magnitude := by
  refine magnitude_ofRatio_ge _ one_ne_zero ?_
  rw [Nat.cast_one, div_one]
  exact_mod_cast Int.natAbs_pos.mpr hn

/-- Only zero is rounded to zero. -/
theorem isZero_ofInt {n : Int} : (ofInt n).isZero = true ↔ n = 0 := by
  constructor
  · intro hzero
    by_contra hne
    have hge := magnitude_ofInt_ge hne
    rw [eq_of_beq hzero] at hge
    omega
  · rintro rfl
    rfl

theorem ofInt?_eq_some {n : Int} {x : Binary64} (h : ofInt? n = some x) :
    x = ofInt n ∧ x.isFinite = true := by
  unfold ofInt? at h
  dsimp only at h
  split at h
  · cases h
    exact ⟨rfl, ‹_›⟩
  · cases h

/-- A finite number can be cut to a whole one. -/
theorem toInt_of_isFinite (hx : x.isFinite = true) : ∃ n, (Document.float x).toInt = .ok n := by
  obtain ⟨m, e, hview, _⟩ := view_of_isFinite hx
  unfold Document.toInt truncate?
  dsimp only
  rw [hview]
  exact ⟨_, rfl⟩

end Binary64

end BallotWallet
