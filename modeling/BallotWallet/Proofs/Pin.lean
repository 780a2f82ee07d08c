import BallotWallet.Key.Card
import Mathlib.Tactic.ByContra

/-!
# PINs

A PIN is asked for digits twice: whether its characters count as digits, and what digit each one is.
Superscripts, encircled digits and their like pass the first question only. So there are three kinds
of PIN: those that stand for digits, which have bytes; those that only look like it, which fail for
their value; and all others, which are refused.
-/

namespace BallotWallet

open Text (CodePoint)

/-- A text is its characters, or has something else in it. -/
theorem Text.chars?_cases (t : Text) :
    (∃ cs, t.chars? = some cs ∧ t.points = cs.map .char) ∨
      t.chars? = none ∧ ∃ n, CodePoint.half n ∈ t.points := by
  obtain ⟨ps⟩ := t
  unfold Text.chars?
  induction ps with
  | nil => exact .inl ⟨[], rfl, rfl⟩
  | cons p ps ih =>
      rw [List.mapM_cons]
      cases p with
      | half n => exact .inr ⟨rfl, n, List.mem_cons_self⟩
      | char c =>
          obtain ⟨cs, hcs, hps⟩ | ⟨hnone, n, hn⟩ := ih
          · refine .inl ⟨c :: cs, ?_, congrArg (CodePoint.char c :: ·) hps⟩
            simp only [hcs, CodePoint.char?]
            rfl
          · refine .inr ⟨?_, n, List.mem_cons_of_mem _ hn⟩
            simp only [hnone, CodePoint.char?]
            rfl

namespace Key.Card

/-! ## Kinds of PINs -/

/-- A decimal digit of any script, which stands for a number from zero to nine. -/
def IsDecimal (p : CodePoint) : Prop :=
  ∃ c n, p = .char c ∧ Text.decimal? c = some n ∧ n ≤ 9

/-- A PIN with a character at least, each of which stands for a digit. -/
def IsNumeric (pin : Text) : Prop :=
  pin.points ≠ [] ∧ ∀ p ∈ pin.points, IsDecimal p

/-- A PIN whose characters all count as digits although some of them stand for none. -/
def LooksNumeric (pin : Text) : Prop :=
  (∀ p ∈ pin.points, p.isChar Text.isDigit = true) ∧ ∃ p ∈ pin.points, ¬IsDecimal p

theorem decimal?_le {c : Char} {n : Nat} (h : Text.decimal? c = some n) : n ≤ 9 := by
  obtain ⟨z, hz, rfl⟩ := Option.map_eq_some_iff.mp h
  have hrange := List.find?_some hz
  simp only [Bool.and_eq_true, decide_eq_true_eq] at hrange
  omega

theorem isDecimal_char_iff {c : Char} : IsDecimal (.char c) ↔ (Text.decimal? c).isSome = true := by
  rw [Option.isSome_iff_exists]
  constructor
  · rintro ⟨_, n, ⟨⟩, hn, _⟩
    exact ⟨n, hn⟩
  · rintro ⟨n, hn⟩
    exact ⟨c, n, rfl, hn, decimal?_le hn⟩

instance : DecidablePred IsDecimal
  | .char _ => decidable_of_iff _ isDecimal_char_iff.symm
  | .half _ => isFalse fun ⟨_, _, h, _⟩ => nomatch h

instance (pin : Text) : Decidable (IsNumeric pin) :=
  inferInstanceAs (Decidable (_ ∧ _))

instance (pin : Text) : Decidable (LooksNumeric pin) :=
  inferInstanceAs (Decidable (_ ∧ _))

theorem IsDecimal.isDigit {p : CodePoint} (h : IsDecimal p) : p.isChar Text.isDigit = true := by
  obtain ⟨c, n, rfl, hn, _⟩ := h
  simp [CodePoint.isChar, Text.isDigit, hn]

/-! ## What a PIN is worth -/

section Chars

variable {cs : List Char}

theorem mapM_pinDigit_ok (h : ∀ c ∈ cs, (Text.decimal? c).isSome = true) :
    ∃ digits, cs.mapM pinDigit = .ok digits := by
  induction cs with
  | nil => exact ⟨[], rfl⟩
  | cons c cs ih =>
      obtain ⟨n, hn⟩ := Option.isSome_iff_exists.mp (h c List.mem_cons_self)
      obtain ⟨digits, hdigits⟩ := ih fun d hd => h d (List.mem_cons_of_mem _ hd)
      refine ⟨UInt8.ofNat n :: digits, ?_⟩
      rw [List.mapM_cons, pinDigit, hn, hdigits]
      rfl

theorem mapM_pinDigit_error {c : Char} (hc : c ∈ cs) (hnone : Text.decimal? c = none) :
    cs.mapM pinDigit = .error .badValue := by
  induction cs with
  | nil => cases hc
  | cons d cs ih =>
      rw [List.mapM_cons]
      cases hd : Text.decimal? d with
      | none =>
          rw [pinDigit, hd]
          rfl
      | some n =>
          have hrest : c ∈ cs := (List.mem_cons.mp hc).resolve_left (by
            rintro rfl
            rw [hnone] at hd
            cases hd)
          rw [pinDigit, hd, ih hrest]
          rfl

end Chars

section Pin

variable {pin : Text}

theorem pinBytes_of_chars {cs : List Char} (hne : pin.points ≠ []) (hcs : pin.chars? = some cs)
    (hpoints : pin.points = cs.map .char) :
    pinBytes pin = if cs.all Text.isDigit then cs.mapM pinDigit else .error notDigits := by
  cases cs with
  | nil => exact absurd hpoints hne
  | cons c cs =>
      unfold pinBytes
      rw [hcs]

theorem IsNumeric.pinBytes_ok (h : IsNumeric pin) : ∃ digits, pinBytes pin = .ok digits := by
  obtain ⟨hne, hall⟩ := h
  obtain ⟨cs, hcs, hpoints⟩ | ⟨_, n, hn⟩ := pin.chars?_cases
  · have hdecimal : ∀ c ∈ cs, (Text.decimal? c).isSome = true := fun c hc =>
      isDecimal_char_iff.mp (hall _ (hpoints ▸ List.mem_map_of_mem hc))
    have hdigits : cs.all Text.isDigit = true :=
      List.all_eq_true.mpr fun c hc => (isDecimal_char_iff.mpr (hdecimal c hc)).isDigit
    rw [pinBytes_of_chars hne hcs hpoints, if_pos hdigits]
    exact mapM_pinDigit_ok hdecimal
  · obtain ⟨_, _, hchar, _⟩ := hall _ hn
    cases hchar

theorem LooksNumeric.pinBytes_error (h : LooksNumeric pin) : pinBytes pin = .error .badValue := by
  obtain ⟨hall, p, hp, hnone⟩ := h
  obtain ⟨cs, hcs, hpoints⟩ | ⟨_, n, hn⟩ := pin.chars?_cases
  · have hdigits : cs.all Text.isDigit = true :=
      List.all_eq_true.mpr fun c hc => hall (.char c) (hpoints ▸ List.mem_map_of_mem hc)
    obtain ⟨c, hc, rfl⟩ := List.mem_map.mp (hpoints ▸ hp)
    rw [pinBytes_of_chars (List.ne_nil_of_mem hp) hcs hpoints, if_pos hdigits]
    refine mapM_pinDigit_error hc ?_
    rwa [isDecimal_char_iff, Bool.not_eq_true, Option.isSome_eq_false_iff,
      Option.isNone_iff_eq_none] at hnone
  · exact absurd (hall _ hn) Bool.false_ne_true

/-- A PIN of the third kind is refused. -/
theorem pinBytes_refused (hnumeric : ¬IsNumeric pin) (hlooks : ¬LooksNumeric pin) :
    pinBytes pin = .error notDigits := by
  obtain ⟨cs, hcs, hpoints⟩ | ⟨hnone, _⟩ := pin.chars?_cases
  · by_cases hne : pin.points = []
    · obtain rfl : cs = [] := List.map_eq_nil_iff.mp (hpoints ▸ hne)
      unfold pinBytes
      rw [hcs]
    · rw [pinBytes_of_chars hne hcs hpoints]
      refine if_neg fun hdigits => ?_
      have hall : ∀ p ∈ pin.points, p.isChar Text.isDigit = true := by
        intro p hp
        obtain ⟨c, hc, rfl⟩ := List.mem_map.mp (hpoints ▸ hp)
        exact List.all_eq_true.mp hdigits c hc
      refine hnumeric ⟨hne, fun p hp => ?_⟩
      by_contra hdecimal
      exact hlooks ⟨hall, p, hp, hdecimal⟩
  · unfold pinBytes
    rw [hnone]

/-- A PIN of plain digits stands for digits. -/
theorem isNumeric_digits {digits : List Char} (hne : digits ≠ [])
    (h : ∀ c ∈ digits, c.isDigit = true) : IsNumeric (Text.ofChars digits) := by
  refine ⟨fun hnil => hne (List.map_eq_nil_iff.mp hnil), fun p hp => ?_⟩
  obtain ⟨c, hc, rfl⟩ := List.mem_map.mp hp
  obtain ⟨hlow, hhigh⟩ : 48 ≤ c.toNat ∧ c.toNat ≤ 57 := by
    simpa [Char.isDigit, UInt32.le_iff_toNat_le] using h c hc
  rw [isDecimal_char_iff]
  unfold Text.decimal? Text.zeros
  rw [List.find?_cons_of_pos (by simp; omega)]
  rfl

end Pin

end Key.Card

end BallotWallet
