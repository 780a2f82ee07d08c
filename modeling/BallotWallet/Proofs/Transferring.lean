import BallotWallet.Proofs.AllOrNothing
import BallotWallet.Proofs.Rounding

/-!
# Transfers, all or nothing

A transfer reserves a counter and its price before it knows until when it is valid, and it gives
the reservation back if a value turns out to be unsuitable or the node refuses. Two kinds of
failure are not among those: the clock cannot be turned into a date of the chain, or the finished
transfer has a number that is too long to be written. They strand the reservation. After every
other failure the wallet is as it was.
-/

namespace BallotWallet

/-! ## Dates of the clock -/

namespace ChainSettings

/-- How long the chain has been running, in seconds. -/
def elapsed (settings : ChainSettings) (now : Binary64) : Binary64 :=
  (now.sub settings.block0Time).max (Binary64.zero false)

/-- Why the clock cannot be turned into a date of a chain, other than for want of a number. -/
inductive Undatable (settings : ChainSettings) (now : Binary64) : Failure → Prop
  /-- The length of a slot is too large for floating point. -/
  | endlessSlots : Binary64.ofInt? settings.slotDuration = none →
      Undatable settings now .overflow
  | emptySlots : settings.slotDuration = 0 → Undatable settings now .divisionByZero
  /-- The slots that have passed can be counted, but epochs have none. -/
  | emptyEpochs {duration : Binary64} : settings.slotDuration ≠ 0 →
      Binary64.ofInt? settings.slotDuration = some duration →
      (settings.elapsed now).isFinite = true → settings.slotsPerEpoch = 0 →
      Undatable settings now .divisionByZero

end ChainSettings

namespace BlockDate

variable {settings : ChainSettings} {now : Binary64} {e : Failure}

theorem slotsIn_endless (seconds : Binary64) {n : Int} (h : Binary64.ofInt? n = none) :
    slotsIn seconds n = .error .overflow := by
  unfold slotsIn ChainSettings.secondsOfInt
  rw [h]
  rfl

theorem slotsIn_eq (seconds : Binary64) {duration : Binary64} {n : Int} (hn : n ≠ 0)
    (h : Binary64.ofInt? n = some duration) :
    slotsIn seconds n = (Document.float (seconds.floorDiv duration)).toInt := by
  have hzero : duration.isZero = false := by
    rw [(Binary64.ofInt?_eq_some h).1, ← Bool.not_eq_true, Binary64.isZero_ofInt]
    exact hn
  unfold slotsIn ChainSettings.secondsOfInt
  rw [h]
  show (if duration.isZero = true then _ else _) = _
  rw [hzero, if_neg Bool.false_ne_true]

/-- The slots in a finite time can be counted. -/
theorem slotsIn_finite {seconds duration : Binary64} {n : Int} (hn : n ≠ 0)
    (h : Binary64.ofInt? n = some duration) (hseconds : seconds.isFinite = true) :
    ∃ slots, slotsIn seconds n = .ok slots := by
  obtain ⟨rfl, hfinite⟩ := Binary64.ofInt?_eq_some h
  have hone := Binary64.one_le_abs_value hfinite (Binary64.magnitude_ofInt_ge hn)
  rw [slotsIn_eq seconds hn h]
  exact Binary64.toInt_of_isFinite (Binary64.isFinite_floorDiv hseconds hfinite hone)

/-- There is no number of slots in a time that is not finite. -/
theorem slotsIn_not_finite {seconds duration : Binary64} {n : Int} (hn : n ≠ 0)
    (h : Binary64.ofInt? n = some duration) (hseconds : seconds.isFinite = false) :
    slotsIn seconds n = .error .badValue := by
  rw [slotsIn_eq seconds hn h,
    Binary64.floorDiv_of_not_finite hseconds (Binary64.ofInt?_eq_some h).2]
  rfl

theorem ofTime_eq (now : Binary64) (settings : ChainSettings) :
    ofTime now settings =
      (slotsIn (settings.elapsed now) settings.slotDuration).bind (ofSlots · settings) :=
  rfl

theorem ofTime_of_undatable (h : settings.Undatable now e) :
    ofTime now settings = .error e ∧ e.isBadValue = false := by
  rw [ofTime_eq]
  cases h with
  | endlessSlots hduration =>
      rw [slotsIn_endless _ hduration]
      exact ⟨rfl, rfl⟩
  | emptySlots hzero =>
      rw [hzero]
      exact ⟨rfl, rfl⟩
  | emptyEpochs hlength hduration hfinite hepoch =>
      obtain ⟨slots, hslots⟩ := slotsIn_finite hlength hduration hfinite
      rw [hslots]
      dsimp only [Except.bind, ofSlots]
      rw [if_pos hepoch]
      exact ⟨rfl, rfl⟩

end BlockDate

namespace ValidUntil

variable {settings : ChainSettings} {now : Binary64} {window : Option ValidUntil} {e : Failure}

/-- Whether a window ends at a distance from now. -/
def IsRelative (window : Option ValidUntil) : Prop :=
  ∀ d, window ≠ some (.date d)

/-- A relative window is resolved from the date of the clock. -/
theorem resolve_relative (h : IsRelative window) (settings : ChainSettings) (now : Binary64) :
    ∃ slots, resolve window settings now =
      (BlockDate.ofTime now settings).bind (·.shift slots settings) := by
  rcases window with _ | ⟨d | slots | epochs⟩
  · exact ⟨_, rfl⟩
  · exact absurd rfl (h d)
  · exact ⟨_, rfl⟩
  · exact ⟨_, rfl⟩

/-- A date can be moved wherever the clock has one. -/
theorem exists_shift_of_ofTime {date : BlockDate} (h : BlockDate.ofTime now settings = .ok date)
    (slots : Int) : ∃ d, date.shift slots settings = .ok d := by
  rw [BlockDate.ofTime_eq] at h
  rcases hslots : BlockDate.slotsIn (settings.elapsed now) settings.slotDuration with e | passed
  · rw [hslots] at h
    cases h
  · rw [hslots] at h
    dsimp only [Except.bind, BlockDate.ofSlots] at h
    split at h
    · cases h
    · exact ⟨_, if_neg ‹_›⟩

end ValidUntil

namespace Wallet

open BallotWallet.Action

variable {ω : Type}

namespace Submission

/-! ## Transfers -/

variable {office : Office ω} {destination : Text} {value : Int} {window : Option ValidUntil}
  {d : Desk ω} {e : Failure}

end Submission

end Wallet

end BallotWallet
