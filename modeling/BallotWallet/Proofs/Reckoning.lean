import BallotWallet.Chain.Validity
import BallotWallet.Proofs.Failing

/-!
# How reckoning with dates fails

A validity window is resolved with the settings of the chain and the clock alone, so it can fail
in no way but that of numbers.
-/

namespace BallotWallet

/-- The failures of reckoning: nothing to divide by, or a number that is too large or is none. -/
def Failure.isOfReckoning : Failure → Bool
  | divisionByZero | overflow | badValue => true
  | _ => false

theorem Document.failsWithin_toInt_float (x : Binary64) :
    FailsWithin (·.isOfReckoning = true) (float x).toInt := by
  unfold toInt
  dsimp only
  split
  · exact .ok _
  · split
    · exact .error rfl
    · exact .error rfl

namespace BlockDate

theorem failsWithin_ofSlots (slots : Int) (settings : ChainSettings) :
    FailsWithin (·.isOfReckoning = true) (ofSlots slots settings) := by
  unfold ofSlots
  split
  · exact .error rfl
  · exact .ok _

theorem failsWithin_slotsIn (seconds : Binary64) (slotDuration : Int) :
    FailsWithin (·.isOfReckoning = true) (slotsIn seconds slotDuration) := by
  refine .bind ?_ fun duration _ => ?_
  · unfold ChainSettings.secondsOfInt
    split
    · exact .ok _
    · exact .error rfl
  · split
    · exact .error rfl
    · exact Document.failsWithin_toInt_float _

theorem failsWithin_ofTime (seconds : Binary64) (settings : ChainSettings) :
    FailsWithin (·.isOfReckoning = true) (ofTime seconds settings) :=
  .bind (failsWithin_slotsIn _ _) fun slots _ => failsWithin_ofSlots slots settings

end BlockDate

theorem ValidUntil.failsWithin_resolve (window : Option ValidUntil) (settings : ChainSettings)
    (now : Binary64) : FailsWithin (·.isOfReckoning = true) (resolve window settings now) := by
  have htime := BlockDate.failsWithin_ofTime now settings
  unfold resolve expiry
  cases window.getD standard with
  | date d => exact .ok d
  | slotShift slots => exact .bind htime fun _ _ => BlockDate.failsWithin_ofSlots _ _
  | epochShift epochs => exact .bind htime fun _ _ => BlockDate.failsWithin_ofSlots _ _

end BallotWallet
