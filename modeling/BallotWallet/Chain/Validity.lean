import BallotWallet.Chain.BlockDate

/-!
# Validity windows

Until when a fragment may be taken into a block: an absolute date, or a distance from now.
-/

namespace BallotWallet

/-- Until when a fragment is valid. -/
inductive ValidUntil where
  | date (d : BlockDate)
  | slotShift (slots : Int)
  | epochShift (epochs : Int)
  deriving DecidableEq, Inhabited

namespace ValidUntil

/-- What holds when the caller does not ask for a window: one epoch from now. -/
def standard : ValidUntil := epochShift 1

/-- The date at which a window ends, at the time `now`. -/
def expiry (window : ValidUntil) (settings : ChainSettings) (now : Binary64) :
    Except Failure BlockDate :=
  match window with
  | date d => .ok d
  | slotShift slots => do
    let current ← BlockDate.ofTime now settings
    current.shift slots settings
  | epochShift epochs => do
    let current ← BlockDate.ofTime now settings
    current.shift (epochs * settings.slotsPerEpoch) settings

/-- The date at which a window or, without one, the standard window ends. -/
def resolve (window : Option ValidUntil) (settings : ChainSettings) (now : Binary64) :
    Except Failure BlockDate :=
  (window.getD standard).expiry settings now

end ValidUntil

end BallotWallet
