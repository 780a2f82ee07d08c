import BallotWallet.Chain.Fee
import BallotWallet.Text.Case
import BallotWallet.Time.Iso8601

/-!
# Chain settings

What a ledger node says about its chain: its fee rules, and the timing that turns a length of
time into block dates.
-/

namespace BallotWallet

/-- The settings of a chain. -/
structure ChainSettings where
  /-- The hash of the first block, in whatever form the node gives it. -/
  block0Hash : Document := .text ""
  /-- When the chain started, in seconds since the start of 1970. -/
  block0Time : Binary64 := Binary64.zero false
  /-- The length of a slot in seconds. -/
  slotDuration : Int := 1
  slotsPerEpoch : Int := 60
  /-- Whether addresses are for tests or for production. -/
  discrimination : Text := "test"
  fees : LinearFee := {}
  deriving Inhabited

namespace ChainSettings

/-- A whole number as a number of seconds. -/
def secondsOfInt (n : Int) : Except Failure Binary64 :=
  match Binary64.ofInt? n with
  | some x => .ok x
  | none => .error .overflow

/-- The point in time that a text names, in which a `Z` stands for universal time. -/
def readTimeText (t : Text) : Except Failure Binary64 :=
  let universal : Text := "+00:00"
  let plain := t.points.flatMap fun p => if p == .char 'Z' then universal.points else [p]
  match Time.parse? ⟨plain⟩ with
  | some x => .ok x
  | none => .error .badValue

/-- A point in time: a number of seconds, or a text that names day and time. -/
def readTime : Document → Except Failure Binary64
  | .int n => secondsOfInt n
  | .bool b => .ok (Binary64.ofInt (if b then 1 else 0))
  | .float x => .ok x
  | .text t => readTimeText t
  | _ => .error .noMember

/-- The settings that a ledger node describes. -/
def ofDocument (d : Document) : Except Failure ChainSettings := do
  return {
    block0Hash := ← d.field "block0Hash" (.text "")
    block0Time := ← d.field "block0Time" (.int 0) >>= readTime
    slotDuration := ← d.field "slotDuration" (.int 1) >>= Document.toInt
    slotsPerEpoch := ← d.field "slotsPerEpoch" (.int 60) >>= Document.toInt
    discrimination := Text.lower (← d.field "discrimination" (.text "test")).display
    fees := ← LinearFee.ofDocument ((← d.field "fees").orElse (.object [])) }

/-- Whether the chain is for tests: everything but production is. -/
def testing (settings : ChainSettings) : Bool :=
  settings.discrimination != "production"

end ChainSettings

end BallotWallet
