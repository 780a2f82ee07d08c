import BallotWallet.Chain.Settings

/-!
# Block dates

A block date is an epoch and a slot in it. Dates are a calendar for absolute slots, which count
from the start of the chain.
-/

namespace BallotWallet

/-- A slot of an epoch. -/
structure BlockDate where
  epoch : Int
  slot : Int
  deriving DecidableEq, Inhabited

namespace BlockDate

/-- The date of an absolute slot; slots before the start count as the first one. -/
def ofSlots (slots : Int) (settings : ChainSettings) : Except Failure BlockDate :=
  if settings.slotsPerEpoch = 0 then .error .divisionByZero
  else
    let slots := max slots 0
    .ok ⟨slots.fdiv settings.slotsPerEpoch, slots.fmod settings.slotsPerEpoch⟩

/-- The whole number of slots in a number of seconds. -/
def slotsIn (seconds : Binary64) (slotDuration : Int) : Except Failure Int := do
  let duration ← ChainSettings.secondsOfInt slotDuration
  if duration.isZero then .error .divisionByZero
  else (Document.float (seconds.floorDiv duration)).toInt

/-- The date of a point in time; the time before the start counts as the start. -/
def ofTime (seconds : Binary64) (settings : ChainSettings) : Except Failure BlockDate := do
  let elapsed := (seconds.sub settings.block0Time).max (Binary64.zero false)
  let slots ← slotsIn elapsed settings.slotDuration
  ofSlots slots settings

def absoluteSlot (date : BlockDate) (settings : ChainSettings) : Int :=
  date.epoch * settings.slotsPerEpoch + date.slot

def shift (date : BlockDate) (slots : Int) (settings : ChainSettings) :
    Except Failure BlockDate :=
  ofSlots (date.absoluteSlot settings + slots) settings

/-- When the slot of a date starts, in seconds since the start of 1970. -/
def toTime (date : BlockDate) (settings : ChainSettings) : Except Failure Binary64 := do
  let offset ← ChainSettings.secondsOfInt (date.absoluteSlot settings * settings.slotDuration)
  return settings.block0Time.add offset

/-- The date as epoch and slot with a point between them. -/
def text (date : BlockDate) : String :=
  toString date.epoch ++ "." ++ toString date.slot

/-- Whether the numbers of a date are short enough to be written. -/
def isWritable (date : BlockDate) : Bool :=
  Numeral.isWritable date.epoch && Numeral.isWritable date.slot

/-- The date as text, if its numbers are short enough to be written. -/
def write (date : BlockDate) : Except Failure String :=
  if date.isWritable then .ok date.text else .error .badValue

/-- The date that a text stands for; a missing slot is the first one. -/
def parse (t : Text) : Except Failure BlockDate := do
  let (epoch, slot) := Text.splitFirst '.' t
  let epoch ← (Document.text epoch).toInt
  let slot ← if slot.isEmpty then .ok 0 else (Document.text slot).toInt
  return ⟨epoch, slot⟩

/-- The date in a field of a document, which has to be a text. -/
def ofDocument : Document → Except Failure BlockDate
  | .text t => parse t
  | _ => .error .noMember

/-- The order of dates: first by epoch, then by slot. -/
def compare (a b : BlockDate) : Ordering :=
  (Ord.compare a.epoch b.epoch).then (Ord.compare a.slot b.slot)

end BlockDate

end BallotWallet
