import BallotWallet.Action
import BallotWallet.Wallet.State

/-!
# Bookkeeping

The operations on the state of a wallet as actions, which report what they do.
-/

namespace BallotWallet.Wallet.Book

def report (level : Log.Level) (message : Text) : Action State Unit :=
  Action.report { logger := "voteflow.state", level := level, message := message }

/-- A counter that may be missing, as text. -/
def counterText (counter : Option Int) : String :=
  match counter with
  | some c => toString c
  | none => "None"

/-- Reserves the next counter and a value. -/
def reserve (value : Int) : Action State Reservation :=
  Action.step (State.reserve value)

/-- Gives back what was reserved for a fragment that never reached the node. -/
def release (r : Reservation) : Action State Unit :=
  Action.step (State.release r)

/-- Gives back what may have been reserved. Nothing cannot be given back. -/
def giveBack : Option Reservation → Action State Unit
  | some r => release r
  | none => throw .noMember

/-- Remembers a submitted fragment as pending. -/
def track (id : Text) (r : Option Reservation) : Action State Unit := do
  let s ← (← get).track id r
  set s
  report Log.debug
    ("Tracking fragment " ++ id ++ " (counter=" ++ counterText (r.bind (·.counter)) ++ ")")

/-- Settles a fragment that is in a block. -/
def confirm (id : Text) : Action State Unit := do
  if (← get).isPending id then
    modify (State.confirm id)
    report Log.debug ("Confirmed fragment " ++ id)

/-- Settles a fragment that was rejected, and yields what it had reserved. -/
def rollback (id : Text) : Action State (Option Reservation) := do
  let given ← Action.step (State.rollback id)
  match given with
  | none => return none
  | some r =>
    report Log.debug
      ("Rolled back fragment " ++ id ++ " (counter=" ++ counterText r.counter ++ ", value=" ++
        toString r.value ++ ")")
    return some r

def confirmEach : List Text → Action State Unit
  | [] => pure ()
  | id :: ids => do
    confirm id
    confirmEach ids

def confirmAll : Action State Unit := do
  confirmEach (← get).pendingIds

/-- Brings the state up to an account state of the node. -/
def refresh (snapshot : AccountSnapshot) : Action State Unit := do
  let before ← get
  if before.isOvertaken snapshot then
    report Log.warning
      ("Remote counter " ++ toString snapshot.counter ++ " is ahead of local " ++
        toString before.nextCounter ++ " with " ++ toString before.pending.length ++
        " fragments pending")
  set (before.refresh snapshot)
  let after ← get
  report Log.debug
    ("Refreshed state: counter=" ++ toString after.counter ++ " balance=" ++
      toString after.balance)

end BallotWallet.Wallet.Book
