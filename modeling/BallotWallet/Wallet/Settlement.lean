import BallotWallet.Wallet.Desk

/-!
# Settling

The fragment log of the ledger node is folded back into the state of the wallet. A fragment in a
block is settled, a rejected one gives back what it reserved, and one that the node does not
mention stays pending. Waiting repeats this until nothing is pending or the patience runs out.
-/

namespace BallotWallet.Wallet.Settlement

variable {ω : Type}

/-- The part of the wallet that these reports come from. -/
def logger : String := "voteflow.reconcile"

/-- The fragments that a poll settled: those in blocks and those rejected. -/
structure Settled where
  confirmed : List Text := []
  rejected : List Text := []
  deriving DecidableEq

/-- Settles one pending fragment as the log says, after the fragments `settled`. -/
def settle (logs : FragmentLogs) (settled : Settled) (id : Text) :
    Action (Desk ω) Settled := do
  match logs.status? id with
  | some (.inABlock _ _) =>
    Desk.book (Book.confirm id)
    return { settled with confirmed := settled.confirmed ++ [id] }
  | some (.rejected reason) =>
    let _ ← Desk.book (Book.rollback id)
    Desk.report logger Log.warning ("Fragment " ++ id ++ " rejected: " ++ reason)
      { fragmentId := .text id }
    return { settled with rejected := settled.rejected ++ [id] }
  | _ => return settled

/-- Settles pending fragments one after another. -/
def settleEach (logs : FragmentLogs) (settled : Settled) : List Text → Action (Desk ω) Settled
  | [] => pure settled
  | id :: ids => do
    let settled ← settle logs settled id
    settleEach logs settled ids

/-- Asks for the fragment log once and settles what it settles. Nothing is asked if nothing is
pending. -/
def poll (client : Ledger.Client ω) : Action (Desk ω) Settled := do
  let ids := (← Desk.state).pendingIds
  if ids.isEmpty then return {}
  let logs ← Desk.request client.fragmentLogs
  let settled ← settleEach logs {} ids
  if !settled.confirmed.isEmpty || !settled.rejected.isEmpty then
    Desk.report logger Log.info
      ("Reconciled " ++ toString settled.confirmed.length ++ " confirmed, " ++
        toString settled.rejected.length ++ " rejected, " ++
        toString (← Desk.state).pending.length ++ " still pending")
  return settled

/-- A poll after which it does not matter whether the node answered. -/
def pollOrReport (client : Ledger.Client ω) : Action (Desk ω) Unit :=
  Action.orOnFailure (do let _ ← poll client) fun e => do
    if !e.isBackend then throw e
    Desk.report logger Log.warning ("Fragment log unavailable, will retry: " ++ e.message)

/-- How long to wait. -/
structure Patience (ω : Type) where
  /-- The seconds between two polls. -/
  interval : Document := .float (Binary64.ofInt 1)
  /-- How many times to sleep at most. -/
  budget : Int := 60
  /-- Whether the wait was called off. -/
  cancelled : ω → Bool := fun _ => false

/-- One poll and, if fragments are still pending, either the end of the wait or a sleep and what
comes after it. -/
def round (client : Ledger.Client ω) (surroundings : Surroundings ω) (patience : Patience ω)
    (isLast : Bool) (again : Action (Desk ω) Unit) : Action (Desk ω) Unit := do
  pollOrReport client
  let desk ← get
  if desk.wallet.pending.isEmpty then return ()
  if isLast || patience.cancelled desk.world then
    throw (.pendingTooLong desk.wallet.pendingIds)
  set { desk with world := surroundings.sleep patience.interval desk.world }
  again

/-- Polls, and sleeps in between, until nothing is pending; a number of sleeps are left. -/
def waitWith (client : Ledger.Client ω) (surroundings : Surroundings ω)
    (patience : Patience ω) : Nat → Action (Desk ω) Unit
  | 0 => round client surroundings patience true (pure ())
  | budget + 1 =>
    round client surroundings patience false (waitWith client surroundings patience budget)

/-- Waits until nothing is pending, as long as the patience lasts. -/
def wait (client : Ledger.Client ω) (surroundings : Surroundings ω) (patience : Patience ω) :
    Action (Desk ω) Unit := do
  if (← Desk.state).pending.isEmpty then return ()
  waitWith client surroundings patience patience.budget.toNat

end BallotWallet.Wallet.Settlement
