import BallotWallet.Ledger.Account
import BallotWallet.Wallet.CounterSet

/-!
# Wallet state

What the wallet knows about itself within a session: the counter that the next transaction is
signed with, the balance, and the fragments that were submitted and are not settled yet. Every
transaction first reserves a counter and the value it spends. A reservation is given back, or
its fragment settles in a block, or its fragment is rejected; counters that come back are used
again, the lowest one first.
-/

namespace BallotWallet.Wallet

/-- What one fragment takes: a counter and a value. -/
structure Reservation where
  counter : Option Int
  value : Int := 0
  /-- Whether the balance that the node reported contains the fragment already. -/
  applied : Bool := false
  deriving DecidableEq, Inhabited

/-- The state of a wallet. -/
structure State where
  /-- The lowest counter that was never handed out. -/
  nextCounter : Int := 0
  /-- The lowest counter that may be used again. -/
  floor : Int := 0
  /-- The counters that came back. -/
  released : CounterSet := .empty
  /-- The counters that are reserved and not settled. -/
  inFlight : CounterSet := .empty
  balance : Int := 0
  /-- The fragments that were submitted, with what they reserved, in the order of submission. -/
  pending : List (Text × Reservation) := []
  deriving DecidableEq, Inhabited

namespace State

/-- The state of a wallet with a first counter, which must not be negative, and a balance. -/
def start (counter : Int := 0) (balance : Int := 0) : Except Failure State :=
  if counter < 0 then .error (.invariant "counter must be non-negative")
  else .ok { nextCounter := counter, floor := counter, balance := balance }

/-! ## Looking -/

/-- The counter that the next reservation takes. -/
def counter (s : State) : Int :=
  s.released.least?.getD s.nextCounter

/-- The identifiers of the pending fragments, in the order of submission. -/
def pendingIds (s : State) : List Text :=
  s.pending.map (·.1)

def isPending (s : State) (id : Text) : Bool :=
  s.pendingIds.contains id

def reservationOf? (s : State) (id : Text) : Option Reservation :=
  s.pending.lookup id

def text (s : State) : String :=
  "LocalWalletState(counter=" ++ toString s.counter ++ ", balance=" ++ toString s.balance ++
    ", pending=" ++ toString s.pending.length ++ ")"

/-! ## Reserving -/

/-- The next counter, and the state in which it is taken. -/
def takeCounter (s : State) : Int × State :=
  match s.released.least? with
  | some c => (c, { s with released := s.released.erase c })
  | none => (s.nextCounter, { s with nextCounter := s.nextCounter + 1 })

/-- Reserves the next counter and a value. The text of the refusal writes the counter out even if it
has too many digits for `Numeral.isWritable`; the limit is left out here. -/
def reserve (value : Int) (s : State) : Except Failure Reservation × State :=
  let (c, s) := s.takeCounter
  if s.inFlight.contains c then
    (.error (.invariant ("counter " ++ toString c ++ " is already in flight")), s)
  else
    (.ok { counter := some c, value := value },
      { s with inFlight := s.inFlight.insert c, balance := s.balance - value })

/-- The first of the counters `next` that does not follow a released one, and the released
counters below it. Released counters at the top count as never handed out. -/
def lower : Nat → Int → CounterSet → Int × CounterSet
  | 0, next, released => (next, released)
  | fuel + 1, next, released =>
    if released.contains (next - 1) then lower fuel (next - 1) (released.erase (next - 1))
    else (next, released)

/-- The state with a counter free again, unless the chain has moved past it. -/
def freeCounter (c : Int) (s : State) : State :=
  let s := { s with inFlight := s.inFlight.erase c }
  if c < s.floor then s
  else
    let released := s.released.insert c
    let (next, released) := lower released.size s.nextCounter released
    { s with nextCounter := next, released := released }

/-- The state with the value of a reservation given back, unless it never went missing. -/
def refund (r : Reservation) (s : State) : State :=
  if r.applied then s else { s with balance := s.balance + r.value }

/-- Gives back what was reserved: the value first, then the counter. As with `reserve`, the limit on
the digits of a counter is left out of the text of the refusal. -/
def release (r : Reservation) (s : State) : Except Failure Unit × State :=
  let s := s.refund r
  match r.counter with
  | none => (.ok (), s)
  | some c =>
    if s.inFlight.contains c then (.ok (), s.freeCounter c)
    else (.error (.invariant ("counter " ++ toString c ++ " was not reserved")), s)

/-- Remembers a submitted fragment as pending, with what it reserved if anything. -/
def track (id : Text) (r : Option Reservation) (s : State) : Except Failure State :=
  if s.isPending id then .error (.invariant ("fragment " ++ id ++ " is already pending"))
  else .ok { s with pending := s.pending ++ [(id, r.getD { counter := none })] }

/-! ## Settling -/

/-- The state without a pending fragment. -/
def forget (id : Text) (s : State) : State :=
  { s with pending := s.pending.filter (·.1 != id) }

/-- The state after a fragment has settled in a block: it is forgotten and its effects stay. -/
def confirm (id : Text) (s : State) : State :=
  match s.reservationOf? id with
  | none => s
  | some r =>
    let s := s.forget id
    match r.counter with
    | none => s
    | some c => { s with inFlight := s.inFlight.erase c }

/-- The state after a fragment was rejected: it is forgotten and gives back what it reserved. -/
def rollback (id : Text) (s : State) : Except Failure (Option Reservation) × State :=
  match s.reservationOf? id with
  | none => (.ok none, s)
  | some r =>
    let (result, s) := (s.forget id).release r
    (result.map fun _ => some r, s)

/-- The state after all pending fragments have settled in blocks. -/
def confirmAll (s : State) : State :=
  s.pendingIds.foldl (fun s id => s.confirm id) s

/-! ## The truth of the node -/

/-- A reservation, marked as applied if its counter is below the counter of the node. -/
def markApplied (nodeCounter : Int) (r : Reservation) : Reservation :=
  match r.counter with
  | some c => if c < nodeCounter then { r with applied := true } else r
  | none => r

/-- The value of the reservations that the balance of the node does not contain yet. -/
def unapplied : List (Text × Reservation) → Int
  | [] => 0
  | (_, r) :: pending => (if r.applied then 0 else r.value) + unapplied pending

/-- The pending fragments, the balance and nothing else brought up to an account state. -/
def refreshBalance (snapshot : AccountSnapshot) (s : State) : State :=
  let pending := s.pending.map fun p => (p.1, markApplied snapshot.counter p.2)
  { s with pending := pending, balance := snapshot.value - unapplied pending }

/-- Whether the node has moved past every counter that was handed out. -/
def isOvertaken (snapshot : AccountSnapshot) (s : State) : Bool :=
  !s.pending.isEmpty && s.nextCounter < snapshot.counter

/-- The counters brought up to an account state. Without pending fragments the node decides. If
it has moved past all counters, they jump ahead while the fragments stay; otherwise the counters
below the one of the node are spent. -/
def refreshCounters (snapshot : AccountSnapshot) (s : State) : State :=
  if s.pending.isEmpty then
    { s with
      nextCounter := snapshot.counter, floor := snapshot.counter
      released := .empty, inFlight := .empty }
  else if s.nextCounter < snapshot.counter then
    { s with nextCounter := snapshot.counter, floor := snapshot.counter, released := .empty }
  else if s.floor < snapshot.counter then
    { s with
      floor := snapshot.counter
      released := s.released.filter fun c => decide (snapshot.counter ≤ c) }
  else s

/-- The state after an account state was fetched from the node. -/
def refresh (snapshot : AccountSnapshot) (s : State) : State :=
  (s.refreshBalance snapshot).refreshCounters snapshot

end State

end BallotWallet.Wallet
