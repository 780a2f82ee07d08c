import BallotWallet.Transaction
import BallotWallet.Wallet.Desk

/-!
# Submitting

Transactions are built, signed with a freshly reserved counter, and handed to the ledger node.
What was reserved for a fragment that the node refuses is given back.
-/

namespace BallotWallet.Wallet.Submission

variable {ω : Type}

/-- The part of the wallet that these reports come from. -/
def logger : String := "voteflow.submission"

/-- A refusal by the node, found by the wallet itself. -/
def refusal (summary : Text) : Failure :=
  .backend summary none ""

def allDifferent : List Text → Bool
  | [] => true
  | id :: ids => !ids.contains id && allDifferent ids

/-- The identifiers that the node gave must be new, or none of them is tracked. -/
def checkNewIds (ids : List Text) (s : State) : Except Failure Unit :=
  if !allDifferent ids then
    .error (refusal ("node returned duplicate fragment ids: " ++ Text.quotedList ids))
  else
    let already := ids.filter s.isPending
    if already.isEmpty then .ok ()
    else .error (refusal ("fragments already pending: " ++ Text.quotedList already))

/-- The node must have given an identifier for every fragment. -/
def checkCount (ids : List Text) (fragments : List Bytes) : Except Failure Unit :=
  if ids.length = fragments.length then .ok ()
  else .error (refusal
    ("node accepted " ++ toString ids.length ++ " of " ++ toString fragments.length ++
      " fragments"))

/-- Gives back reservations, one after another. -/
def releaseEach : List (Option Reservation) → Action State Unit
  | [] => pure ()
  | r :: rs => do
    Book.giveBack r
    releaseEach rs

/-- An action after whose failure by the node the reservations are given back, the last one
first. -/
def releasingOnRefusal {α : Type} (reservations : List (Option Reservation))
    (a : Action (Desk ω) α) : Action (Desk ω) α :=
  a.orOnFailure fun e => do
    if e.isBackend then Desk.book (releaseEach reservations.reverse)
    throw e

/-- Submits one fragment and tracks it as pending. -/
def send (client : Ledger.Client ω) (fragment : Bytes) (reservation : Option Reservation) :
    Action (Desk ω) Text := do
  let id ← releasingOnRefusal (reservation.toList.map some) do
    let id ← Desk.request (client.submit fragment)
    checkNewIds [id] (← Desk.state)
    return id
  Desk.book (Book.track id reservation)
  Desk.report logger Log.info ("Submitted fragment " ++ id)
    { fragmentId := .text id
      counter := match reservation.bind (·.counter) with
        | some c => .int c
        | none => .null }
  return id

/-- Tracks fragments as pending, each with its reservation as long as there are any. -/
def trackEach : List Text → List (Option Reservation) → Action State Unit
  | [], _ => pure ()
  | id :: ids, rs => do
    Book.track id rs.head?.join
    trackEach ids rs.tail

/-- Submits fragments in one request; either all of them are tracked or none is. There may be
no reservations at all, or one for each fragment, which may be missing. -/
def sendMany (client : Ledger.Client ω) (fragments : List Bytes)
    (reservations : List (Option Reservation)) : Action (Desk ω) (List Text) := do
  if !reservations.isEmpty && reservations.length != fragments.length then
    throw (.refused "one reservation per fragment is required")
  let ids ← releasingOnRefusal reservations do
    let ids ← Desk.request (client.submitAll fragments)
    checkCount ids fragments
    checkNewIds ids (← Desk.state)
    return ids
  Desk.book (trackEach ids reservations)
  Desk.report logger Log.info ("Submitted batch of " ++ toString ids.length ++ " fragments")
  return ids

/-! ## Building -/

/-- The date at which a validity window ends if it is resolved now. -/
def expiry (office : Office ω) (window : Option ValidUntil) : Action (Desk ω) BlockDate := do
  ValidUntil.resolve window office.settings (office.surroundings.now (← get).world)

def submit (office : Office ω) (fragment : Fragment) (reservation : Reservation) :
    Action (Desk ω) Text := do
  let tx := fragment.transaction
  Desk.report logger Log.debug
    ("Signed " ++ tx.kind.name.display ++ " with counter " ++ toString tx.counter)
  send office.client fragment.bytes (some reservation)

/-- Moves value to another account. Both are reserved before the transaction is built; an
unsuitable value or validity gives them back, but a transaction that cannot be signed does not. -/
def transfer (office : Office ω) (destination : Text) (value : Int)
    (window : Option ValidUntil) : Action (Desk ω) Text := do
  let fee := office.settings.fees.transaction 1 1
  let reservation ← Desk.book (Book.reserve (value + fee))
  let build : Action (Desk ω) Transaction := do
    let validUntil ← expiry office window
    Transaction.newTransfer office.identity.accountId destination value fee
      (reservation.counter.getD 0) validUntil office.settings.block0Hash
  let tx ← build.orOnFailure fun e => do
    if e.isBadValue then Desk.book (Book.release reservation)
    throw e
  let fragment ← Fragment.sign tx office.identity
  submit office fragment reservation

/-- The signed transaction of a ballot, with what it reserves. -/
def prepareVote (office : Office ω) (ballot : Ballot) (validUntil : BlockDate) :
    Action State (Fragment × Reservation) := do
  let fee := office.settings.fees.vote
  let reservation ← Book.reserve fee
  let tx := Transaction.newVote office.identity.accountId ballot.proposal.votePlan
    ballot.proposal.index ballot.choice fee (reservation.counter.getD 0) validUntil
    office.settings.block0Hash
  return (← Fragment.sign tx office.identity, reservation)

def vote (office : Office ω) (proposal : Proposal) (choice : Choice)
    (window : Option ValidUntil) : Action (Desk ω) Text := do
  let ballot ← Ballot.cast proposal choice
  let validUntil ← expiry office window
  let (fragment, reservation) ← Desk.book (prepareVote office ballot validUntil)
  submit office fragment reservation

/-- The ballots that a voter asks for. -/
def ballots : List (Proposal × Choice) → Except Failure (List Ballot)
  | [] => .ok []
  | (proposal, choice) :: items => do
    let ballot ← Ballot.cast proposal choice
    return ballot :: (← ballots items)

/-- The signed transactions of ballots, with what they reserve. -/
def prepareVotes (office : Office ω) (validUntil : BlockDate) :
    List Ballot → Action State (List (Fragment × Reservation))
  | [] => pure []
  | ballot :: rest => do
    let first ← prepareVote office ballot validUntil
    return first :: (← prepareVotes office validUntil rest)

/-- Casts several votes with one expiry in one request. -/
def voteBatch (office : Office ω) (items : List (Proposal × Choice))
    (window : Option ValidUntil) : Action (Desk ω) (List Text) := do
  let cast ← ballots items
  if cast.isEmpty then return []
  let validUntil ← expiry office window
  let prepared ← Desk.book (prepareVotes office validUntil cast)
  Desk.report logger Log.info
    ("Casting " ++ toString prepared.length ++ " votes valid until " ++ validUntil.text)
  sendMany office.client (prepared.map fun p => p.1.bytes) (prepared.map fun p => some p.2)

end BallotWallet.Wallet.Submission
