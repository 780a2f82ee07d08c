import BallotWallet.Key.Source
import BallotWallet.Wallet.Settlement
import BallotWallet.Wallet.Submission

/-!
# The controller

What a user of the wallet drives: recovery of an identity, the state of the wallet, submission and
settlement around one ledger client that can be exchanged. Before a wallet is recovered or
generated, the operations that need one fail and name themselves.
-/

namespace BallotWallet.Wallet

/-- How a controller is set up. -/
structure Options where
  /-- The seconds between two polls of the fragment log. -/
  pollInterval : Document := .float (Binary64.ofInt 1)
  /-- How many times to sleep at most between polls. -/
  retryBudget : Int := 60
  /-- The validity window of fragments for which none is asked. -/
  validUntil : Option ValidUntil := none
  /-- The account and the index of the path that secret phrases are recovered with. -/
  account : Int := 0
  index : Int := 0
  /-- The kind of addresses, `test` or `production`; without it the chain settings decide. -/
  discrimination : Option String := none

/-- An identity and the chain settings at the time it was recovered. -/
structure Session where
  identity : Key.Identity
  settings : ChainSettings

/-- A controller and the world. -/
structure Controller (ω : Type) where
  options : Options
  client : Ledger.Client ω
  surroundings : Surroundings ω
  session : Option Session := none
  wallet : State := {}
  /-- The phrase of a generated wallet. -/
  mnemonic : Option String := none
  world : ω

namespace Controller

variable {ω α : Type}

/-- The part of the wallet that these reports come from. -/
def logger : String := "voteflow.controller"

/-- A kind of addresses, if it is one. -/
def checkDiscrimination (kind : Document) : Except Failure (Option String) :=
  match kind with
  | .null => .ok none
  | kind =>
    if kind.isText "test" then .ok (some "test")
    else if kind.isText "production" then .ok (some "production")
    else .error (.refused ("unknown address discrimination: " ++ kind.shown))

def new (options : Options) (client : Ledger.Client ω) (surroundings : Surroundings ω)
    (world : ω) : Except Failure (Controller ω) := do
  let kind := match options.discrimination with
    | some kind => Document.text kind
    | none => .null
  let _ ← checkDiscrimination kind
  return { options := options, client := client, surroundings := surroundings, world := world }

def report (level : Log.Level) (message : Text) (context : Log.Context := {}) :
    Action (Controller ω) Unit :=
  Action.report { logger := logger, level := level, message := message, context := context }

def desk (c : Controller ω) : Desk ω :=
  ⟨c.wallet, c.world⟩

def atDesk (a : Action (Desk ω) α) : Action (Controller ω) α :=
  a.zoom desk fun d c => { c with wallet := d.wallet, world := d.world }

def ask (request : Ledger.Client ω → Action ω α) : Action (Controller ω) α := do
  atDesk (Desk.request (request (← get).client))

/-- The session; without one, the operation fails and names itself. -/
def requireSession (operation : String) : Action (Controller ω) Session := do
  match (← get).session with
  | some session => return session
  | none => throw (.notInitialized operation)

/-- What the operations of a session have in common. -/
def office (session : Session) : Action (Controller ω) (Office ω) := do
  let c ← get
  return ⟨session.identity, session.settings, c.client, c.surroundings⟩

/-! ## Identity -/

def derive (source : Key.Source) : Action (Controller ω) Key.Identity := do
  let identity ← source.identity
  Action.report {
    logger := "voteflow.recovery"
    level := Log.info
    message := "Recovered wallet " ++ identity.shortId ++ " via " ++ source.kind }
  return identity

/-- Starts a session. Nothing changes before the node has told the chain settings. -/
def startSession (identity : Key.Identity) : Action (Controller ω) Unit := do
  let settings ← ask (·.settings)
  modify fun c => { c with session := some ⟨identity, settings⟩, wallet := {}, mnemonic := none }
  report Log.info ("Wallet session started for " ++ identity.shortId)
    { account := .text identity.accountId }

/-- Recovers a wallet and starts a session with it. -/
def recover (source : Key.Source) : Action (Controller ω) Key.Identity := do
  let identity ← derive source
  startSession identity
  return identity

/-- Recovers a wallet from a secret phrase; account and index are those of the options unless
others are given. -/
def recoverFromPhrase (words : Text) (password : Text := "") (account : Option Int := none)
    (index : Option Int := none) : Action (Controller ω) Key.Identity := do
  let options := (← get).options
  recover (.phrase words password (account.getD options.account) (index.getD options.index))

/-- Generates a wallet, starts a session with it and yields its phrase. The phrase is tried out
with the first account. -/
def generate (count : Int) (entropy : Bytes) : Action (Controller ω) Text := do
  let phrase ← Key.Mnemonic.generate count entropy
  let identity ← derive (.phrase phrase "" 0 0)
  startSession identity
  modify fun c => { c with mnemonic := some phrase }
  return phrase

def isInitialized (c : Controller ω) : Bool :=
  c.session.isSome

def identity : Action (Controller ω) Key.Identity :=
  Session.identity <$> requireSession "identity"

def accountId : Action (Controller ω) Text := do
  return (← requireSession "account_id").identity.accountId

/-- Whether addresses are for tests: as asked, else as the options say, else as the chain
settings say. -/
def testing (asked : Option Bool) (options : Options) (settings : ChainSettings) : Bool :=
  match asked, options.discrimination with
  | some testing, _ => testing
  | none, some kind => kind == "test"
  | none, none => settings.testing

def accountAddress (asked : Option Bool) : Action (Controller ω) Text := do
  let session ← requireSession "account_address"
  return session.identity.address (testing asked (← get).options session.settings)

def settings : Action (Controller ω) ChainSettings :=
  Session.settings <$> requireSession "settings"

/-! ## Ledger client -/

/-- Exchanges the ledger client; the wallet and its pending fragments stay. -/
def switchClient (client : Ledger.Client ω) : Action (Controller ω) Unit := do
  let pending := (← get).wallet.pending.length
  if pending != 0 then
    report Log.warning
      ("Switching backend with " ++ toString pending ++
        " pending fragments; their ids may be unknown to " ++ client.text)
  modify fun c => { c with client := client }
  report Log.info ("Switched backend to " ++ client.text)

/-! ## Account -/

/-- The account state that the node reports. -/
def accountState : Action (Controller ω) AccountSnapshot := do
  let session ← requireSession "get_account_state"
  ask (·.accountState session.identity.accountId)

/-- Brings the wallet up to the account state that the node reports. -/
def refreshState : Action (Controller ω) AccountSnapshot := do
  let _ ← requireSession "refresh_state"
  let snapshot ← accountState
  atDesk (Desk.book (Book.refresh snapshot))
  return snapshot

def totalValue : Action (Controller ω) Int := do
  let _ ← requireSession "total_value"
  return (← get).wallet.balance

/-- The counter that the next transaction is signed with. -/
def spendingCounter : Action (Controller ω) Int := do
  let _ ← requireSession "spending_counter"
  return (← get).wallet.counter

/-! ## Votes -/

/-- The proposals that the node publishes. -/
def proposals : Action (Controller ω) (List Proposal) := do
  let _ ← requireSession "get_proposals"
  ask (·.proposals)

/-- The votes that the node has from the account. -/
def activeVotes : Action (Controller ω) (List VoteStatus) := do
  let session ← requireSession "active_votes"
  ask (·.voteStatuses session.identity.accountId)

/-- The first proposal with an identifier. -/
def findProposal (id : Text) : Action (Controller ω) Proposal := do
  let _ ← requireSession "find_proposal"
  match (← proposals).find? (·.id == id) with
  | some proposal => return proposal
  | none => throw (.unknownProposal id)

/-- A proposal as a user names it: by its identifier, or by itself. -/
inductive Named where
  | id (t : Text)
  | proposal (p : Proposal)
  deriving Inhabited

/-- The window that is asked for, or else the one of the options. -/
def windowOr (window : Option ValidUntil) : Action (Controller ω) (Option ValidUntil) := do
  return window.or (← get).options.validUntil

def cast (session : Session) (proposal : Proposal) (choice : Choice)
    (window : Option ValidUntil) : Action (Controller ω) Text := do
  let window ← windowOr window
  let office ← office session
  atDesk (Submission.vote office proposal choice window)

def vote (proposal : Named) (choice : Choice) (window : Option ValidUntil) :
    Action (Controller ω) Text := do
  let session ← requireSession "vote"
  let proposal ← match proposal with
    | .id t => findProposal t
    | .proposal p => pure p
  cast session proposal choice window

def voteFor (votePlan : Text) (index : Int) (choice : Choice) (window : Option ValidUntil) :
    Action (Controller ω) Text := do
  let session ← requireSession "vote_for"
  match (← proposals).find? fun p => p.votePlan == votePlan && p.index == index with
  | some proposal => cast session proposal choice window
  | none =>
    throw (.unknownProposal ("voteplan(" ++ votePlan ++ ") index(" ++ toString index ++ ")"))

def lastWithId? (id : Text) (ps : List Proposal) : Option Proposal :=
  ps.reverse.find? (·.id == id)

/-- The proposals that are meant. The node is asked for its proposals once, and only if one is
named by its identifier. -/
def resolveVotes (known : Option (List Proposal)) :
    List (Named × Choice) → Action (Controller ω) (List (Proposal × Choice))
  | [] => pure []
  | (.proposal p, choice) :: rest => do
    return (p, choice) :: (← resolveVotes known rest)
  | (.id id, choice) :: rest => do
    let ps ← match known with
      | some ps => pure ps
      | none => proposals
    match lastWithId? id ps with
    | none => throw (.unknownProposal id)
    | some p => return (p, choice) :: (← resolveVotes (some ps) rest)

/-- Casts several votes with one expiry in one request. -/
def votesBatch (votes : List (Named × Choice)) (window : Option ValidUntil) :
    Action (Controller ω) (List Text) := do
  let session ← requireSession "votes_batch"
  let items ← resolveVotes none votes
  let window ← windowOr window
  let office ← office session
  atDesk (Submission.voteBatch office items window)

/-! ## Transfers and fragments -/

def transfer (destination : Text) (value : Int) (window : Option ValidUntil) :
    Action (Controller ω) Text := do
  let session ← requireSession "transfer"
  let window ← windowOr window
  let office ← office session
  atDesk (Submission.transfer office destination value window)

def sendFragment (fragment : Bytes) : Action (Controller ω) Text := do
  let _ ← requireSession "send_fragment"
  atDesk (Submission.send (← get).client fragment none)

/-- Submits the bytes of several fragments in one request. -/
def sendFragments (fragments : List Bytes) : Action (Controller ω) (List Text) := do
  let _ ← requireSession "send_fragments"
  atDesk (Submission.sendMany (← get).client fragments [])

/-! ## Pending fragments -/

/-- The identifiers of the pending fragments. -/
def pendingTransactions : Action (Controller ω) (List Text) := do
  let _ ← requireSession "pending_transactions"
  return (← get).wallet.pendingIds

/-- The fragment log of the node. -/
def fragmentLogs : Action (Controller ω) FragmentLogs := do
  let _ ← requireSession "fragment_logs"
  ask (·.fragmentLogs)

/-- Settles a fragment as if it were in a block. -/
def confirmTransaction (id : Text) : Action (Controller ω) Unit := do
  let _ ← requireSession "confirm_transaction"
  atDesk (Desk.book (Book.confirm id))

/-- Settles a fragment as if it had been rejected. -/
def removePendingTransaction (id : Text) : Action (Controller ω) Unit := do
  let _ ← requireSession "remove_pending_transaction"
  let _ ← atDesk (Desk.book (Book.rollback id))

/-- Settles all fragments as if they were in blocks. -/
def confirmAllTransactions : Action (Controller ω) Unit := do
  let _ ← requireSession "confirm_all_transactions"
  atDesk (Desk.book Book.confirmAll)

/-- Waits until nothing is pending; interval and budget are those of the options unless others
are given. -/
def waitForPending (interval : Option Document) (budget : Option Int) (cancelled : ω → Bool) :
    Action (Controller ω) Unit := do
  let _ ← requireSession "wait_for_pending_transactions"
  let c ← get
  atDesk (Settlement.wait c.client c.surroundings {
    interval := interval.getD c.options.pollInterval
    budget := budget.getD c.options.retryBudget
    cancelled := cancelled })

/-- A controller in one line, given the first part of its account identifier. -/
def textWith (who : Option String) (clientText : Text) : Text :=
  "Controller(" ++ who.getD "uninitialised" ++ ", " ++ clientText ++ ")"

def text (c : Controller ω) : Text :=
  textWith (c.session.map (·.identity.shortId)) c.client.text

end Controller

end BallotWallet.Wallet
