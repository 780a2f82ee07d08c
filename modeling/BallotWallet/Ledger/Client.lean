import BallotWallet.Action
import BallotWallet.Chain.Settings
import BallotWallet.Ledger.Account
import BallotWallet.Ledger.Fragment
import BallotWallet.Vote.Proposal

/-!
# Ledger clients

The only window of a wallet onto a ledger node. A client is a record of the requests that can be
made; making one may change the world `ω` that the node is part of, and may fail.
-/

namespace BallotWallet.Ledger

/-- What a ledger node can be asked for. -/
structure Client (ω : Type) where
  /-- The client in one line. -/
  text : Text
  settings : Action ω ChainSettings
  /-- The state of the account with an identifier. -/
  accountState : Text → Action ω AccountSnapshot
  /-- Submits the bytes of a fragment and yields its identifier. -/
  submit : Bytes → Action ω Text
  /-- Submits the bytes of several fragments at once and yields their identifiers. -/
  submitAll : List Bytes → Action ω (List Text)
  fragmentLogs : Action ω FragmentLogs
  proposals : Action ω (List Proposal)
  /-- The votes of the account with an identifier. -/
  voteStatuses : Text → Action ω (List VoteStatus)

end BallotWallet.Ledger
