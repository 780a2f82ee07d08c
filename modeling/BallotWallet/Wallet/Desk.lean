import BallotWallet.Chain.Validity
import BallotWallet.Key.Material
import BallotWallet.Ledger.Client
import BallotWallet.Wallet.Book

/-!
# The desk

Where the state of a wallet and the world meet. Bookkeeping works on the one, requests to the
ledger node on the other, and the operations of a wallet on both.
-/

namespace BallotWallet.Wallet

/-- The state of a wallet and the world. -/
structure Desk (ω : Type) where
  wallet : State
  world : ω

/-- What a wallet finds in the world besides the ledger node: a clock, and a way to sleep for a
number of seconds. -/
structure Surroundings (ω : Type) where
  now : ω → Binary64
  sleep : Document → ω → ω

/-- What the operations of a session have in common. -/
structure Office (ω : Type) where
  identity : Key.Identity
  /-- The chain settings at the start of the session. -/
  settings : ChainSettings
  client : Ledger.Client ω
  surroundings : Surroundings ω

namespace Desk

variable {ω α : Type}

def book (a : Action State α) : Action (Desk ω) α :=
  a.zoom Desk.wallet fun wallet desk => { desk with wallet := wallet }

/-- A request to the ledger node. -/
def request (a : Action ω α) : Action (Desk ω) α :=
  a.zoom Desk.world fun world desk => { desk with world := world }

def state : Action (Desk ω) State :=
  Desk.wallet <$> get

def report (logger : Text) (level : Log.Level) (message : Text)
    (context : Log.Context := {}) : Action (Desk ω) Unit :=
  Action.report { logger := logger, level := level, message := message, context := context }

end Desk

end BallotWallet.Wallet
