import BallotWallet.Document

/-!
# Account states

The state of an account as a ledger node sees it.
-/

namespace BallotWallet

/-- The state of an account. -/
structure AccountSnapshot where
  value : Int
  /-- The counter that the next fragment must be signed with. -/
  counter : Int
  delegation : Document := .null
  lastRewards : Document := .null
  deriving Inhabited

namespace AccountSnapshot

/-- The counter in the answer of a node. Nodes with several lanes report one counter for each of
them; the first lane is ours. -/
def readCounter (d : Document) : Except Failure Document := do
  match ← d.field "counter" with
  | .null => ((← d.field "counters").orElse (.list [.int 0])).first
  | counter => return counter

/-- The account state that a ledger node describes. -/
def ofDocument (d : Document) : Except Failure AccountSnapshot := do
  let counter ← readCounter d
  return {
    value := ← d.field "value" (.int 0) >>= Document.toInt
    counter := ← counter.toInt
    delegation := ← d.field "delegation"
    lastRewards := ← d.field "last_rewards" }

end AccountSnapshot

end BallotWallet
