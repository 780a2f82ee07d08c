import BallotWallet.Document

/-!
# Fees

The fee of a fragment is linear in the number of its inputs and outputs, with a surcharge for
what it certifies.
-/

namespace BallotWallet

/-- The fee rules of a chain. -/
structure LinearFee where
  constant : Int := 0
  coefficient : Int := 0
  certificate : Int := 0
  /-- The surcharge for a vote plan. -/
  votePlan : Int := 0
  /-- The surcharge for a vote, zero if votes cost what other certificates do. -/
  voteCast : Int := 0
  deriving DecidableEq, Inhabited

namespace LinearFee

/-- The fee of a fragment without a certificate. -/
def transaction (fee : LinearFee) (inputs outputs : Int) : Int :=
  fee.constant + fee.coefficient * (inputs + outputs)

/-- The fee of a vote, which spends one input and produces no output. -/
def vote (fee : LinearFee) : Int :=
  fee.transaction 1 0 + (if fee.voteCast = 0 then fee.certificate else fee.voteCast)

/-- The whole number in a field, zero if the field is missing. -/
def number (d : Document) (name : Text) : Except Failure Int :=
  d.field name (.int 0) >>= Document.toInt

/-- The fee rules that a ledger node describes. -/
def ofDocument (d : Document) : Except Failure LinearFee := do
  let perVote := (← d.field "per_vote_certificate_fees").orElse (.object [])
  return {
    constant := ← number d "constant"
    coefficient := ← number d "coefficient"
    certificate := ← number d "certificate"
    votePlan := ← number perVote "certificate_vote_plan"
    voteCast := ← number perVote "certificate_vote_cast" }

end LinearFee

end BallotWallet
