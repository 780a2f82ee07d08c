import BallotWallet.Document

/-!
# Proposals and votes

A proposal is an item of a vote plan with labelled choices. A ballot binds a proposal to one of
the choices it offers, so a ballot for anything else cannot be made.
-/

namespace BallotWallet

/-- An item to vote on, as a ledger node publishes it. -/
structure Proposal where
  id : Text
  votePlan : Text
  index : Int
  /-- The choices by label, in the order of the node; the labels are different. -/
  options : List (Text × Int) := []
  title : Document := .text ""
  summary : Document := .text ""
  deriving Inhabited

namespace Proposal

/-- The choices that an object describes. -/
def readOptions : List (Text × Document) → Except Failure (List (Text × Int))
  | [] => .ok []
  | (label, d) :: fields => do
    let choice ← d.toInt
    let options ← readOptions fields
    return (label, choice) :: options

/-- The proposal that a ledger node describes. -/
def ofDocument (d : Document) : Except Failure Proposal := do
  let options := (← d.field "chain_vote_options").orElse (.object [])
  return {
    id := (← d.field "chain_proposal_id" (← d.field "proposal_id" (.text ""))).display
    votePlan := (← d.field "chain_voteplan_id" (.text "")).display
    index := ← d.field "chain_proposal_index" (.int 0) >>= Document.toInt
    options := ← options.entries >>= readOptions
    title := ← d.field "proposal_title" (.text "")
    summary := ← d.field "proposal_summary" (.text "") }

def labels (p : Proposal) : List Text :=
  p.options.map (·.1)

def choiceFor (p : Proposal) (label : Text) : Except Failure Int :=
  match p.options.lookup label with
  | some choice => .ok choice
  | none => .error (.invalidChoice label p.labels)

def offers (p : Proposal) (choice : Int) : Bool :=
  p.options.any (·.2 == choice)

def text (p : Proposal) : Text :=
  Text.stripEnd ("#" ++ p.id ++ " [" ++ p.title.display ++ "] " ++ p.summary.display)

end Proposal

/-- What a voter asks for: a label, or a choice by its number. -/
inductive Choice where
  | label (t : Text)
  | number (n : Int)
  deriving DecidableEq, Inhabited

/-- A vote: a proposal and one of its choices. -/
structure Ballot where
  proposal : Proposal
  choice : Int
  deriving Inhabited

namespace Ballot

/-- The vote for a choice, if the proposal offers it. The text of the refusal writes the choice out
even if it has too many digits for `Numeral.isWritable`; the limit is left out here. -/
def ofChoice (p : Proposal) (choice : Int) : Except Failure Ballot :=
  if p.offers choice then .ok ⟨p, choice⟩
  else .error (.invalidChoice (toString choice) p.labels)

def ofLabel (p : Proposal) (label : Text) : Except Failure Ballot := do
  let choice ← p.choiceFor label
  ofChoice p choice

def cast (p : Proposal) : Choice → Except Failure Ballot
  | .label t => ofLabel p t
  | .number n => ofChoice p n

end Ballot

/-- The proposals of a vote plan on which an account has voted. -/
structure VoteStatus where
  votePlan : Text
  votes : List Int
  deriving DecidableEq, Inhabited

namespace VoteStatus

/-- The status that a ledger node describes. -/
def ofDocument (d : Document) : Except Failure VoteStatus := do
  return {
    votePlan := (← d.field "vote_plan_id" (.text "")).display
    votes := ← (← (← d.field "votes" (.list [])).elements).mapM Document.toInt }

def text (status : VoteStatus) : Text :=
  status.votePlan ++ ": " ++ (Document.list (status.votes.map Document.int)).shown

end VoteStatus

end BallotWallet
