import BallotWallet.Chain.BlockDate

/-!
# Fragment logs

What a ledger node has to say about the fragments that were submitted to it.
-/

namespace BallotWallet

/-- What became of a fragment. -/
inductive FragmentStatus where
  | pending
  | inABlock (date : Option BlockDate) (block : Text)
  | rejected (reason : Text)
  deriving DecidableEq, Inhabited

namespace FragmentStatus

/-- The status with a name and without details. -/
def named (name : Text) : Except Failure FragmentStatus :=
  if name = "Pending" then .ok .pending
  else if name = "InABlock" then .ok (.inABlock none "")
  else if name = "Rejected" then .ok (.rejected "")
  else .error .badValue

/-- The status with its details, which are looked at only if there are any to expect. -/
def detailed (status : FragmentStatus) (detail : Document) : Except Failure FragmentStatus :=
  match status with
  | .pending => .ok .pending
  | .rejected _ => do return .rejected (← detail.field "reason" (.text "")).display
  | .inABlock _ _ => do
    let date ← detail.field "date"
    let date ← if date.truthy then some <$> BlockDate.ofDocument date else .ok none
    return .inABlock date (← detail.field "block" (.text "")).display

/-- The status that a ledger node describes: a name, or an object with the name as its only
field and the details in it. -/
def ofDocument : Document → Except Failure FragmentStatus
  | .text name => named name
  | .object [(name, detail)] => do
    let status ← named name
    status.detailed (detail.orElse (.object []))
  | d => .error (.refused ("unrecognised fragment status: " ++ d.shown))

def isTerminal : FragmentStatus → Bool
  | .pending => false
  | _ => true

def text : FragmentStatus → Text
  | .pending => "Pending"
  | .rejected reason => "Rejected(" ++ reason ++ ")"
  | .inABlock date block =>
    "InABlock(" ++ (date.map BlockDate.text).getD "None" ++ ", " ++ block ++ ")"

end FragmentStatus

/-- An entry of the fragment log of a node. -/
structure FragmentLog where
  id : Text
  status : FragmentStatus
  receivedFrom : Text := ""
  receivedAt : Text := ""
  lastUpdatedAt : Text := ""
  deriving DecidableEq, Inhabited

namespace FragmentLog

/-- The entry that a ledger node describes. -/
def ofDocument (d : Document) : Except Failure FragmentLog := do
  return {
    id := (← d.required "fragment_id").display
    status := ← d.field "status" (.text "Pending") >>= FragmentStatus.ofDocument
    receivedFrom := (← d.field "received_from" (.text "")).display
    receivedAt := (← d.field "received_at" (.text "")).display
    lastUpdatedAt := (← d.field "last_updated_at" (.text "")).display }

end FragmentLog

/-- A fragment log: entries with different identifiers, in the order of their first mention. -/
abbrev FragmentLogs := List FragmentLog

namespace FragmentLogs

/-- The log with an entry put in: in the place of the entry with its identifier, or at the end. -/
def insert (entry : FragmentLog) : FragmentLogs → FragmentLogs
  | [] => [entry]
  | e :: logs => if e.id = entry.id then entry :: logs else e :: insert entry logs

/-- The status of the fragment with an identifier, if it is in the log. -/
def status? (logs : FragmentLogs) (id : Text) : Option FragmentStatus :=
  (logs.find? fun entry => entry.id = id).map (·.status)

end FragmentLogs

end BallotWallet
