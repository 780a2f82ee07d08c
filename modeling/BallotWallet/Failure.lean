import BallotWallet.Text.Quoted

/-!
# Failures

Every way in which an operation can fail. The first group belongs to the wallet and carries what
a caller needs to react; the second group is what goes wrong below it, when a value is not of
the kind or in the range that an operation needs.
-/

namespace BallotWallet

/-- Why an operation failed. -/
inductive Failure where
  /-- The operation needs a wallet and there is none yet. -/
  | notInitialized (operation : Text)
  /-- What was supplied does not yield key material. -/
  | recoveryFailed (reason : Text)
  /-- A key text or an extended key is not well formed. -/
  | malformedKey (reason : Text)
  /-- A secret phrase has an unsupported number of words. -/
  | wordCount (count : Int) (supported : List Int)
  /-- No proposal has the identifier. -/
  | unknownProposal (id : Text)
  /-- The proposal does not offer the choice. -/
  | invalidChoice (choice : Text) (options : List Text)
  /-- The ledger node could not be reached or refused. -/
  | backend (summary : Text) (status : Option Int) (body : Text)
  /-- Fragments were still pending when the patience ran out. -/
  | pendingTooLong (ids : List Text)
  /-- The local bookkeeping was asked for something impossible. -/
  | invariant (reason : Text)
  /-- Any other failure of the wallet. -/
  | other (reason : Text)
  /-- A value was refused, for a reason that is part of the answer. -/
  | refused (reason : Text)
  /-- A value of the right kind could not be read or converted. -/
  | badValue
  /-- A value was of a kind that the operation cannot use. -/
  | wrongKind
  /-- A required field was missing. -/
  | missingKey
  /-- A field or an ability was asked of a value that has none of the sort. -/
  | noMember
  /-- A number was too large for its representation. -/
  | overflow
  /-- A moment was beyond the years that a clock counts. -/
  | beyondClock
  /-- A place beyond the end of a list was asked for. -/
  | outOfRange
  /-- A path that should lead to a file leads to a folder. -/
  | isFolder
  /-- A path goes on behind a file. -/
  | notFolder
  /-- A file is where a folder should be made. -/
  | alreadyThere
  /-- A path or a component of it has too many bytes. -/
  | pathTooLong
  /-- A division by zero. -/
  | divisionByZero
  /-- Bytes were not text in their encoding. -/
  | undecodable
  /-- A text was not of characters alone and could not be encoded. -/
  | unencodable
  /-- A text was not a JSON document. -/
  | badJson
  /-- A text was not a TOML document. -/
  | badToml
  /-- Lists and objects stood inside one another too many times. -/
  | tooDeep
  /-- The index of a child key does not fit into 32 bits. -/
  | childIndex
  /-- A signing key was of the wrong size or outside the order of the curve. -/
  | badPoint
  deriving DecidableEq, Inhabited

namespace Failure

/-- Whether the failure is that of an unsuitable value, in any of its forms. -/
def isBadValue : Failure → Bool
  | refused _ | badValue | undecodable | unencodable | badJson | badToml => true
  | _ => false

/-- Whether the failure came from the ledger node. -/
def isBackend : Failure → Bool
  | backend .. => true
  | _ => false

/-- Whether the failure is one of recovery, in any of its forms. -/
def isRecovery : Failure → Bool
  | recoveryFailed _ | malformedKey _ | wordCount .. => true
  | _ => false

/-- The text of a failure of the wallet; the failures below it have none. -/
def message : Failure → Text
  | notInitialized operation =>
    if operation.isEmpty then "wallet not recovered or generated"
    else "wallet not recovered or generated (required by '" ++ operation ++ "')"
  | recoveryFailed reason | malformedKey reason | invariant reason | other reason
  | refused reason => reason
  | wordCount count supported =>
    "unsupported mnemonic length " ++ toString count ++ ": expected one of " ++
      String.intercalate "/" (supported.map toString) ++ " words"
  | unknownProposal id => "cannot find proposal: " ++ id
  | invalidChoice choice options =>
    "wrong choice '" ++ choice ++ "': expected one of " ++ Text.quotedList options
  | backend summary status _ =>
    match status with
    | some code => summary ++ " (HTTP " ++ toString code ++ ")"
    | none => summary
  | pendingTooLong ids =>
    "transactions with ids " ++ Text.quotedList ids ++ " were pending for too long"
  | _ => ""

end Failure

end BallotWallet
