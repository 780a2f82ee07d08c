import BallotWallet.Chain.BlockDate
import BallotWallet.Json.Reader
import BallotWallet.Json.Writer
import BallotWallet.Key.Material

/-!
# Transactions and fragments

A transaction says what an account does: it moves value, or it votes. What is signed is its body
as compact JSON with sorted fields, so that equal transactions have equal bytes. A fragment is a
transaction with a signature, and is named by the hash of its bytes.
-/

namespace BallotWallet

/-- What a transaction is for. Bodies that come from elsewhere may name anything. -/
inductive Transaction.Kind where
  | transfer
  | voteCast
  | other (name : Document)
  deriving Inhabited

/-- A transaction. The texts of a body that comes from elsewhere are not checked. -/
structure Transaction where
  kind : Transaction.Kind
  account : Document
  /-- The spending counter that the transaction uses up. -/
  counter : Int
  validUntil : BlockDate
  fee : Int := 0
  value : Int := 0
  destination : Document := .text ""
  votePlan : Document := .text ""
  proposalIndex : Int := 0
  choice : Int := 0
  block0Hash : Document := .text ""
  deriving Inhabited

namespace Transaction

def Kind.name : Kind → Document
  | transfer => .text "transfer"
  | voteCast => .text "vote_cast"
  | other name => name

def Kind.ofName (name : Document) : Kind :=
  if name.isText "transfer" then transfer
  else if name.isText "vote_cast" then voteCast
  else other name

def newTransfer (account destination : Text) (value fee counter : Int)
    (validUntil : BlockDate) (block0Hash : Document := .text "") : Except Failure Transaction :=
  if value ≤ 0 then .error (.refused "transfer value must be positive")
  else .ok {
    kind := .transfer
    account := .text account
    counter := counter
    validUntil := validUntil
    fee := fee
    value := value
    destination := .text destination
    block0Hash := block0Hash }

def newVote (account votePlan : Text) (proposalIndex choice fee counter : Int)
    (validUntil : BlockDate) (block0Hash : Document := .text "") : Transaction where
  kind := .voteCast
  account := .text account
  counter := counter
  validUntil := validUntil
  fee := fee
  votePlan := .text votePlan
  proposalIndex := proposalIndex
  choice := choice
  block0Hash := block0Hash

/-- All that a transaction takes from the account. -/
def cost (tx : Transaction) : Int :=
  tx.value + tx.fee

/-- The fields that only some kinds have. Everything but a transfer has those of a vote. -/
def ownFields (tx : Transaction) : List (String × Document) :=
  match tx.kind with
  | .transfer => [("destination", tx.destination), ("value", .int tx.value)]
  | _ =>
    [("vote_plan_id", tx.votePlan), ("proposal_index", .int tx.proposalIndex),
      ("choice", .int tx.choice)]

def bodyFields (tx : Transaction) : List (String × Document) :=
  [("type", tx.kind.name), ("account", tx.account), ("counter", .int tx.counter),
    ("fee", .int tx.fee), ("valid_until", .text tx.validUntil.text),
    ("block0", tx.block0Hash)] ++ tx.ownFields

def body (tx : Transaction) : Document :=
  .ofFields tx.bodyFields

/-- Whether the numbers of the body are short enough to be written. -/
def isWritable (tx : Transaction) : Bool :=
  [tx.counter, tx.fee].all Numeral.isWritable && tx.validUntil.isWritable &&
    match tx.kind with
    | .transfer => Numeral.isWritable tx.value
    | _ => [tx.proposalIndex, tx.choice].all Numeral.isWritable

def signingText (tx : Transaction) : String :=
  Json.text .compact tx.body

def signingBytes (tx : Transaction) : Bytes :=
  Bytes.ofString tx.signingText

/-- The whole number in a field of a body, zero if the field is missing. -/
def numberIn (body : Document) (name : Text) : Except Failure Int :=
  body.field name (.int 0) >>= Document.toInt

def ofBody (body : Document) : Except Failure Transaction := do
  return {
    kind := Kind.ofName (← body.required "type")
    account := ← body.required "account"
    counter := ← body.required "counter" >>= Document.toInt
    validUntil := ← body.required "valid_until" >>= BlockDate.ofDocument
    fee := ← numberIn body "fee"
    value := ← numberIn body "value"
    destination := ← body.field "destination" (.text "")
    votePlan := ← body.field "vote_plan_id" (.text "")
    proposalIndex := ← numberIn body "proposal_index"
    choice := ← numberIn body "choice"
    block0Hash := ← body.field "block0" (.text "") }

end Transaction

/-- A transaction with a signature, as it is submitted. -/
structure Fragment where
  transaction : Transaction
  publicKey : Bytes
  signature : Bytes
  signed : signature ≠ []

namespace Fragment

/-- The refusal to treat a transaction without a signature as a fragment. -/
def unsigned : Failure :=
  .refused "transaction is not signed"

/-- A transaction with a public key and a signature, which must not be empty. -/
def make (tx : Transaction) (publicKey signature : Bytes) : Except Failure Fragment :=
  if h : signature ≠ [] then .ok ⟨tx, publicKey, signature, h⟩ else .error unsigned

def document (fragment : Fragment) : Document :=
  .ofFields [("body", fragment.transaction.body),
    ("public_key", .text (Hex.encode fragment.publicKey)),
    ("signature", .text (Hex.encode fragment.signature))]

def text (fragment : Fragment) : String :=
  Json.text .compact fragment.document

def bytes (fragment : Fragment) : Bytes :=
  Bytes.ofString fragment.text

/-- The identifier of the bytes of a fragment. -/
def idOf (bytes : Bytes) : String :=
  Hex.encode (Blake2b.hash bytes)

def id (fragment : Fragment) : String :=
  idOf fragment.bytes

/-- The bytes in a field that holds hexadecimal text. -/
def hexIn (d : Document) (name : Text) : Except Failure Bytes := do
  match ← d.required name with
  | .text t =>
    match t.chars?.bind Hex.bytes? with
    | some bs => .ok bs
    | none => .error .badValue
  | _ => .error .wrongKind

def ofDocument (d : Document) : Except Failure Fragment := do
  let tx ← d.required "body" >>= Transaction.ofBody
  let publicKey ← hexIn d "public_key"
  let signature ← hexIn d "signature"
  make tx publicKey signature

def parse (bytes : Bytes) : Except Failure Fragment :=
  Json.parseBytes bytes >>= ofDocument

/-- The signature of an identity is never empty. -/
theorem signature_ne_nil (identity : Key.Identity) (message : Bytes) :
    identity.sign message ≠ [] := by
  intro h
  have := congrArg List.length h
  rw [Key.Identity.sign, Ecdsa.length_signWithScalar] at this
  exact absurd this (by decide)

end Fragment

def Transaction.signedBy (tx : Transaction) (identity : Key.Identity) : Fragment :=
  ⟨tx, identity.publicKey, identity.sign tx.signingBytes, Fragment.signature_ne_nil identity _⟩

/-- A transaction signed by an identity, if its body can be written. -/
def Fragment.sign (tx : Transaction) (identity : Key.Identity) : Except Failure Fragment :=
  if tx.isWritable then .ok (tx.signedBy identity) else .error .badValue

end BallotWallet
