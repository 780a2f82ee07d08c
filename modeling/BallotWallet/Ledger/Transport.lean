import BallotWallet.Action
import BallotWallet.Json.Reader
import BallotWallet.Text.Encoding

/-!
# Requests and replies

What is said between a client and a node over HTTP, as data, and the transport that carries it.
-/

namespace BallotWallet.Ledger

/-- What a request is made for: to read or to submit. -/
inductive Method where
  | get
  | post
  deriving DecidableEq, Inhabited

/-- The method as it is written. -/
def Method.text : Method → String
  | get => "GET"
  | post => "POST"

/-- What a request carries. -/
inductive Payload where
  | none
  /-- Bytes, and the type of content that they are. -/
  | bytes (contentType : String) (bs : Bytes)
  | json (d : Document)
  deriving Inhabited

/-- A request to a node. -/
structure Request where
  method : Method
  url : Text
  /-- How many seconds to wait for the reply. -/
  timeout : Document
  payload : Payload := .none
  deriving Inhabited

/-- The reply of a node. -/
structure Reply where
  status : Int
  body : Bytes
  deriving DecidableEq, Inhabited

namespace Reply

/-- Whether the node refused the request. -/
def isRefusal (reply : Reply) : Bool :=
  400 ≤ reply.status && reply.status < 600

def text (reply : Reply) : Text :=
  Text.utf8Repaired reply.body

/-- The document in the body. If it is none, the node has failed at what the summary says. -/
def document (reply : Reply) (summary : Text) : Except Failure Document :=
  match Json.parse reply.text with
  | .error e =>
    .error (if e.isBadValue then .backend summary (some reply.status) reply.text else e)
  | .ok d => .ok d

end Reply

/-- What carries requests. -/
structure Transport (ω : Type) where
  /-- Sends a request and yields the reply, or the reason why there is none. -/
  send : Request → Action ω (Except Text Reply)
  close : Action ω Unit

end BallotWallet.Ledger
