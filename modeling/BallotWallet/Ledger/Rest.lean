import BallotWallet.Bytes.Hex
import BallotWallet.Ledger.Client
import BallotWallet.Ledger.Transport
import BallotWallet.Text.Case

/-!
# Ledger nodes over HTTP

The client of a node that offers its services at addresses of the web. Whatever goes wrong on the
way, and whatever a node answers that is not what it should be, is a failure of the node, apart
from a few answers that are wrong in a way the client is not prepared for.
-/

namespace BallotWallet.Ledger

/-! ## Addresses -/

def occurs (part : List Text.CodePoint) : List Text.CodePoint → Bool
  | [] => part.isEmpty
  | p :: ps => part.isPrefixOf (p :: ps) || occurs part ps

/-- What occurs in an address that has a scheme. -/
def schemeMark : Text := "://"

/-- The address without slashes at its end. -/
def trimAddress (address : Text) : Text :=
  ⟨Text.dropEndWhile (· == .char '/') address.points⟩

/-- The address with a scheme, if it had none, and without slashes at its end. -/
def normalAddress (address : Text) : Text :=
  trimAddress (if occurs schemeMark.points address.points then address else "http://" ++ address)

/-- The address with the secure scheme in the place of the plain one. The scheme is looked for in
lower case only. -/
def secured (url : Text) : Text :=
  let plain : Text := "http://"
  if plain.points.isPrefixOf url.points then "https://" ++ ⟨url.points.drop plain.points.length⟩
  else url

/-! ## Clients -/

/-- How long to wait for a reply if nothing else is said, in seconds. -/
def usualTimeout : Document := .float (Binary64.ofInt 30)

/-- A node over HTTP. -/
structure Rest where
  /-- The address that the paths of requests follow. -/
  address : Text
  /-- Whether fragments are sent over the secure scheme even if the address has the plain one. -/
  httpsForPost : Bool := false
  /-- Whether requests and replies are reported. -/
  debug : Bool := false
  timeout : Document := usualTimeout
  /-- What every request is to say about itself, besides what it says anyway. -/
  headers : List (Text × Document) := []
  deriving Inhabited

namespace Rest

variable {ω α : Type}

/-- The part of the wallet that these reports come from. -/
def logger : String := "voteflow.backend"

/-- The headers with more headers put in, whose names may be in any case. -/
def addHeaders (headers more : List (Text × Document)) : List (Text × Document) :=
  more.foldl (fun headers h => Document.setField (Text.lower h.1) h.2 headers) headers

/-- The headers of all requests: what is accepted, unless the given headers say otherwise. -/
def allHeaders (rest : Rest) : List (Text × Document) :=
  addHeaders [("accept", .text "application/json")] rest.headers

def text (rest : Rest) : Text :=
  "RestLedgerClient(" ++ rest.address ++ ")"

def url (rest : Rest) (method : Method) (path : Text) : Text :=
  let plain := rest.address ++ path
  if method = .post && rest.httpsForPost then secured plain else plain

/-- A report that only developers want. -/
def report (rest : Rest) (message : Text) : Action ω Unit :=
  if rest.debug then
    Action.report { logger := logger, level := Log.debug, message := message }
  else pure ()

/-- A payload as it is reported. -/
def payloadText : Payload → Text
  | .json d => d.display
  | _ => ""

/-- Sends a request and yields the reply, unless there is none or the node refuses. -/
def ask (rest : Rest) (transport : Transport ω) (method : Method) (path : Text)
    (payload : Payload := .none) : Action ω Reply := do
  let url := rest.url method path
  let what := method.text ++ " " ++ url
  rest.report (what ++ " " ++ payloadText payload)
  match ← transport.send ⟨method, url, rest.timeout, payload⟩ with
  | .error reason => throw (.backend (what ++ " failed: " ++ reason) none "")
  | .ok reply =>
    rest.report (what ++ " -> " ++ toString reply.status ++ " " ++ reply.text)
    if reply.isRefusal then
      throw (.backend (what ++ " refused") (some reply.status) reply.text)
    return reply

def askDocument (rest : Rest) (transport : Transport ω) (path : Text) :
    Action ω Document := do
  let reply ← rest.ask transport .get path
  reply.document ("GET " ++ path ++ " returned invalid JSON")

/-! ## Understanding answers -/

/-- Whether a failure tells that an answer was not what it should be. -/
def isMisfit (e : Failure) : Bool :=
  e.isBadValue || e == .wrongKind || e == .noMember

/-- Whether a failure tells that an entry of a fragment log was not what it should be. -/
def isLogMisfit (e : Failure) : Bool :=
  e.isBadValue || e == .wrongKind || e == .missingKey

/-- What was understood of an answer. The failures that are expected tell that the answer was
malformed; others remain what they are. -/
def understood (what : String) (expected : Failure → Bool) (r : Except Failure α) :
    Except Failure α :=
  match r with
  | .error e => .error (if expected e then .backend ("malformed " ++ what) none "" else e)
  | .ok x => .ok x

/-- What the elements of a document describe. -/
def readAll (read : Document → Except Failure α) (d : Document) : Except Failure (List α) := do
  (← d.elements).mapM read

/-- The fragment log that a document describes; of entries with one identifier, the last one
counts. -/
def readLogs (d : Document) : Except Failure FragmentLogs := do
  let entries ← readAll FragmentLog.ofDocument d
  return entries.foldl (fun logs entry => logs.insert entry) []

/-- The identifier in the answer to a fragment, which may be in quotes. -/
def readId (answer : Text) : Text :=
  ⟨Text.trimWhile (· == .char '"') (Text.strip answer).points⟩

/-- The identifiers in the answer to a number of fragments, unless some were rejected. -/
def readAccepted (count : Nat) (reply : Reply) (d : Document) : Except Failure (List Text) := do
  let rejected := (← d.field "rejected").orElse (.list [])
  if rejected.truthy then
    throw (.backend
      (toString (← rejected.size) ++ " of " ++ toString count ++
        " fragments rejected at submission")
      (some reply.status) reply.text)
  return (← (← d.field "accepted" (.list [])).elements).map Document.display

/-! ## Services -/

def settings (rest : Rest) (transport : Transport ω) : Action ω ChainSettings := do
  let d ← rest.askDocument transport "/api/v0/settings"
  understood "settings document" isMisfit (ChainSettings.ofDocument d)

def accountState (rest : Rest) (transport : Transport ω) (account : Text) :
    Action ω AccountSnapshot := do
  let d ← rest.askDocument transport ("/api/v0/account/" ++ account)
  understood "account state" isMisfit (AccountSnapshot.ofDocument d)

def submit (rest : Rest) (transport : Transport ω) (fragment : Bytes) : Action ω Text := do
  let reply ← rest.ask transport .post "/api/v0/message"
    (.bytes "application/octet-stream" fragment)
  return readId reply.text

/-- The document that submits fragments, the first failure of which ends it. -/
def batch (fragments : List Bytes) : Document :=
  .object [("fail_fast", .bool true),
    ("fragments", .list (fragments.map fun f => .text (Hex.encode f)))]

/-- Submits several fragments in one request, if there are any. -/
def submitAll (rest : Rest) (transport : Transport ω) (fragments : List Bytes) :
    Action ω (List Text) := do
  if fragments.isEmpty then return []
  let reply ← rest.ask transport .post "/api/v1/fragments" (.json (batch fragments))
  let d ← reply.document "fragment batch returned invalid JSON"
  readAccepted fragments.length reply d

def fragmentLogs (rest : Rest) (transport : Transport ω) : Action ω FragmentLogs := do
  let d ← rest.askDocument transport "/api/v0/fragment/logs"
  understood "fragment log" isLogMisfit (readLogs d)

def proposals (rest : Rest) (transport : Transport ω) : Action ω (List Proposal) := do
  let d ← rest.askDocument transport "/api/v0/proposals"
  understood "proposal list" isMisfit (readAll Proposal.ofDocument d)

def voteStatuses (rest : Rest) (transport : Transport ω) (account : Text) :
    Action ω (List VoteStatus) := do
  let d ← rest.askDocument transport ("/api/v1/votes/plan/account-votes/" ++ account)
  understood "vote status list" isMisfit (readAll VoteStatus.ofDocument d)

def client (rest : Rest) (transport : Transport ω) : Client ω where
  text := rest.text
  settings := rest.settings transport
  accountState := rest.accountState transport
  submit := rest.submit transport
  submitAll := rest.submitAll transport
  fragmentLogs := rest.fragmentLogs transport
  proposals := rest.proposals transport
  voteStatuses := rest.voteStatuses transport

end Rest

end BallotWallet.Ledger
