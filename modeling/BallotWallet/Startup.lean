import BallotWallet.Config
import BallotWallet.Ledger.Rest
import BallotWallet.Log.Line
import BallotWallet.Log.Setup
import BallotWallet.Wallet.Controller

/-!
# Starting up

A configuration is turned into what a wallet works with: where its reports go, the ledger node it
talks to, and how it addresses accounts. The configuration is loose about kinds of values, and what
cannot be used is found out here.
-/

namespace BallotWallet

/-- A wallet that is ready to be used. -/
structure Startup where
  reports : Log.Setup
  node : Ledger.Rest
  /-- The kind of addresses; without it the chain settings decide. -/
  discrimination : Option String
  /-- The validity window in slots of fragments for which none is asked. -/
  validSlots : Option Document
  /-- What was reported on the way. -/
  log : List Log.Record

namespace Startup

/-- The address of a ledger node that a configured value stands for. Values that contain others
are taken as text, unless the mark of a scheme is among what they contain. -/
def addressOf (d : Document) : Except Failure Text :=
  match d with
  | .text t => .ok (Ledger.normalAddress t)
  | .list _ | .object _ => do
    if (← d.elements).any (·.isText Ledger.schemeMark) then throw .noMember
    return Ledger.trimAddress ("http://" ++ d.display)
  | _ => .error .wrongKind

/-- The report of the ledger node that is going to be used. -/
def announcement (c : Config) : Log.Record where
  logger := Wallet.Controller.logger
  level := Log.info
  message := "Using ledger node " ++ (c.value .address).display

def nodeOf (c : Config) : Except Failure Ledger.Rest := do
  return {
    address := ← addressOf (c.value .address)
    httpsForPost := (c.value .httpsForPost).truthy
    debug := (c.value .debug).truthy
    timeout := c.value .timeout }

/-- The wallet of a configuration in a working folder. Reports are set up first. -/
def ofConfig (folder : Folder) (c : Config) : Except Failure Startup := do
  let reports ← Log.Setup.ofDocuments folder (c.value .level) (c.value .format) (c.value .file)
    (c.value .debug)
  let node ← nodeOf c
  let discrimination ← Wallet.Controller.checkDiscrimination (c.value .discrimination)
  let slots := c.value .validSlots
  return {
    reports := reports
    node := node
    discrimination := discrimination
    validSlots := if slots.truthy then some slots else none
    log := [announcement c] }

/-- The reports on the way that are written. -/
def shown (s : Startup) : List Log.Record :=
  s.log.filter s.reports.shows

/-- The working folder after the reports were added to their file, each in a line. -/
def folderAfter (s : Startup) (made : Log.Instant) (folder : Folder) : Folder :=
  match s.reports.file with
  | some path => folder.append path
      (s.shown.flatMap fun r => Bytes.ofString (Log.jsonLine made r ++ "\n"))
  | none => folder

/-- The controller of the wallet in one line. -/
def text (s : Startup) : Text :=
  Wallet.Controller.textWith none s.node.text

end Startup

end BallotWallet
