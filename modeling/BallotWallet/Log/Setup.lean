import BallotWallet.Folder
import BallotWallet.Log.Record
import BallotWallet.Text.Case

/-!
# Where reports go

Reports are written to the console, for a reader or as JSON, and as JSON to a file if one is
named. The least severity that is written is set for all reports; reports about the connection to
the ledger node have one of their own.
-/

namespace BallotWallet.Log

/-- The severities that have names, in any case of letters. -/
def levelNames : List (String × Level) :=
  [("DEBUG", 10), ("INFO", 20), ("WARNING", 30), ("WARN", 30), ("ERROR", 40), ("CRITICAL", 50),
    ("FATAL", 50), ("NOTSET", 0)]

/-- The severity that a configured value names. Two names mean something that is no severity;
other names that are not known mean the ordinary course of things. -/
def levelNamed : Document → Except Failure Level
  | .text t =>
    let name := Text.upper t
    if name = "BASIC_FORMAT" then .error .badValue
    else if name = "_STYLES" then .error .wrongKind
    else .ok (((levelNames.find? fun l => name == l.1).map (·.2)).getD info)
  | _ => .error .noMember

/-- The file that a configured value names, if it names any; the folders on the way are made. -/
def fileNamed (folder : Folder) (d : Document) : Except Failure (Option Text) :=
  if !d.truthy then .ok none
  else
    match d with
    | .text t => some <$> folder.writable t
    | _ => .error .wrongKind

/-- Where reports go. -/
structure Setup where
  /-- The least severity of the reports that are written. -/
  level : Level
  /-- Whether the console shows JSON. -/
  jsonConsole : Bool
  /-- The file that JSON is added to. -/
  file : Option Text
  /-- Whether the connection to the ledger node is reported in full. -/
  debug : Bool
  deriving DecidableEq, Inhabited

namespace Setup

/-- The setup that configured values describe, in a working folder. -/
def ofDocuments (folder : Folder) (level format file debug : Document) :
    Except Failure Setup := do
  return {
    level := ← levelNamed level
    jsonConsole := format.isText "json"
    file := ← fileNamed folder file
    debug := debug.truthy }

/-- The least severity that is set for the connections below the client. -/
def wireLevel (setup : Setup) : Level :=
  if setup.debug then Log.debug else warning

/-- The least severity that is set for the client of the ledger node; zero if none is set. -/
def clientLevel (setup : Setup) : Level :=
  if setup.debug then Log.debug else 0

/-- The least severity of the reports of a part of the wallet that are written. -/
def levelOf (setup : Setup) (logger : Text) : Level :=
  if logger = "voteflow.backend" && setup.clientLevel != 0 then setup.clientLevel
  else setup.level

def shows (setup : Setup) (r : Record) : Bool :=
  setup.levelOf r.logger ≤ r.level

end Setup

end BallotWallet.Log
