import BallotWallet.Folder
import BallotWallet.Text.Case
import BallotWallet.Toml.Reader

/-!
# Configuration

The fields that a user may set, in a file or in the environment. The environment goes before the
file, and the file before the defaults. What a file says is taken as it is, whatever kind of value
it is; what the environment says is a text and is converted.
-/

namespace BallotWallet

namespace Config

/-- The parts of a configuration, each a table of the file. -/
inductive Section where
  /-- The connection to the ledger node. -/
  | node
  /-- The derivation of keys and the submission of fragments. -/
  | wallet
  /-- The settlement of fragments. -/
  | settlement
  /-- The reports. -/
  | reports
  deriving DecidableEq, Inhabited

/-- The name of the table of a part. -/
def Section.name : Section → String
  | node => "backend"
  | wallet => "wallet"
  | settlement => "reconcile"
  | reports => "logging"

/-- All parts, in the order in which their tables are read. -/
def Section.all : List Section :=
  [.node, .wallet, .settlement, .reports]

/-- What can be configured. -/
inductive Field where
  | address
  /-- Whether fragments are sent over the secure scheme. -/
  | httpsForPost
  /-- Whether requests and replies are reported. -/
  | debug
  | timeout
  /-- The account and the index of the path that secret phrases are recovered with. -/
  | account
  | index
  /-- The validity window in slots. -/
  | validSlots
  /-- The kind of addresses. -/
  | discrimination
  | pollInterval
  | retryBudget
  /-- The least severity that is reported. -/
  | level
  | format
  | file
  deriving DecidableEq, Inhabited

namespace Field

def all : List Field :=
  [address, httpsForPost, debug, timeout, account, index, validSlots, discrimination,
    pollInterval, retryBudget, level, format, file]

/-- The part that a field belongs to. -/
def home : Field → Section
  | address | httpsForPost | debug | timeout => .node
  | account | index | validSlots | discrimination => .wallet
  | pollInterval | retryBudget => .settlement
  | level | format | file => .reports

/-- The name of a field in the table of its part. -/
def name : Field → String
  | address => "address"
  | httpsForPost => "use_https_for_post"
  | debug => "enable_debug"
  | timeout => "timeout_seconds"
  | account => "account"
  | index => "index"
  | validSlots => "default_valid_until_slots"
  | discrimination => "discrimination"
  | pollInterval => "poll_interval_seconds"
  | retryBudget => "retry_budget"
  | level => "level"
  | format => "format"
  | file => "file"

/-- The value of a field that nothing is said about. -/
def default : Field → Document
  | address => .text "http://127.0.0.1:8080"
  | httpsForPost | debug => .bool false
  | timeout => .float (Binary64.ofInt 30)
  | account | index => .int 0
  | validSlots | discrimination | file => .null
  | pollInterval => .float (Binary64.ofInt 1)
  | retryBudget => .int 60
  | level => .text "INFO"
  | format => .text "human"

def named? (part : Section) (name : Text) : Option Field :=
  all.find? fun f => f.home == part && name == f.name

end Field

end Config

/-- A configuration: a value for every field. -/
structure Config where
  value : Config.Field → Document

namespace Config

/-- The configuration in which nothing is said. -/
def usual : Config := ⟨Field.default⟩

instance : Inhabited Config := ⟨usual⟩

/-- The configuration with another value for a field. -/
def set (f : Field) (d : Document) (c : Config) : Config :=
  ⟨fun g => if g = f then d else c.value g⟩

/-! ## The file -/

/-- The key under which a table gives all fields of its part at once. -/
def wholeKey : Text := "__dict__"

/-- A key under which nothing can be given, whatever its value is. -/
def kindKey : Text := "__class__"

/-- A key that cannot be given. -/
def fixedKey : Text := "__weakref__"

/-- The configuration with the fields of a part as a table says, and with the defaults of those
that it does not mention. -/
def replace (part : Section) (table : List (Text × Document)) (c : Config) : Config :=
  ⟨fun f => if f.home = part then (Document.getField? f.name table).getD f.default else c.value f⟩

/-- A key in the spelling of the fields, with low lines for hyphens. -/
def spelling (key : Text) : Text :=
  ⟨key.points.map fun p => if p == .char '-' then .char '_' else p⟩

/-- The configuration after one entry of the table of a part. Keys that name no field are ignored,
except three that mean the part itself. -/
def assign (part : Section) (key : Text) (d : Document) (c : Config) :
    Except Failure Config :=
  let name := spelling key
  match Field.named? part name with
  | some f => .ok (c.set f d)
  | none =>
    if name = wholeKey then
      match d with
      | .object table => .ok (c.replace part table)
      | _ => .error .wrongKind
    else if name = kindKey then .error .wrongKind
    else if name = fixedKey then .error .noMember
    else .ok c

/-- The configuration after the entries of the table of a part, one after another. -/
def merge (part : Section) : List (Text × Document) → Config → Except Failure Config
  | [], c => .ok c
  | (key, d) :: table, c => do
    let c ← c.assign part key d
    merge part table c

/-- The configuration after the tables of a file, part by part. -/
def mergeFile (file : Document) : List Section → Config → Except Failure Config
  | [], c => .ok c
  | part :: parts, c => do
    let c ← match ← file.field part.name with
      | .null => pure c
      | table => c.merge part (← table.entries)
    mergeFile file parts c

/-! ## The environment -/

/-- The variables of the environment with their values. -/
abbrev Environment := List (Text × Text)

def isYes (t : Text) : Bool :=
  let yes : List Text := ["1", "true", "yes", "on"]
  yes.contains (Text.lower (Text.strip t))

/-- A text as a floating point number. -/
def toFloat (t : Text) : Except Failure Document :=
  match Binary64.ofText? t with
  | some x => .ok (.float x)
  | none => .error .badValue

/-- A variable of the environment: its name, the field it sets and how its text is converted. -/
structure Variable where
  name : Text
  field : Field
  convert : Text → Except Failure Document

/-- The variables, in the order in which they are looked at. -/
def knownVariables : List Variable :=
  [⟨"VOTEFLOW_BACKEND", .address, fun t => .ok (.text t)⟩,
    ⟨"VOTEFLOW_HTTPS_POST", .httpsForPost, fun t => .ok (.bool (isYes t))⟩,
    ⟨"VOTEFLOW_DEBUG", .debug, fun t => .ok (.bool (isYes t))⟩,
    ⟨"VOTEFLOW_TIMEOUT", .timeout, toFloat⟩,
    ⟨"VOTEFLOW_POLL_INTERVAL", .pollInterval, toFloat⟩,
    ⟨"VOTEFLOW_RETRY_BUDGET", .retryBudget, fun t => .int <$> (Document.text t).toInt⟩,
    ⟨"VOTEFLOW_DISCRIMINATION", .discrimination, fun t => .ok (.text (Text.lower t))⟩,
    ⟨"VOTEFLOW_LOG_LEVEL", .level, fun t => .ok (.text (Text.upper t))⟩,
    ⟨"VOTEFLOW_LOG_FMT", .format, fun t => .ok (.text t)⟩]

/-- The text of a variable; an empty one counts as none. -/
def textOf? (environment : Environment) (v : Variable) : Option Text :=
  (environment.lookup v.name).filter fun t => !t.isEmpty

/-- The configuration after variables of the environment, one after another. -/
def override (environment : Environment) : List Variable → Config → Except Failure Config
  | [], c => .ok c
  | v :: vs, c =>
    match textOf? environment v with
    | none => override environment vs c
    | some t => do
      let d ← v.convert t
      override environment vs (c.set v.field d)

/-! ## Loading -/

/-- The configuration that a file, if a path is given and leads to one, and the environment
give. -/
def load (folder : Folder) (path : Option Text) (environment : Environment) :
    Except Failure Config := do
  let file ← match path with
    | none => pure none
    | some path => folder.read? path
  let c ← match file with
    | none => pure usual
    | some content => usual.mergeFile (← Toml.parseBytes content) Section.all
  c.override environment knownVariables

/-- The values of the fields of a part under their names. -/
def fields (part : Section) (c : Config) : List (String × Document) :=
  (Field.all.filter fun f => f.home == part).map fun f => (f.name, c.value f)

end Config

end BallotWallet
