import BallotWallet.Document

/-!
# Log records

What the wallet has to report while it works: a text with a severity, the part of the wallet that
it comes from, and what fragment or account it is about.
-/

namespace BallotWallet.Log

/-- A severity; any whole number is one, and the greater the more severe. -/
abbrev Level := Int

/-- The severity of what only a developer wants to know. -/
def debug : Level := 10

/-- The severity of the ordinary course of things. -/
def info : Level := 20

/-- The severity of what may need attention. -/
def warning : Level := 30

def levelName (level : Level) : String :=
  if level = 0 then "NOTSET"
  else if level = 10 then "DEBUG"
  else if level = 20 then "INFO"
  else if level = 30 then "WARNING"
  else if level = 40 then "ERROR"
  else if level = 50 then "CRITICAL"
  else "Level " ++ toString level

/-- What a record is about; a part that is null is not known. -/
structure Context where
  fragmentId : Document := .null
  counter : Document := .null
  account : Document := .null
  deriving Inhabited

/-- The known parts under their names. -/
def Context.fields (context : Context) : List (String × Document) :=
  [("fragment_id", context.fragmentId), ("counter", context.counter),
    ("account", context.account)].filter fun f =>
      match f.2 with
      | .null => false
      | _ => true

theorem Context.mem_fields {context : Context} {f : String × Document} :
    f ∈ context.fields ↔ (f = ("fragment_id", context.fragmentId) ∨
      f = ("counter", context.counter) ∨ f = ("account", context.account)) ∧ f.2 ≠ .null := by
  unfold Context.fields
  rw [List.mem_filter]
  simp only [List.mem_cons, List.not_mem_nil, or_false]
  refine and_congr_right fun _ => ?_
  cases f.2 <;> simp

/-- The name of a kind of exception; two older names stand for a newer one. -/
def kindName (kind : String) : String :=
  if ["IOError", "EnvironmentError"].contains kind then "OSError" else kind

/-- The kinds of exceptions that say more than a text, and so cannot be made from one. -/
def detailedKinds : List String :=
  ["BaseExceptionGroup", "ExceptionGroup", "UnicodeDecodeError", "UnicodeEncodeError",
    "UnicodeTranslateError"]

/-- The description of an exception: its kind and, behind a colon, its text unless that is empty.
The text of a missing key is quoted, and that of a fault of syntax is never left out. -/
def describe (kind : String) (text : Text) : Except Failure Text :=
  let kind := kindName kind
  if detailedKinds.contains kind then .error .wrongKind
  else if kind = "KeyError" then .ok (kind ++ ": " ++ Text.quoted text)
  else if !text.isEmpty then .ok (kind ++ ": " ++ text)
  else if ["SyntaxError", "IndentationError", "TabError"].contains kind then
    .ok (kind ++ ": <no detail available>")
  else .ok kind

/-- One report. -/
structure Record where
  logger : Text
  level : Level
  message : Text
  context : Context := {}
  /-- The description of an exception that is reported. -/
  exception : Option Text := none
  deriving Inhabited

end BallotWallet.Log
