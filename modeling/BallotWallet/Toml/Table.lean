import BallotWallet.Document

/-!
# Tables of a TOML text

Tables are built up by headers and by assignments to dotted keys. What a table may still be given
depends on how it came about: one that was written as a value is complete, and one that was opened
by a header or by a dotted key is not opened by another header.
-/

namespace BallotWallet.Toml

/-- A path through tables: the names to go by, one after another. -/
abbrev Key := List Text

/-- The fields of a table, in the order of their first mention. -/
abbrev Fields := List (Text × Document)

/-- The last item of a list of tables, changed by `change`. -/
def inLast (change : Fields → Except Failure Fields) (items : List Document) :
    Except Failure Document :=
  match items.getLast? with
  | some (.object inner) => do return .list (items.dropLast ++ [.object (← change inner)])
  | _ => .error .badToml

/-- The fields with the table at the end of a path changed by `change`. Missing tables are made on
the way; in a list of tables, the last one is meant if `lists` says that lists may be on the
path. -/
def within (lists : Bool) (change : Fields → Except Failure Fields) :
    Key → Fields → Except Failure Fields
  | [], fields => change fields
  | name :: path, fields => do
    let inner ← match Document.getField? name fields with
      | none => Document.object <$> within lists change path []
      | some (.object inner) => Document.object <$> within lists change path inner
      | some (.list items) =>
        if lists then inLast (within lists change path) items else .error .badToml
      | some _ => .error .badToml
    return Document.setField name inner fields

def addNew (name : Text) (d : Document) (fields : Fields) : Except Failure Fields :=
  if (Document.getField? name fields).isSome then .error .badToml
  else .ok (fields ++ [(name, d)])

/-- The fields with a value at the end of a path, where nothing must be yet. -/
def assign (lists : Bool) (path : Key) (name : Text) (d : Document) :
    Fields → Except Failure Fields :=
  within lists (addNew name d) path

/-- The fields with one more empty table in the list with a name. -/
def addItem (name : Text) (fields : Fields) : Except Failure Fields :=
  match Document.getField? name fields with
  | none => .ok (fields ++ [(name, .list [.object []])])
  | some (.list items) => .ok (Document.setField name (.list (items ++ [.object []])) fields)
  | some _ => .error .badToml

/-- Whether a value is complete once it is written. -/
def isComplete : Document → Bool
  | .list _ | .object _ => true
  | _ => false

/-- What is known about tables besides their fields. -/
structure Namespaces where
  /-- The paths of values that are complete; nothing is added at or below them. -/
  complete : List Key := []
  /-- The paths of tables that no header opens again. -/
  opened : List Key := []
  /-- The paths that will be among the latter from the next header on. -/
  opening : List Key := []

namespace Namespaces

/-- Whether nothing may be added at a path. -/
def isClosed (names : Namespaces) (path : Key) : Bool :=
  names.complete.any fun p => p.isPrefixOf path

/-- The knowledge at the next header. -/
def settle (names : Namespaces) : Namespaces :=
  { names with opened := names.opening ++ names.opened, opening := [] }

/-- The knowledge after a header has opened a table. -/
def open? (names : Namespaces) (path : Key) : Except Failure Namespaces :=
  if names.opened.contains path || names.isClosed path then .error .badToml
  else .ok { names with opened := path :: names.opened }

/-- The knowledge after a header has opened a new item of a list of tables: what was known at and
below the path was about the item before. -/
def openItem? (names : Namespaces) (path : Key) : Except Failure Namespaces :=
  if names.isClosed path then .error .badToml
  else
    .ok { names with
      complete := names.complete.filter fun p => !path.isPrefixOf p
      opened := path :: names.opened.filter fun p => !path.isPrefixOf p }

/-- The knowledge after an assignment below a header. The tables on the way of a dotted key must
not have been opened by a header. -/
def assigned? (names : Namespaces) (header key : Key) (d : Document) :
    Except Failure Namespaces :=
  let onTheWay := (List.range (key.length - 1)).map fun i => header ++ key.take (i + 1)
  if onTheWay.any names.opened.contains || names.isClosed (header ++ key.dropLast) then
    .error .badToml
  else
    .ok { names with
      opening := onTheWay ++ names.opening
      complete := if isComplete d then (header ++ key) :: names.complete else names.complete }

end Namespaces

end BallotWallet.Toml
