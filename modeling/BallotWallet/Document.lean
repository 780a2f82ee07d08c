import BallotWallet.Failure
import BallotWallet.Number.Binary64
import BallotWallet.Time.Calendar

/-!
# Documents

What a JSON or a TOML text says: plain values, lists and objects whose fields keep their order.
Ledger nodes and configuration files are loose about kinds, so the conversions accept whatever
can be understood and tell precisely how the rest fails.
-/

namespace BallotWallet

/-- A day, a time of day, or both with an optional offset in minutes from universal time. -/
inductive Time.Moment where
  | day (d : Date)
  | time (t : TimeOfDay)
  | both (d : Date) (t : TimeOfDay) (offset : Option Int)
  deriving DecidableEq, Inhabited

/-- A value of a JSON or TOML text. The fields of an object have different names. -/
inductive Document where
  | null
  | bool (b : Bool)
  | int (n : Int)
  | float (x : Binary64)
  | text (t : Text)
  | moment (m : Time.Moment)
  | list (items : List Document)
  | object (fields : List (Text × Document))
  deriving Inhabited

namespace Time

/-- An offset as hours and minutes with a sign. -/
def offsetText (minutes : Int) : String :=
  (if minutes < 0 then "-" else "+") ++ padded 2 (minutes.natAbs / 60) ++ ":" ++
    padded 2 (minutes.natAbs % 60)

/-- The moment as text, with `gap` between the day and the time of day. -/
def Moment.text (gap : String) : Moment → String
  | .day d => d.text
  | .time t => t.text
  | .both d t offset => d.text ++ gap ++ t.text ++ (offset.map offsetText).getD ""

/-- The parts of a time of day that are shown: seconds and microseconds only if they count. -/
def TimeOfDay.parts (t : TimeOfDay) : List Nat :=
  if t.micro != 0 then [t.hour, t.minute, t.second, t.micro]
  else if t.second != 0 then [t.hour, t.minute, t.second]
  else [t.hour, t.minute]

/-- An offset as it is shown inside another value. -/
def offsetShown (minutes : Int) : String :=
  if minutes = 0 then "datetime.timezone.utc"
  else
    let delta := if minutes < 0 then
        "days=-1, seconds=" ++ toString (86400 + minutes * 60)
      else "seconds=" ++ toString (minutes * 60)
    "datetime.timezone(datetime.timedelta(" ++ delta ++ "))"

/-- The moment as it is shown inside another value. -/
def Moment.shown : Moment → String
  | .day d =>
    "datetime.date(" ++ String.intercalate ", " ([d.year, d.month, d.day].map toString) ++ ")"
  | .time t => "datetime.time(" ++ String.intercalate ", " (t.parts.map toString) ++ ")"
  | .both d t offset =>
    "datetime.datetime(" ++
      String.intercalate ", " (([d.year, d.month, d.day] ++ t.parts).map toString ++
        (offset.map fun m => "tzinfo=" ++ offsetShown m).toList) ++ ")"

end Time

namespace Document

def ofFields (fields : List (String × Document)) : Document :=
  object (fields.map fun f => (f.1, f.2))

/-! ## As text -/

mutual

/-- The value as it is shown inside another value: texts are quoted. -/
def shown : Document → String
  | null => "None"
  | bool b => if b then "True" else "False"
  | int n => toString n
  | float x => x.text
  | text t => Text.quoted t
  | moment m => m.shown
  | list items => "[" ++ String.intercalate ", " (itemsShown items) ++ "]"
  | object fields => "\x7b" ++ String.intercalate ", " (fieldsShown fields) ++ "\x7d"

def itemsShown : List Document → List String
  | [] => []
  | d :: ds => shown d :: itemsShown ds

/-- The fields of an object as they are shown. -/
def fieldsShown : List (Text × Document) → List String
  | [] => []
  | (name, d) :: fields => (Text.quoted name ++ ": " ++ shown d) :: fieldsShown fields

end

/-- The value as a text: a text is itself, and anything else is as it is shown. -/
def display : Document → Text
  | text t => t
  | moment m => m.text " "
  | d => d.shown

/-- Whether the value is a given text. -/
def isText (d : Document) (t : Text) : Bool :=
  match d with
  | text u => u == t
  | _ => false

mutual

/-- Whether all whole numbers in the value have few enough digits to be written. -/
def isWritable : Document → Bool
  | int n => Numeral.isWritable n
  | list items => itemsWritable items
  | object fields => fieldsWritable fields
  | _ => true

def itemsWritable : List Document → Bool
  | [] => true
  | d :: ds => isWritable d && itemsWritable ds

def fieldsWritable : List (Text × Document) → Bool
  | [] => true
  | (_, d) :: fields => isWritable d && fieldsWritable fields

end

/-- The value, unless a number in it is too long to be written. -/
def writable (d : Document) : Except Failure Document :=
  if d.isWritable then .ok d else .error .badValue

/-! ## Conversions -/

/-- The value as a whole number. -/
def toInt : Document → Except Failure Int
  | int n => .ok n
  | bool b => .ok (if b then 1 else 0)
  | float x =>
    match x.truncate? with
    | some n => .ok n
    | none => .error (if x.isNaN then .badValue else .overflow)
  | text t =>
    match Numeral.toInt? t with
    | some n => .ok n
    | none => .error .badValue
  | _ => .error .wrongKind

/-- Whether the value counts as present: zeros, empty values and null do not. -/
def truthy : Document → Bool
  | null => false
  | bool b => b
  | int n => n != 0
  | float x => !x.isZero
  | text t => !t.isEmpty
  | moment _ => true
  | list items => !items.isEmpty
  | object fields => !fields.isEmpty

/-- The value, or another one if it does not count as present. -/
def orElse (d other : Document) : Document :=
  if d.truthy then d else other

/-- The value of the field with a name among the fields of an object. -/
def getField? (name : Text) (fields : List (Text × Document)) : Option Document :=
  fields.lookup name

/-- The field of an object with a given name, or the default; other values have no fields. -/
def field (d : Document) (name : Text) (default : Document := null) :
    Except Failure Document :=
  match d with
  | object fields => .ok ((getField? name fields).getD default)
  | _ => .error .noMember

/-- The field that an object must have. -/
def required (d : Document) (name : Text) : Except Failure Document :=
  match d with
  | object fields =>
    match getField? name fields with
    | some value => .ok value
    | none => .error .missingKey
  | _ => .error .wrongKind

/-- What the value yields one by one: items, field names, or code points. -/
def elements : Document → Except Failure (List Document)
  | list items => .ok items
  | object fields => .ok (fields.map fun f => text f.1)
  | text t => .ok (t.points.map fun p => text ⟨[p]⟩)
  | _ => .error .wrongKind

/-- How many elements the value has. -/
def size (d : Document) : Except Failure Nat :=
  d.elements.map List.length

/-- The fields of an object; other values have none to offer. -/
def entries : Document → Except Failure (List (Text × Document))
  | object fields => .ok fields
  | _ => .error .noMember

/-- The first element of a value that is counted by place. -/
def first : Document → Except Failure Document
  | list (d :: _) => .ok d
  | text ⟨p :: _⟩ => .ok (text ⟨[p]⟩)
  | text ⟨[]⟩ | list [] => .error .outOfRange
  | object _ => .error .missingKey
  | _ => .error .wrongKind

/-- The fields with one set: in its old place if it was there, at the end otherwise. -/
def setField (name : Text) (d : Document) : List (Text × Document) → List (Text × Document)
  | [] => [(name, d)]
  | (n, old) :: fields =>
    if n = name then (n, d) :: fields else (n, old) :: setField name d fields

end Document

end BallotWallet
