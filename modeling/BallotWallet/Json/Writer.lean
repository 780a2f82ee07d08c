import BallotWallet.Bytes.Hex
import BallotWallet.Document

/-!
# Writing JSON

A document is written in printable ASCII: everything else in a text is escaped, characters
beyond the first plane as a pair of surrogates, and halves of such pairs as they are. The compact
style sorts the fields by name, so that equal objects are written alike; the spaced style keeps
their order.
-/

namespace BallotWallet.Json

/-- How a document is laid out. -/
structure Style where
  comma : List Char
  colon : List Char
  sorted : Bool

/-- Without blanks, the fields sorted. -/
def Style.compact : Style := ⟨[','], [':'], true⟩

/-- With a blank behind commas and colons, the fields as they come. -/
def Style.spaced : Style := ⟨[',', ' '], [':', ' '], false⟩

/-- A unit of 16 bits as an escape. -/
def escapeUnit (n : Nat) : List Char :=
  '\\' :: 'u' :: (Hex.ofNat 4 n).toList

def escapeChar (c : Char) : List Char :=
  let n := c.toNat
  if c == '"' then ['\\', '"']
  else if c == '\\' then ['\\', '\\']
  else if 0x20 ≤ n && n ≤ 0x7e then [c]
  else if n == 0x0a then ['\\', 'n']
  else if n == 0x0d then ['\\', 'r']
  else if n == 0x09 then ['\\', 't']
  else if n == 0x0c then ['\\', 'f']
  else if n == 0x08 then ['\\', 'b']
  else if n < 0x10000 then escapeUnit n
  else escapeUnit (0xd800 + (n - 0x10000) / 0x400) ++ escapeUnit (0xdc00 + (n - 0x10000) % 0x400)

def escapePoint : Text.CodePoint → List Char
  | .char c => escapeChar c
  | .half n => escapeUnit (Text.CodePoint.half n).toNat

def writeText (t : Text) : List Char :=
  '"' :: (t.points.flatMap escapePoint ++ ['"'])

/-- A floating point number; infinities and the lack of a number have names. -/
def writeFloat (x : Binary64) : List Char :=
  match x.view with
  | .nan => "NaN".toList
  | .infinite negative => if negative then "-Infinity".toList else "Infinity".toList
  | .finite .. => x.text.toList

/-- Pieces with a separator between them. -/
def separated (sep : List Char) : List (List Char) → List Char
  | [] => []
  | [p] => p
  | p :: ps => p ++ sep ++ separated sep ps

/-- Fields in the order of their names. -/
def sortFields {α : Type} (fields : List (Text × α)) : List (Text × α) :=
  fields.mergeSort fun a b => a.1.le b.1

mutual

def write (style : Style) : Document → List Char
  | .null => "null".toList
  | .bool b => if b then "true".toList else "false".toList
  | .int n => (toString n).toList
  | .float x => writeFloat x
  | .text t => writeText t
  | .moment m => writeText (m.text " ")
  | .list items => '[' :: (separated style.comma (writeItems style items) ++ [']'])
  | .object fields =>
    let written := writeFields style fields
    let written := if style.sorted then sortFields written else written
    '\x7b' :: (separated style.comma (written.map (·.2)) ++ ['\x7d'])

def writeItems (style : Style) : List Document → List (List Char)
  | [] => []
  | d :: ds => write style d :: writeItems style ds

/-- The fields of an object, each under its name. -/
def writeFields (style : Style) :
    List (Text × Document) → List (Text × List Char)
  | [] => []
  | (name, d) :: fields =>
    (name, writeText name ++ style.colon ++ write style d) :: writeFields style fields

end

def text (style : Style) (d : Document) : String :=
  String.ofList (write style d)

end BallotWallet.Json
