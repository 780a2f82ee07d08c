import BallotWallet.Text.Encoding
import BallotWallet.Toml.Scalar
import BallotWallet.Toml.Table

/-!
# Reading TOML

A TOML text is a sequence of lines: headers that open a table, assignments below them, comments.
It is read into a document, which is an object.
-/

namespace BallotWallet.Toml

/-! ## Keys -/

/-- A character of a name without quotes. -/
def isBare (c : Char) : Bool :=
  c.isAlphanum || c == '-' || c == '_'

/-- A name, with or without quotes. -/
def readName : List Char → Except Failure (Text × List Char)
  | '"' :: cs => readBasicLine cs
  | '\'' :: cs => textOf (readLiteral? cs)
  | cs =>
    let name := cs.takeWhile isBare
    if name.isEmpty then .error .badToml else .ok (Text.ofChars name, cs.drop name.length)

/-- Names with dots between them, up to the next character that is neither. -/
def readPath : Nat → List Char → Except Failure (Key × List Char)
  | 0, _ => .error .badToml
  | fuel + 1, cs => do
    let (name, rest) ← readName cs
    match skipGaps rest with
    | '.' :: rest =>
      let (path, rest) ← readPath fuel (skipGaps rest)
      return (name :: path, rest)
    | rest => return ([name], rest)

def readKey (cs : List Char) : Except Failure (Key × List Char) :=
  readPath (cs.length + 1) cs

/-- The key of an assignment with its equals sign. -/
def readTarget (cs : List Char) : Except Failure (Key × List Char) := do
  let (key, rest) ← readKey cs
  match rest with
  | '=' :: rest => return (key, skipGaps rest)
  | _ => throw .badToml

/-! ## Values -/

/-- The characters of a list without white space, line breaks and comments in front. -/
def skipLines : Nat → List Char → Except Failure (List Char)
  | 0, cs => .ok cs
  | fuel + 1, cs => do
    let after ← skipComment (cs.dropWhile isLineGap)
    if after.length = cs.length then return cs else skipLines fuel after

def nextItem (cs : List Char) : Except Failure (List Char) :=
  skipLines (cs.length + 1) cs

/-- How many levels values may have. -/
def maxDepth : Nat := 985

/-- The levels left inside a value that takes some of them. -/
def enter (levels depth : Nat) : Except Failure Nat :=
  if depth < levels then .error .tooDeep else .ok (depth - levels)

mutual

/-- A value with `depth` levels at most. A list takes two levels, and a table in one line takes
three. -/
def readValue : Nat → Nat → List Char → Except Failure (Document × List Char)
  | 0, _, _ => .error .badToml
  | fuel + 1, depth, cs =>
    match cs with
    | '[' :: rest => do
      let depth ← enter 2 depth
      match ← nextItem rest with
      | ']' :: rest => return (.list [], rest)
      | rest =>
        let (items, rest) ← readItems fuel depth rest
        return (.list items, rest)
    | '\x7b' :: rest => do
      let depth ← enter 3 depth
      match skipGaps rest with
      | '\x7d' :: rest => return (.object [], rest)
      | rest =>
        let (fields, rest) ← readFields fuel depth [] [] rest
        return (.object fields, rest)
    | cs => readScalar cs

/-- The items of a list up to its end; a comma may stand behind the last one. -/
def readItems : Nat → Nat → List Char → Except Failure (List Document × List Char)
  | 0, _, _ => .error .badToml
  | fuel + 1, depth, cs => do
    let (item, rest) ← readValue fuel depth cs
    match ← nextItem rest with
    | ']' :: rest => return ([item], rest)
    | ',' :: rest =>
      match ← nextItem rest with
      | ']' :: rest => return ([item], rest)
      | rest =>
        let (items, rest) ← readItems fuel depth rest
        return (item :: items, rest)
    | _ => throw .badToml

/-- The fields of a table in one line up to its end, after the fields `before`, of which those at
the paths `complete` are complete. -/
def readFields : Nat → Nat → List Key → Fields → List Char →
    Except Failure (Fields × List Char)
  | 0, _, _, _, _ => .error .badToml
  | fuel + 1, depth, complete, before, cs => do
    let (key, rest) ← readTarget cs
    let (value, rest) ← readValue fuel depth rest
    if complete.any fun p => p.isPrefixOf key then throw .badToml
    let fields ← assign false key.dropLast (key.getLastD "") value before
    match skipGaps rest with
    | '\x7d' :: rest => return (fields, rest)
    | ',' :: rest =>
      let complete := if isComplete value then key :: complete else complete
      readFields fuel depth complete fields (skipGaps rest)
    | _ => throw .badToml

end

/-! ## Lines -/

/-- What has been read of a text. -/
structure Progress where
  fields : Fields := []
  names : Namespaces := {}
  /-- The path of the last header. -/
  header : Key := []

def closeHeader (sign : List Char) (cs : List Char) : Except Failure (List Char) :=
  if sign.isPrefixOf cs then .ok (cs.drop sign.length) else .error .badToml

/-- A header that opens a table. -/
def readHeader (p : Progress) (cs : List Char) : Except Failure (Progress × List Char) := do
  let (path, rest) ← readKey (skipGaps cs)
  let names ← p.names.settle.open? path
  let fields ← within true .ok path p.fields
  let rest ← closeHeader [']'] rest
  return (⟨fields, names, path⟩, rest)

/-- A header that opens a new item of a list of tables. -/
def readItemHeader (p : Progress) (cs : List Char) : Except Failure (Progress × List Char) := do
  let (path, rest) ← readKey (skipGaps cs)
  let names ← p.names.settle.openItem? path
  let fields ← within true (addItem (path.getLastD "")) path.dropLast p.fields
  let rest ← closeHeader [']', ']'] rest
  return (⟨fields, names, path⟩, rest)

/-- An assignment below the last header. -/
def readAssignment (p : Progress) (cs : List Char) : Except Failure (Progress × List Char) := do
  let (key, rest) ← readTarget cs
  let (value, rest) ← readValue (2 * rest.length + 2) maxDepth rest
  let names ← p.names.assigned? p.header key value
  let fields ← assign true (p.header ++ key.dropLast) (key.getLastD "") value p.fields
  return (⟨fields, names, p.header⟩, rest)

/-- What a line says, comments aside. -/
def readStatement (p : Progress) : List Char → Except Failure (Progress × List Char)
  | '[' :: '[' :: cs => readItemHeader p cs
  | '[' :: cs => readHeader p cs
  | [] => .ok (p, [])
  | c :: cs =>
    if c == '\n' || c == '#' then .ok (p, c :: cs) else readAssignment p (c :: cs)

/-- The lines of a text, one after another. -/
def readLines : Nat → Progress → List Char → Except Failure Progress
  | 0, _, _ => .error .badToml
  | fuel + 1, p, cs => do
    let (p, rest) ← readStatement p (skipGaps cs)
    match ← skipComment (skipGaps rest) with
    | [] => return p
    | '\n' :: rest => readLines fuel p rest
    | _ => throw .badToml

/-- The characters with line feeds in the place of pairs of carriage return and line feed. -/
def joinBreaks : List Char → List Char
  | '\r' :: '\n' :: cs => '\n' :: joinBreaks cs
  | c :: cs => c :: joinBreaks cs
  | [] => []

def parse (cs : List Char) : Except Failure Document := do
  let cs := joinBreaks cs
  let p ← readLines (cs.length + 1) {} cs
  return .object p.fields

/-- The document that bytes in UTF-8 stand for. -/
def parseBytes (bs : Bytes) : Except Failure Document :=
  match (Text.utf8? bs).bind Text.chars? with
  | some cs => parse cs
  | none => .error .undecodable

end BallotWallet.Toml
