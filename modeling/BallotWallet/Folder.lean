import BallotWallet.Bytes
import BallotWallet.Failure
import BallotWallet.Text.Path

/-!
# Folders

The folder that a wallet works in holds files and no folders. A path leads from it, step by step,
to a file, to a folder, or nowhere. Where a file is to be written, the folders on the way to it are
made first. Paths are texts; what is no character in them may still stand for a byte.
-/

namespace BallotWallet

/-- The files of the working folder, by name. -/
structure Folder where
  files : List (Text × Bytes) := []
  deriving Inhabited

/-- Where a path has led so far: the components behind the working folder, or behind the root of
all folders, the last one first. -/
abbrev Folder.Place := List Text

namespace Folder

/-- The number of bytes that a component of a path may have. -/
def longestName : Nat := 255

/-- The number of bytes that a path may have. -/
def longestPath : Nat := 4095

/-- The number of bytes that a code point takes in a path, if it can stand in one: some halves of
surrogate pairs stand for a byte that is no character. -/
def byteCount? : Text.CodePoint → Option Nat
  | .char c => some c.utf8Size
  | .half n => if 0x480 ≤ n.val && n.val < 0x500 then some 1 else none

/-- The number of bytes of a path or a component of one, if it can be one. -/
def size? (path : Text) : Option Nat :=
  (path.points.mapM byteCount?).map (List.foldl (· + ·) 0)

/-- Whether a path or a component of one has more than `limit` bytes. -/
def exceeds (limit : Nat) (path : Text) : Bool :=
  (size? path).any (limit < ·)

def isTooLong (component : Text) : Bool :=
  exceeds longestName component

/-- What cannot be a path, whatever the folder is, is refused. -/
def checkPath (path : Text) : Except Failure Unit :=
  if (size? path).isNone then .error .unencodable
  else if path.hasChar '\x00' then .error .badValue
  else .ok ()

/-- The content of the file at a place, if there is one; there is none behind the root. -/
def fileAt? (folder : Folder) (absolute : Bool) (place : Place) : Option Bytes :=
  match absolute, place with
  | false, [name] => folder.files.lookup name
  | _, _ => none

/-- What a path leads to. -/
inductive Found where
  | nothing
  | file (content : Bytes)
  | folder

/-- What components lead to from a place that is there. Only the working folder and those around
it are there besides the files. -/
def find (folder : Folder) (absolute : Bool) : Place → List Text → Except Failure Found
  | place, [] =>
    match folder.fileAt? absolute place with
    | some content => .ok (.file content)
    | none => .ok .folder
  | place, component :: rest =>
    if (folder.fileAt? absolute place).isSome then .ok .nothing
    else if isTooLong component then .error .pathTooLong
    else
      let next := Text.stepInto absolute place component
      if (folder.fileAt? absolute next).isSome || next.all (· == "..") then
        folder.find absolute next rest
      else .ok .nothing

/-- Whether a path starts at the root of all folders. -/
def isAbsolute (path : Text) : Bool :=
  path.points.head? == some (.char '/')

/-- The content of the file that a path leads to, if it leads anywhere; what cannot be a path does
not. -/
def read? (folder : Folder) (path : Text) : Except Failure (Option Bytes) :=
  if !(checkPath path).isOk then .ok none
  else if exceeds longestPath (Text.normalPath path) then .error .pathTooLong
  else do
    match ← folder.find (isAbsolute path) [] (Text.pathComponents path) with
    | .nothing => return none
    | .file content => return some content
    | .folder => throw .isFolder

/-- The places of folders after the folders on the way along components have been made, given
those that are there. -/
def make (folder : Folder) (absolute : Bool) :
    Place → List Place → List Text → Except Failure (List Place)
  | _, made, [] => .ok made
  | place, made, component :: rest =>
    if isTooLong component then .error .pathTooLong
    else
      let next := Text.stepInto absolute place component
      if (folder.fileAt? absolute next).isSome then
        .error (if rest.isEmpty then .alreadyThere else .notFolder)
      else folder.make absolute next (next :: made) rest

/-- The places of folders after those on the way to the file at a path have been made. -/
def makeParents (folder : Folder) (path : Text) : Except Failure (List Place) := do
  let parents := (Text.pathComponents path).dropLast
  let way := Text.join "/" parents
  checkPath way
  if exceeds longestPath way then throw .pathTooLong
  folder.make (isAbsolute path) [] [[]] parents

/-- The path, without components that lead back, of the file at a path where it can be written,
after the folders on the way to it have been made. -/
def writable (folder : Folder) (path : Text) : Except Failure Text := do
  let made ← folder.makeParents path
  let components := Text.pathComponents path
  let last := components.getLastD ""
  let place := components.foldl (Text.stepInto (isAbsolute path)) []
  checkPath last
  if isTooLong last || exceeds longestPath (Text.normalPath path) then throw .pathTooLong
  if last == ".." || made.contains place then throw .isFolder
  return Text.plainPath path

/-- The folder after bytes were added at the end of the file at a plain path, which may be new. What
is not in the working folder itself is not kept. -/
def append (folder : Folder) (path : Text) (bs : Bytes) : Folder :=
  if path.hasChar '/' then folder
  else
    let before := (folder.files.lookup path).getD []
    ⟨(path, before ++ bs) :: folder.files.filter (·.1 != path)⟩

end Folder

end BallotWallet
