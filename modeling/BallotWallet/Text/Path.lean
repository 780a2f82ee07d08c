import BallotWallet.Text.Blank

/-!
# File paths

A path without what does not change where it leads: repeated and final slashes and components
that name the directory itself. Two slashes at the front, and no more, are kept. Components that
lead back to the parent are kept too, unless the path is to be plain.
-/

namespace BallotWallet.Text

/-- The slashes that a path starts with, as far as they count. -/
def pathRoot (path : Text) : Text :=
  match (path.points.takeWhile (· == .char '/')).length with
  | 0 => ""
  | 2 => "//"
  | _ => "/"

/-- The components of a path that lead somewhere. -/
def pathComponents (path : Text) : List Text :=
  (pieces '/' path).filter fun c => c != "" && c != "."

def normalPath (path : Text) : Text :=
  let normal := pathRoot path ++ join "/" (pathComponents path)
  if normal.isEmpty then "." else normal

/-- The components of a path after one more: one that leads back takes away the component before
it, if there is one that does not itself lead back. The components are in reverse order. -/
def stepInto (absolute : Bool) (before : List Text) (component : Text) : List Text :=
  if component != ".." then component :: before
  else
    match before with
    | [] => if absolute then [] else [component]
    | last :: rest => if last == ".." then component :: before else rest

/-- The path in its normal form, without components that lead back as far as that is possible. -/
def plainPath (path : Text) : Text :=
  let root := pathRoot path
  let components := (pathComponents path).foldl (stepInto (!root.isEmpty)) []
  let plain := root ++ join "/" components.reverse
  if plain.isEmpty then "." else plain

end BallotWallet.Text
