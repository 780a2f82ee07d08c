import BallotWallet.Key.Material
import BallotWallet.Number.Numeral

/-!
# Key trees

From the seed of a wallet grows a tree of keys. A child is found from its parent by its index:
a hardened child from the parent's signing key, any other from the parent's public key.
-/

namespace BallotWallet.Key

/-- A node of the tree. -/
structure Node where
  privateKey : Bytes
  chainCode : Bytes
  depth : Int := 0
  index : Int := 0
  deriving DecidableEq, Inhabited

namespace Node

/-- The lowest index of a hardened child. -/
def hardened : Int := 0x80000000

def ofSeed (seed : Bytes) : Node :=
  let i := Hmac.sha512 (Bytes.ofString "Bitcoin seed") seed
  { privateKey := i.take 32, chainCode := i.drop 32 }

def publicKey (node : Node) : Except Failure Bytes :=
  Ecdsa.publicKey node.privateKey

/-- An index as four bytes, if it fits into them. -/
def indexBytes (index : Int) : Except Failure Bytes :=
  if 0 ≤ index ∧ index < 0x100000000 then .ok (Bytes.ofNatBE 4 index.toNat) else .error .childIndex

/-- What a child is found from. -/
def childData (node : Node) (index : Int) : Except Failure Bytes :=
  if hardened ≤ index then do
    let suffix ← indexBytes index
    return 0 :: (node.privateKey ++ suffix)
  else do
    let publicKey ← node.publicKey
    let suffix ← indexBytes index
    return publicKey ++ suffix

def child (node : Node) (index : Int) : Except Failure Node := do
  let i := Hmac.sha512 node.chainCode (← node.childData index)
  let scalar := (Bytes.toNatBE (i.take 32) + Bytes.toNatBE node.privateKey) % Secp256k1.order
  return {
    privateKey := Bytes.ofNatBE 32 scalar
    chainCode := i.drop 32
    depth := node.depth + 1
    index := index }

/-- The index that a component of a path names; an apostrophe marks a hardened child. -/
def componentIndex (component : Text) : Except Failure Int :=
  let ps := component.points
  let isHard := ps.getLast? == some (.char '\'')
  match Numeral.toInt? ⟨if isHard then ps.dropLast else ps⟩ with
  | some n => .ok (if isHard then n + hardened else n)
  | none => .error .badValue

/-- The node that components lead to, from left to right. -/
def follow (node : Node) : List Text → Except Failure Node
  | [] => .ok node
  | component :: rest => do
    let index ← componentIndex component
    let next ← node.child index
    next.follow rest

/-- The components of a path, without the name of the root in front. -/
def components (path : Text) : List Text :=
  match path.points with
  | .char 'm' :: .char '/' :: rest => Text.pieces '/' ⟨rest⟩
  | _ => Text.pieces '/' path

def walk (node : Node) (path : Text) : Except Failure Node :=
  if path = "m" then .ok node else node.follow (components path)

def material (node : Node) : Except Failure Material :=
  Material.make node.privateKey node.chainCode

end Node

/-- The path to the key of a wallet with an account and an index. -/
def walletPath (account : Int := 0) (index : Int := 0) : String :=
  "m/44'/1815'/" ++ toString account ++ "'/0/" ++ toString index

end BallotWallet.Key
