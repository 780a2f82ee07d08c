import BallotWallet.Key.Tree
import BallotWallet.Proofs.Failing
import BallotWallet.Proofs.Numeral
import BallotWallet.Proofs.Words

/-!
# Descending the tree of keys

A path leads down the tree of keys, from left to right, by one child for each component. With an
apostrophe a component asks for a hardened child, without one for a normal child, and it gets what
it asks for as long as its number is one of that half of the indices. The half is told from the
index alone, though. So a component goes astray if its number reaches into the other half: a
negative one with an apostrophe, and one of a hardened child without an apostrophe.
-/

namespace BallotWallet.Key.Node

variable {node parent child last : Node} {component : Text} {components : List Text} {index : Int}
  {line : List Node}

/-! ## Children -/

/-- The child that is found from some data. -/
def grown (parent : Node) (data : Bytes) (index : Int) : Node :=
  let i := Hmac.sha512 parent.chainCode data
  let scalar := (Bytes.toNatBE (i.take 32) + Bytes.toNatBE parent.privateKey) % Secp256k1.order
  { privateKey := Bytes.ofNatBE 32 scalar
    chainCode := i.drop 32
    depth := parent.depth + 1
    index := index }

/-- A child in the upper half of the indices, found from the signing key of its parent. -/
structure IsHardenedChild (parent child : Node) : Prop where
  lower : hardened ≤ child.index
  upper : child.index < 2 * hardened
  grown : child =
    parent.grown (0 :: (parent.privateKey ++ Bytes.ofNatBE 4 child.index.toNat)) child.index

/-- A child in the lower half of the indices, found from the public key of its parent. -/
structure IsNormalChild (parent child : Node) : Prop where
  lower : 0 ≤ child.index
  upper : child.index < hardened
  grown : ∃ key, parent.publicKey = .ok key ∧
    child = parent.grown (key ++ Bytes.ofNatBE 4 child.index.toNat) child.index

/-- A child in either half of the indices. -/
def IsChild (parent child : Node) : Prop :=
  IsHardenedChild parent child ∨ IsNormalChild parent child

theorem isChild_iff_hardened (h : hardened ≤ child.index) :
    IsChild parent child ↔ IsHardenedChild parent child :=
  or_iff_left fun hnormal => absurd h (Int.not_le.mpr hnormal.upper)

theorem isChild_iff_normal (h : child.index < hardened) :
    IsChild parent child ↔ IsNormalChild parent child :=
  or_iff_right fun hhard => absurd hhard.lower (Int.not_le.mpr h)

theorem IsChild.range (h : IsChild parent child) :
    0 ≤ child.index ∧ child.index < 2 * hardened := by
  have hwidth : (0 : Int) < hardened := by decide
  rcases h with hhard | hnormal
  · exact ⟨Int.le_trans (Int.le_of_lt hwidth) hhard.lower, hhard.upper⟩
  · have hupper := hnormal.upper
    exact ⟨hnormal.lower, by omega⟩

theorem IsChild.depth (h : IsChild parent child) : child.depth = parent.depth + 1 := by
  rcases h with hhard | hnormal
  · exact congrArg Node.depth hhard.grown
  · obtain ⟨key, _, hgrown⟩ := hnormal.grown
    exact congrArg Node.depth hgrown

theorem indexBytes_eq_ok_iff {bs : Bytes} :
    indexBytes index = .ok bs ↔
      0 ≤ index ∧ index < 2 * hardened ∧ Bytes.ofNatBE 4 index.toNat = bs := by
  unfold indexBytes
  split
  · rename_i hrange
    rw [Except.ok.injEq]
    exact ⟨fun h => ⟨hrange.1, hrange.2, h⟩, fun h => h.2.2⟩
  · rename_i hrange
    exact ⟨nofun, fun h => absurd ⟨h.1, h.2.1⟩ hrange⟩

theorem childData_hardened_iff {data : Bytes} (h : hardened ≤ index) :
    parent.childData index = .ok data ↔ index < 2 * hardened ∧
      0 :: (parent.privateKey ++ Bytes.ofNatBE 4 index.toNat) = data := by
  unfold childData
  rw [if_pos h, bind_ok_iff]
  constructor
  · rintro ⟨suffix, hsuffix, hdata⟩
    obtain ⟨_, hupper, rfl⟩ := indexBytes_eq_ok_iff.mp hsuffix
    exact ⟨hupper, Except.ok.inj hdata⟩
  · rintro ⟨hupper, rfl⟩
    have hlower : 0 ≤ index := Int.le_trans (by decide) h
    exact ⟨_, indexBytes_eq_ok_iff.mpr ⟨hlower, hupper, rfl⟩, rfl⟩

theorem childData_normal_iff {data : Bytes} (h : index < hardened) :
    parent.childData index = .ok data ↔ 0 ≤ index ∧
      ∃ key, parent.publicKey = .ok key ∧ key ++ Bytes.ofNatBE 4 index.toNat = data := by
  unfold childData
  rw [if_neg (Int.not_le.mpr h), bind_ok_iff]
  constructor
  · rintro ⟨key, hkey, hdata⟩
    obtain ⟨suffix, hsuffix, hdata⟩ := bind_ok_iff.mp hdata
    obtain ⟨hlower, _, rfl⟩ := indexBytes_eq_ok_iff.mp hsuffix
    exact ⟨hlower, key, hkey, Except.ok.inj hdata⟩
  · rintro ⟨hlower, key, hkey, rfl⟩
    have hupper : index < 2 * hardened := Int.lt_trans h (by decide)
    exact ⟨key, hkey, bind_ok_iff.mpr ⟨_, indexBytes_eq_ok_iff.mpr ⟨hlower, hupper, rfl⟩, rfl⟩⟩

/-- A child is found for an index of either half; for one of the lower half the parent needs a
public key. -/
theorem child_eq_ok_iff :
    parent.child index = .ok child ↔ child.index = index ∧ IsChild parent child := by
  have hchild : parent.child index = .ok child ↔
      ∃ data, parent.childData index = .ok data ∧ parent.grown data index = child := by
    unfold Node.child
    rw [bind_ok_iff]
    exact exists_congr fun data => and_congr_right fun _ => ⟨Except.ok.inj, congrArg Except.ok⟩
  rw [hchild]
  constructor
  · rintro ⟨data, hdata, rfl⟩
    refine ⟨rfl, ?_⟩
    by_cases h : hardened ≤ index
    · obtain ⟨hupper, rfl⟩ := (childData_hardened_iff h).mp hdata
      exact .inl ⟨h, hupper, rfl⟩
    · obtain ⟨hlower, key, hkey, rfl⟩ := (childData_normal_iff (Int.not_le.mp h)).mp hdata
      exact .inr ⟨hlower, Int.not_le.mp h, key, hkey, rfl⟩
  · rintro ⟨rfl, hhard | hnormal⟩
    · exact ⟨_, (childData_hardened_iff hhard.lower).mpr ⟨hhard.upper, rfl⟩, hhard.grown.symm⟩
    · obtain ⟨key, hkey, hgrown⟩ := hnormal.grown
      exact ⟨_, (childData_normal_iff hnormal.upper).mpr ⟨hnormal.lower, key, hkey, rfl⟩,
        hgrown.symm⟩

/-! ## Components -/

/-- Whether a component ends with an apostrophe. -/
def IsMarked (component : Text) : Prop :=
  component.points.getLast? = some (.char '\'')

instance (component : Text) : Decidable (IsMarked component) :=
  inferInstanceAs (Decidable (_ = _))

/-- The number in a component, without its apostrophe. -/
def number? (component : Text) : Option Int :=
  Numeral.toInt? ⟨if IsMarked component then component.points.dropLast else component.points⟩

/-- The lowest index of the half that a component asks for. -/
def base (component : Text) : Int :=
  if IsMarked component then hardened else 0

/-- A component whose number reaches into the half of the indices that it does not ask for. -/
def IsStray (component : Text) : Prop :=
  ∃ n, number? component = some n ∧ if IsMarked component then n < 0 else hardened ≤ n

theorem componentIndex_eq_ok_iff :
    componentIndex component = .ok index ↔ number? component = some (index - base component) := by
  unfold componentIndex number? base
  by_cases h : IsMarked component
  · have hmark : (component.points.getLast? == some (.char '\'')) = true := beq_iff_eq.mpr h
    simp only [hmark, if_pos h, if_true]
    cases Numeral.toInt? ⟨component.points.dropLast⟩ with
    | none => exact iff_of_false nofun nofun
    | some n =>
        rw [Except.ok.injEq, Option.some.injEq]
        omega
  · have hmark : (component.points.getLast? == some (.char '\'')) = false :=
      beq_eq_false_iff_ne.mpr h
    simp only [hmark, if_neg h, Bool.false_eq_true, if_false]
    cases Numeral.toInt? ⟨component.points⟩ with
    | none => exact iff_of_false nofun nofun
    | some n =>
        rw [Except.ok.injEq, Option.some.injEq]
        omega

theorem isStray_iff (h : number? component = some (index - base component)) :
    IsStray component ↔ if IsMarked component then index < hardened else hardened ≤ index := by
  unfold IsStray
  simp only [h, Option.some.injEq, exists_eq_left', base]
  split
  · omega
  · omega

example : IsStray (.ofString "-1'") := ⟨-1, rfl, by decide⟩

example : IsStray (.ofString "2147483648") := ⟨hardened, rfl, by decide⟩

/-! ## Paths -/

/-- A step down a path: to the child that the component asks for, or to one of the other half if
the component is astray. -/
structure IsStep (component : Text) (parent child : Node) : Prop where
  number : number? component = some (child.index - base component)
  straight : ¬IsStray component →
    if IsMarked component then IsHardenedChild parent child else IsNormalChild parent child
  astray : IsStray component →
    if IsMarked component then IsNormalChild parent child else IsHardenedChild parent child

theorem isStep_iff :
    IsStep component parent child ↔
      number? component = some (child.index - base component) ∧ IsChild parent child := by
  constructor
  · intro h
    refine ⟨h.number, ?_⟩
    by_cases hstray : IsStray component
    · have hkind := h.astray hstray
      split at hkind
      · exact .inr hkind
      · exact .inl hkind
    · have hkind := h.straight hstray
      split at hkind
      · exact .inl hkind
      · exact .inr hkind
  · rintro ⟨hnumber, hchild⟩
    refine ⟨hnumber, fun hstray => ?_, fun hstray => ?_⟩
    · rw [isStray_iff hnumber] at hstray
      split
      · rename_i hmark
        rw [if_pos hmark] at hstray
        exact (isChild_iff_hardened (Int.not_lt.mp hstray)).mp hchild
      · rename_i hmark
        rw [if_neg hmark] at hstray
        exact (isChild_iff_normal (Int.not_le.mp hstray)).mp hchild
    · rw [isStray_iff hnumber] at hstray
      split
      · rename_i hmark
        rw [if_pos hmark] at hstray
        exact (isChild_iff_normal hstray).mp hchild
      · rename_i hmark
        rw [if_neg hmark] at hstray
        exact (isChild_iff_hardened hstray).mp hchild

theorem step_eq_ok_iff :
    (componentIndex component >>= parent.child) = .ok child ↔ IsStep component parent child := by
  rw [bind_ok_iff, isStep_iff]
  constructor
  · rintro ⟨index, hindex, hchild⟩
    obtain ⟨rfl, hkind⟩ := child_eq_ok_iff.mp hchild
    exact ⟨componentIndex_eq_ok_iff.mp hindex, hkind⟩
  · rintro ⟨hnumber, hkind⟩
    exact ⟨child.index, componentIndex_eq_ok_iff.mpr hnumber, child_eq_ok_iff.mpr ⟨rfl, hkind⟩⟩

theorem IsStep.depth (h : IsStep component parent child) : child.depth = parent.depth + 1 :=
  (isStep_iff.mp h).2.depth

/-- A line of nodes down the tree, one step for each component, from left to right. -/
inductive Descent : Node → List Text → List Node → Prop
  | nil (node : Node) : Descent node [] []
  | cons {node child : Node} {component : Text} {components : List Text} {line : List Node} :
      IsStep component node child → Descent child components line →
      Descent node (component :: components) (child :: line)

theorem follow_eq_ok_iff :
    node.follow components = .ok last ↔
      ∃ line, Descent node components line ∧ line.getLastD node = last := by
  induction components generalizing node with
  | nil =>
      constructor
      · intro h
        exact ⟨[], .nil node, Except.ok.inj h⟩
      · rintro ⟨_, ⟨⟩, rfl⟩
        rfl
  | cons component components ih =>
      have hfollow : node.follow (component :: components) =
          (componentIndex component >>= node.child) >>= fun next => next.follow components := by
        rw [follow]
        cases componentIndex component <;> rfl
      rw [hfollow, bind_ok_iff]
      constructor
      · rintro ⟨next, hnext, hrest⟩
        obtain ⟨line, hline, hlast⟩ := ih.mp hrest
        refine ⟨next :: line, .cons (step_eq_ok_iff.mp hnext) hline, ?_⟩
        rw [List.getLastD_cons, hlast]
      · rintro ⟨_, ⟨⟩ | ⟨hstep, hline⟩, hlast⟩
        rw [List.getLastD_cons] at hlast
        exact ⟨_, step_eq_ok_iff.mpr hstep, ih.mpr ⟨_, hline, hlast⟩⟩

theorem Descent.length (h : Descent node components line) : line.length = components.length := by
  induction h with
  | nil => rfl
  | cons _ _ ih => rw [List.length_cons, List.length_cons, ih]

theorem Descent.depth (h : Descent node components line) :
    (line.getLastD node).depth = node.depth + components.length := by
  induction h with
  | nil => exact (Int.add_zero _).symm
  | cons hstep _ ih =>
      rw [List.getLastD_cons, ih, hstep.depth, List.length_cons]
      omega

/-- The components of a path; there is none in the path of the root. -/
def steps (path : Text) : List Text :=
  if path = "m" then [] else Node.components path

theorem walk_eq_ok_iff {path : Text} :
    node.walk path = .ok last ↔
      ∃ line, Descent node (steps path) line ∧ line.getLastD node = last := by
  rw [← follow_eq_ok_iff]
  unfold walk steps
  split
  · exact Iff.rfl
  · exact Iff.rfl

/-! ## Written numbers -/

section Written

variable {n : Int} (hnumber : number? component = Numeral.toInt? (toString n))

include hnumber

/-- A component that a number is written in leads to the child with that number. A child's index
is small enough to be read back. -/
theorem isStep_written_iff :
    IsStep component parent child ↔ child.index = base component + n ∧ IsChild parent child := by
  rw [isStep_iff, hnumber]
  constructor
  · rintro ⟨hread, hchild⟩
    have hsame := Numeral.eq_of_toInt?_toString hread
    exact ⟨by omega, hchild⟩
  · rintro ⟨hindex, hchild⟩
    obtain ⟨hlower, hupper⟩ := hchild.range
    have hbase : base component = 0 ∨ base component = hardened := by
      unfold base
      split
      · exact .inr rfl
      · exact .inl rfl
    have hwritable : Numeral.isWritable n = true := by
      have hsmall : n.natAbs < 10 ^ 10 := by
        unfold hardened at *
        omega
      have hwide : ∀ k : Nat, 10 ≤ k → n.natAbs < Nat.pow 10 k :=
        fun k hk => Nat.lt_of_lt_of_le hsmall (Nat.pow_le_pow_right (by decide) hk)
      exact decide_eq_true (hwide Numeral.maxDigits (by decide))
    refine ⟨?_, hchild⟩
    rw [Numeral.toInt?_toString hwritable, Option.some.injEq]
    omega

theorem isStep_marked_iff (hmark : IsMarked component) :
    IsStep component parent child ↔ child.index = hardened + n ∧
      if 0 ≤ n then IsHardenedChild parent child else IsNormalChild parent child := by
  rw [isStep_written_iff hnumber, base, if_pos hmark]
  refine and_congr_right fun hindex => ?_
  split
  · exact isChild_iff_hardened (by omega)
  · exact isChild_iff_normal (by omega)

theorem isStep_unmarked_iff (hmark : ¬IsMarked component) :
    IsStep component parent child ↔ child.index = n ∧
      if n < hardened then IsNormalChild parent child else IsHardenedChild parent child := by
  rw [isStep_written_iff hnumber, base, if_neg hmark, Int.zero_add]
  refine and_congr_right fun hindex => ?_
  split
  · exact isChild_iff_normal (by omega)
  · exact isChild_iff_hardened (by omega)

end Written

/-! ## Paths of wallets -/

section WalletPath

variable {account account' : Int}

/-- The digits of a number and its sign, as code points. -/
def numeral (n : Int) : List Text.CodePoint :=
  (toString n).toList.map .char

theorem char_notMem_numeral {n : Int} {c : Char} (h : ¬Numeral.IsWritten c) :
    .char c ∉ numeral n := by
  intro hmem
  obtain ⟨d, hd, heq⟩ := List.mem_map.mp hmem
  obtain rfl := Text.CodePoint.char.inj heq
  exact h (Numeral.isWritten_of_mem hd)

/-- The component of an account. -/
def accountComponent (account : Int) : Text :=
  ⟨numeral account ++ [.char '\'']⟩

/-- The component of an index. -/
def indexComponent (index : Int) : Text :=
  ⟨numeral index⟩

theorem components_root (ps : List Text.CodePoint) :
    Node.components ⟨.char 'm' :: .char '/' :: ps⟩ = Text.pieces '/' ⟨ps⟩ :=
  rfl

theorem steps_walletPath (account index : Int) :
    steps (walletPath account index) =
      [.ofString "44'", .ofString "1815'", accountComponent account, .ofString "0",
        indexComponent index] := by
  have hpath : (walletPath account index : Text) = ⟨.char 'm' :: .char '/' ::
      ((Text.ofString "44'").points ++ .char '/' :: ((Text.ofString "1815'").points ++
        .char '/' :: ((numeral account ++ [.char '\'']) ++
          .char '/' :: ((Text.ofString "0").points ++ .char '/' :: numeral index))))⟩ := by
    unfold walletPath Text.ofString Text.ofChars numeral
    simp only [String.toList_append, List.map_append]
    simp
  have hslash : ∀ n : Int, .char '/' ∉ numeral n := fun n => char_notMem_numeral (by decide)
  have hroot : ¬(walletPath account index : Text) = "m" := by
    rw [hpath]
    exact fun h => absurd (congrArg (·.points.length) h) (by simp [Text.ofString, Text.ofChars])
  unfold steps
  rw [if_neg hroot, hpath, components_root]
  rw [Text.pieces_append (by decide), Text.pieces_append (by decide), Text.pieces_append,
    Text.pieces_append (by decide), Text.pieces_of_notMem (hslash index)]
  · rfl
  · rw [List.mem_append, not_or]
    exact ⟨hslash account, by decide⟩

theorem isMarked_account : IsMarked (accountComponent account) :=
  List.getLast?_concat

theorem number?_account :
    number? (accountComponent account) = Numeral.toInt? (toString account) := by
  unfold number?
  rw [if_pos isMarked_account]
  unfold accountComponent
  rw [List.dropLast_concat]
  rfl

theorem not_isMarked_index : ¬IsMarked (indexComponent index) :=
  fun h => char_notMem_numeral (by decide) (List.mem_of_getLast? h)

theorem number?_index :
    number? (indexComponent index) = Numeral.toInt? (toString index) := by
  unfold number?
  rw [if_neg not_isMarked_index]
  rfl

/-- The indices along the path of a wallet. -/
def walletIndices (account index : Int) : List Int :=
  [hardened + 44, hardened + 1815, hardened + account, 0, index]

theorem walletIndices_inj {index' : Int} :
    walletIndices account index = walletIndices account' index' ↔
      account = account' ∧ index = index' := by
  constructor
  · intro h
    simp only [walletIndices, List.cons.injEq] at h
    omega
  · rintro ⟨rfl, rfl⟩
    rfl

/-- The five nodes down the path of a wallet. The account level is hardened for accounts from zero
on, and the index level is normal for indices below those of hardened children. -/
structure IsWalletLine (account index : Int) (node purpose coin wallet chain leaf : Node) :
    Prop where
  indices : [purpose, coin, wallet, chain, leaf].map (·.index) = walletIndices account index
  first : IsHardenedChild node purpose
  second : IsHardenedChild purpose coin
  third : if 0 ≤ account then IsHardenedChild coin wallet else IsNormalChild coin wallet
  fourth : IsNormalChild wallet chain
  fifth : if index < hardened then IsNormalChild chain leaf else IsHardenedChild chain leaf

theorem descent_walletPath_iff :
    Descent node (steps (walletPath account index)) line ↔
      ∃ purpose coin wallet chain leaf, line = [purpose, coin, wallet, chain, leaf] ∧
        IsWalletLine account index node purpose coin wallet chain leaf := by
  have hpurpose : ∀ {parent child : Node}, IsStep (.ofString "44'") parent child ↔
      child.index = hardened + 44 ∧ IsHardenedChild parent child := by
    intro parent child
    rw [@isStep_marked_iff _ _ _ 44 rfl (by decide), if_pos (by decide)]
  have hcoin : ∀ {parent child : Node}, IsStep (.ofString "1815'") parent child ↔
      child.index = hardened + 1815 ∧ IsHardenedChild parent child := by
    intro parent child
    rw [@isStep_marked_iff _ _ _ 1815 rfl (by decide), if_pos (by decide)]
  have hchain : ∀ {parent child : Node}, IsStep (.ofString "0") parent child ↔
      child.index = 0 ∧ IsNormalChild parent child := by
    intro parent child
    rw [@isStep_unmarked_iff _ _ _ 0 rfl (by decide), if_pos (by decide)]
  rw [steps_walletPath]
  constructor
  · intro h
    obtain _ | ⟨h₁, h⟩ := h
    obtain _ | ⟨h₂, h⟩ := h
    obtain _ | ⟨h₃, h⟩ := h
    obtain _ | ⟨h₄, h⟩ := h
    obtain _ | ⟨h₅, h⟩ := h
    obtain _ | _ := h
    obtain ⟨hindex₁, hkind₁⟩ := hpurpose.mp h₁
    obtain ⟨hindex₂, hkind₂⟩ := hcoin.mp h₂
    obtain ⟨hindex₃, hkind₃⟩ := (isStep_marked_iff number?_account isMarked_account).mp h₃
    obtain ⟨hindex₄, hkind₄⟩ := hchain.mp h₄
    obtain ⟨hindex₅, hkind₅⟩ := (isStep_unmarked_iff number?_index not_isMarked_index).mp h₅
    refine ⟨_, _, _, _, _, rfl, ?_, hkind₁, hkind₂, hkind₃, hkind₄, hkind₅⟩
    simp only [List.map_cons, List.map_nil, walletIndices, hindex₁, hindex₂, hindex₃, hindex₄,
      hindex₅]
  · rintro ⟨purpose, coin, wallet, chain, leaf, rfl, h⟩
    have hindices := h.indices
    simp only [List.map_cons, List.map_nil, walletIndices, List.cons.injEq, and_true] at hindices
    obtain ⟨hindex₁, hindex₂, hindex₃, hindex₄, hindex₅⟩ := hindices
    exact .cons (hpurpose.mpr ⟨hindex₁, h.first⟩) (.cons (hcoin.mpr ⟨hindex₂, h.second⟩)
      (.cons ((isStep_marked_iff number?_account isMarked_account).mpr ⟨hindex₃, h.third⟩)
        (.cons (hchain.mpr ⟨hindex₄, h.fourth⟩)
          (.cons ((isStep_unmarked_iff number?_index not_isMarked_index).mpr ⟨hindex₅, h.fifth⟩)
            (.nil leaf)))))

end WalletPath

/-- **A path keeps the meaning of its notation unless it goes astray.** A path leads to a node
exactly if a line of nodes leads there, one child deeper for each component from left to right: a
hardened child for a component with an apostrophe and a normal one for any other, except that a
component whose number reaches into the other half of the indices gets a child of that half. So
along the path of a wallet the account level is hardened exactly for accounts from zero on, and
the index level is normal exactly below the indices of hardened children; and the indices along
the path always tell the account and the index. -/
theorem walk_as_marked_unless_stray (node : Node) (path : Text) (account index : Int) :
    (∀ last, node.walk path = .ok last ↔
      ∃ line, Descent node (steps path) line ∧ line.getLastD node = last) ∧
    (∀ line, Descent node (steps path) line →
      line.length = (steps path).length ∧
      (line.getLastD node).depth = node.depth + (steps path).length) ∧
    (∀ line, Descent node (steps (walletPath account index)) line ↔
      ∃ purpose coin wallet chain leaf, line = [purpose, coin, wallet, chain, leaf] ∧
        IsWalletLine account index node purpose coin wallet chain leaf) ∧
    ∀ account' index', walletIndices account index = walletIndices account' index' ↔
      account = account' ∧ index = index' :=
  ⟨fun _ => walk_eq_ok_iff, fun _ h => ⟨h.length, h.depth⟩, fun _ => descent_walletPath_iff,
    fun _ _ => walletIndices_inj⟩

/-- The node with the least signing key. -/
def least : Node :=
  { privateKey := List.replicate 31 0 ++ [1], chainCode := List.replicate 32 0 }

/-- A negative number with an apostrophe leads to a normal child. -/
theorem walk_as_marked_unless_stray_least :
    ∃ child, least.walk "m/-1'" = .ok child ∧ IsNormalChild least child ∧ child.depth = 1 := by
  obtain ⟨hwalk, hline, _⟩ := walk_as_marked_unless_stray least "m/-1'" (-1) 0
  have hsucceeds : (least.walk "m/-1'").toBool = true := by decide +kernel
  cases hresult : least.walk "m/-1'" with
  | error e => cases hresult ▸ hsucceeds
  | ok child =>
      obtain ⟨line, hdescent, hlast⟩ := (hwalk child).mp hresult
      have hdepth := (hline line hdescent).2
      obtain _ | ⟨hstep, hdescent⟩ := hdescent
      obtain _ | _ := hdescent
      obtain rfl := hlast
      exact ⟨_, rfl, hstep.astray ⟨-1, rfl, by decide⟩, hdepth⟩

end BallotWallet.Key.Node
