import BallotWallet.Ledger.Fragment
import BallotWallet.Transaction
import BallotWallet.Wallet.State
import Mathlib.Algebra.BigOperators.Group.List.Basic
import Mathlib.Algebra.Ring.Int.Defs
import Mathlib.Data.List.Nodup

/-!
# An honest node

A node that keeps an account by the rules: a fragment is executed when its counter is that of the
account, then its cost is taken and the counter goes up by one; a fragment that was not executed
may be rejected, and then never is. What fragments cost is summed up under conditions on them.
-/

namespace BallotWallet.Wallet

/-! ## The node -/

/-- A fragment that a node has taken. -/
structure Entry where
  id : Text
  counter : Int
  cost : Int
  status : FragmentStatus := .pending
  deriving DecidableEq

namespace Entry

/-- Whether a fragment was executed. -/
def executed (e : Entry) : Bool :=
  match e.status with
  | .inABlock _ _ => true
  | _ => false

/-- What a wallet holds for a fragment that the node has not executed. -/
def reservation (e : Entry) : Reservation :=
  { counter := some e.counter, value := e.cost }

/-- The fragment after the status of one fragment was logged. -/
def logged (id : Text) (status : FragmentStatus) (e : Entry) : Entry :=
  if e.id = id then { e with status := status } else e

variable (id : Text) (status : FragmentStatus) (e : Entry)

@[simp] theorem logged_id : (e.logged id status).id = e.id := by
  unfold logged
  split <;> rfl

@[simp] theorem logged_counter : (e.logged id status).counter = e.counter := by
  unfold logged
  split <;> rfl

@[simp] theorem logged_cost : (e.logged id status).cost = e.cost := by
  unfold logged
  split <;> rfl

@[simp] theorem logged_reservation : (e.logged id status).reservation = e.reservation := by
  simp [reservation]

variable {id status e}

theorem logged_of_ne (h : e.id ≠ id) : e.logged id status = e :=
  if_neg h

theorem logged_of_eq (h : e.id = id) : e.logged id status = { e with status := status } :=
  if_pos h

theorem executed_of_inABlock {date : Option BlockDate} {block : Text}
    (h : e.status = .inABlock date block) : e.executed = true := by
  unfold executed
  rw [h]

theorem not_executed_of_pending (h : e.status = .pending) : ¬ e.executed = true := by
  unfold executed
  rw [h]
  exact Bool.false_ne_true

theorem not_executed_of_rejected {reason : Text} (h : e.status = .rejected reason) :
    ¬ e.executed = true := by
  unfold executed
  rw [h]
  exact Bool.false_ne_true

end Entry

/-- An account at a node, and the fragments that were submitted for it, in their order. -/
structure Node where
  value : Int
  counter : Int
  entries : List Entry := []

namespace Node

variable {node : Node} {e : Entry}

/-- The identifiers of the fragments. -/
def ids (node : Node) : List Text :=
  node.entries.map (·.id)

/-- A node that takes one more fragment. -/
def take (node : Node) (e : Entry) : Node :=
  { node with entries := node.entries ++ [e] }

/-- A node that logs the status of a fragment. -/
def log (node : Node) (id : Text) (status : FragmentStatus) : Node :=
  { node with entries := node.entries.map (·.logged id status) }

/-- A node that executes a fragment in a block. -/
def execute (node : Node) (e : Entry) (date : Option BlockDate) (block : Text) : Node :=
  { node.log e.id (.inABlock date block) with
    value := node.value - e.cost
    counter := node.counter + 1 }

/-- What a node may do by itself at any time. -/
inductive Acts (node : Node) : Node → Prop
  | execute {e : Entry} (date : Option BlockDate) (block : Text) :
      e ∈ node.entries → e.status = .pending → e.counter = node.counter →
      Acts node (node.execute e date block)
  | reject {e : Entry} (reason : Text) :
      e ∈ node.entries → e.status = .pending → Acts node (node.log e.id (.rejected reason))

@[simp] theorem log_ids (id : Text) (status : FragmentStatus) :
    (node.log id status).ids = node.ids := by
  unfold ids log
  rw [List.map_map]
  exact List.map_congr_left fun e _ => Entry.logged_id id status e

@[simp] theorem take_ids (e : Entry) : (node.take e).ids = node.ids ++ [e.id] := by
  simp [ids, take]

theorem eq_of_id (hids : node.ids.Nodup) {e' : Entry} (he : e ∈ node.entries)
    (he' : e' ∈ node.entries) (h : e'.id = e.id) : e' = e :=
  List.inj_on_of_nodup_map hids he' he h

/-! ## What a node says -/

/-- A node that takes transactions under the identifiers that it gives them. -/
def takeAll (node : Node) : List Text → List Transaction → Node
  | id :: ids, tx :: txs =>
    takeAll (node.take { id := id, counter := tx.counter, cost := tx.cost }) ids txs
  | _, _ => node

/-- What a node answers to transactions that it is handed, and what it is afterwards. It takes all
of them under new identifiers, or none. -/
inductive Answers (node : Node) (txs : List Transaction) :
    Except Failure (List Text) → Node → Prop
  | taken {ids : List Text} : ids.length = txs.length → ids.Nodup → (∀ id ∈ ids, id ∉ node.ids) →
      Answers node txs (.ok ids) (node.takeAll ids txs)
  | refused (e : Failure) : Answers node txs (.error e) node

/-- A log that is true of a node. It may be behind the node, but it does not make anything up. -/
def Wrote (node : Node) (logs : FragmentLogs) : Prop :=
  ∀ e ∈ node.entries, ∀ status, logs.status? e.id = some status →
    status = .pending ∨ status = e.status

/-! ## Costs -/

/-- The cost of the fragments that satisfy a condition. -/
def cost (node : Node) (p : Entry → Prop) [DecidablePred p] : Int :=
  (node.entries.map fun e => if p e then e.cost else 0).sum

variable {p q : Entry → Prop} [DecidablePred p] [DecidablePred q]

theorem cost_congr (h : ∀ e ∈ node.entries, p e ↔ q e) : node.cost p = node.cost q := by
  unfold cost
  congr 1
  refine List.map_congr_left fun e he => ?_
  simp only [h e he]

theorem cost_take (e : Entry) (p : Entry → Prop) [DecidablePred p] :
    (node.take e).cost p = node.cost p + if p e then e.cost else 0 := by
  simp [cost, take]

theorem cost_log (id : Text) (status : FragmentStatus) (p : Entry → Prop) [DecidablePred p] :
    (node.log id status).cost p = node.cost fun e => p (e.logged id status) := by
  unfold cost log
  rw [List.map_map]
  congr 1
  refine List.map_congr_left fun e _ => ?_
  simp only [Function.comp_apply, Entry.logged_cost]

/-- A condition that holds of one fragment more costs that fragment more. -/
theorem cost_eq_add (hids : node.ids.Nodup) (he : e ∈ node.entries) (hp : ¬ p e)
    (h : ∀ x ∈ node.entries, q x ↔ p x ∨ x.id = e.id) : node.cost q = node.cost p + e.cost := by
  obtain ⟨before, after, hsplit⟩ := List.append_of_mem he
  -- the two conditions differ on this fragment alone
  have hrest : ∀ x ∈ before ++ after, (q x ↔ p x) := by
    intro x hx
    have hx' : x ∈ node.entries := by
      rw [hsplit]
      simp only [List.mem_append, List.mem_cons] at hx ⊢
      rcases hx with hx | hx
      · exact Or.inl hx
      · exact Or.inr (Or.inr hx)
    have hne : x.id ≠ e.id := by
      unfold ids at hids
      rw [hsplit] at hids
      have hperm : ((before ++ e :: after).map (·.id)).Perm ((e :: (before ++ after)).map (·.id)) :=
        List.perm_middle.map _
      have hnodup := List.nodup_cons.mp (hperm.nodup_iff.mp hids)
      have hmem : x.id ∈ (before ++ after).map (·.id) := List.mem_map_of_mem hx
      intro heq
      rw [heq] at hmem
      exact hnodup.1 hmem
    rw [h x hx']
    exact ⟨fun hor => hor.resolve_right hne, Or.inl⟩
  have hsame : ∀ xs : List Entry, (∀ x ∈ xs, (q x ↔ p x)) →
      (xs.map fun x => if q x then x.cost else 0) =
        xs.map fun x => if p x then x.cost else 0 := by
    intro xs hxs
    refine List.map_congr_left fun x hx => ?_
    simp only [hxs x hx]
  have hq : q e := (h e he).mpr (Or.inr rfl)
  unfold cost
  rw [hsplit]
  simp only [List.map_append, List.map_cons, List.sum_append, List.sum_cons, if_pos hq, if_neg hp,
    hsame before fun x hx => hrest x (List.mem_append_left _ hx),
    hsame after fun x hx => hrest x (List.mem_append_right _ hx)]
  omega

theorem cost_execute (hids : node.ids.Nodup) (he : e ∈ node.entries) (hstatus : e.status = .pending)
    (date : Option BlockDate) (block : Text) :
    (node.execute e date block).cost (·.executed = true) =
      node.cost (·.executed = true) + e.cost := by
  show (node.log e.id (.inABlock date block)).cost (·.executed = true) = _
  rw [cost_log]
  refine cost_eq_add hids he (Entry.not_executed_of_pending hstatus) fun x hx => ?_
  by_cases hid : x.id = e.id
  · rw [Entry.logged_of_eq hid]
    exact ⟨fun _ => Or.inr hid, fun _ => Entry.executed_of_inABlock rfl⟩
  · rw [Entry.logged_of_ne hid]
    exact ⟨Or.inl, fun hor => hor.resolve_right hid⟩

theorem cost_reject (hids : node.ids.Nodup) (he : e ∈ node.entries) (hstatus : e.status = .pending)
    (reason : Text) :
    (node.log e.id (.rejected reason)).cost (·.executed = true) =
      node.cost (·.executed = true) := by
  rw [cost_log]
  refine cost_congr fun x hx => ?_
  by_cases hid : x.id = e.id
  · obtain rfl := eq_of_id hids he hx hid
    rw [Entry.logged_of_eq rfl]
    have hbefore := Entry.not_executed_of_pending hstatus
    exact ⟨fun hnow => absurd hnow (Entry.not_executed_of_rejected rfl),
      fun hthen => absurd hthen hbefore⟩
  · rw [Entry.logged_of_ne hid]

/-- What pending fragments take that the balance of the node does not contain yet. -/
theorem unapplied_eq_cost (hids : node.ids.Nodup) {ps : List (Text × Reservation)}
    (hnodup : (ps.map (·.1)).Nodup)
    (h : ∀ p ∈ ps, ∃ e ∈ node.entries, e.id = p.1 ∧ p.2.value = e.cost ∧
      (p.2.applied = true ↔ e.executed = true)) :
    State.unapplied ps = node.cost fun e => ¬ e.executed = true ∧ e.id ∈ ps.map (·.1) := by
  induction ps with
  | nil => simp [State.unapplied, cost]
  | cons p ps ih =>
      obtain ⟨hnew, hnodup⟩ := List.nodup_cons.mp hnodup
      obtain ⟨e, he, hid, hvalue, happlied⟩ := h p List.mem_cons_self
      have hrest := ih hnodup fun q hq => h q (List.mem_cons_of_mem _ hq)
      rw [State.unapplied, hrest, hvalue]
      -- an executed fragment adds nothing to either side
      by_cases hexecuted : e.executed = true
      · rw [if_pos (happlied.mpr hexecuted), Int.zero_add]
        refine cost_congr fun x hx => ?_
        rw [List.map_cons, List.mem_cons]
        refine and_congr_right fun hnot => ⟨Or.inr, fun hor => hor.resolve_left ?_⟩
        intro heq
        obtain rfl := eq_of_id hids he hx (heq.trans hid.symm)
        exact hnot hexecuted
      · rw [if_neg (fun ha => hexecuted (happlied.mp ha)), Int.add_comm]
        refine (cost_eq_add hids he ?_ fun x hx => ?_).symm
        · rintro ⟨_, hmem⟩
          rw [hid] at hmem
          exact hnew hmem
        · rw [List.map_cons, List.mem_cons, hid]
          constructor
          · rintro ⟨hnot, heq | hmem⟩
            · exact Or.inr heq
            · exact Or.inl ⟨hnot, hmem⟩
          · rintro (⟨hnot, hmem⟩ | heq)
            · exact ⟨hnot, Or.inr hmem⟩
            · obtain rfl := eq_of_id hids he hx (heq.trans hid.symm)
              exact ⟨hexecuted, Or.inl heq⟩

end Node

end BallotWallet.Wallet
