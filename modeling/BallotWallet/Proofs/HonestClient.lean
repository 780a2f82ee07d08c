import BallotWallet.Proofs.Decoding
import BallotWallet.Proofs.HonestNode
import BallotWallet.Proofs.Outcome

/-!
# Honest clients

What a client has to do for an honest node to stand behind it: the node takes what it is handed at
the counter and the cost of the transaction, or refuses it, and its log is true. A node that reads
the fragments that it is handed can do so.
-/

namespace BallotWallet

/-- What the bytes of a signed transaction are read as. -/
def Transaction.readBack (tx : Transaction) (identity : Key.Identity) : Fragment :=
  { tx.signedBy identity with transaction := tx.paired }

namespace Wallet

open BallotWallet.Action

variable {ω : Type}

theorem Office.exists_built {office : Office ω} {txs : List Transaction} {rs : List Reservation}
    (h : List.Forall₂ office.Builds txs rs) {tx : Transaction} (htx : tx ∈ txs) :
    ∃ r, office.Builds tx r := by
  induction h with
  | nil => cases htx
  | cons hhead _ ih =>
      rcases List.mem_cons.mp htx with rfl | htx
      · exact ⟨_, hhead⟩
      · exact ih htx

/-- The client of an office leads to an honest node, which is a part of the world. -/
structure Honest (office : Office ω) (view : ω → Node) : Prop where
  answers : ∀ {txs : List Transaction} {request : Action ω (List Text)} (world : ω),
    (∀ tx ∈ txs, tx.isWritable = true ∧ ∃ r, office.Builds tx r) →
    Submission.Request office.client (txs.map fun tx => (tx.signedBy office.identity).bytes)
      request →
    (view world).Answers txs (request.effect world).1 (view (request.effect world).2)
  log_view : ∀ world, view (office.client.fragmentLogs.effect world).2 = view world
  log_wrote : ∀ world logs, (view world).ids.Nodup →
    (office.client.fragmentLogs.effect world).1 = .ok logs → (view world).Wrote logs

/-! ## A node that reads -/

namespace Node

/-- An identifier that no fragment has: it is longer than all of them together. -/
def freshId (node : Node) : Text :=
  ⟨.char 'a' :: (node.ids.map (·.points)).flatten⟩

theorem freshId_not_mem (node : Node) : node.freshId ∉ node.ids := by
  intro hmem
  have hpoints : node.freshId.points ∈ node.ids.map (·.points) := List.mem_map_of_mem hmem
  have hle := (List.sublist_flatten_of_mem hpoints).length_le
  unfold freshId at hle
  rw [List.length_cons] at hle
  omega

/-- What a node takes a fragment as. -/
def entryOf (node : Node) (fragment : Fragment) : Entry where
  id := node.freshId
  counter := fragment.transaction.counter
  cost := fragment.transaction.cost

/-- The identifiers that a node gives to fragments, and the node that has taken them. -/
def accept : List Fragment → Node → List Text × Node
  | [], node => ([], node)
  | fragment :: fragments, node =>
    let rest := accept fragments (node.take (node.entryOf fragment))
    (node.freshId :: rest.1, rest.2)

/-- The fragments that some bytes are. -/
def readAll : List Bytes → Except Failure (List Fragment)
  | [] => .ok []
  | bytes :: rest => do return (← Fragment.parse bytes) :: (← readAll rest)

/-- Hands bytes to a node. -/
def hand (fragments : List Bytes) : Action Node (List Text) := do
  let read ← readAll fragments
  Action.step fun node => (.ok (accept read node).1, (accept read node).2)

/-- The fragment log of a node. -/
def logs (node : Node) : FragmentLogs :=
  node.entries.map fun e => { id := e.id, status := e.status }

theorem wrote_logs {node : Node} (hids : node.ids.Nodup) : node.Wrote node.logs := by
  intro e he status hstatus
  right
  unfold FragmentLogs.status? at hstatus
  obtain ⟨found, hfound, rfl⟩ := Option.map_eq_some_iff.mp hstatus
  have hid : found.id = e.id := by simpa using List.find?_some hfound
  obtain ⟨x, hx, rfl⟩ := List.mem_map.mp (List.mem_of_find?_eq_some hfound)
  obtain rfl := eq_of_id hids he hx hid
  rfl

theorem accept_taken (node : Node) {txs : List Transaction} {fragments : List Fragment}
    (h : List.Forall₂ (fun tx fragment => tx.counter = fragment.transaction.counter ∧
      tx.cost = fragment.transaction.cost) txs fragments) :
    ∃ ids, accept fragments node = (ids, node.takeAll ids txs) ∧ ids.length = txs.length ∧
      ids.Nodup ∧ ∀ id ∈ ids, id ∉ node.ids := by
  induction h generalizing node with
  | nil => exact ⟨[], rfl, rfl, List.nodup_nil, by simp⟩
  | @cons tx fragment txs fragments hhead _ ih =>
      obtain ⟨ids, haccept, hlen, hnodup, hnew⟩ := ih (node.take (node.entryOf fragment))
      -- the others were named by a node that has this one already
      have hlater : ∀ id ∈ ids, id ∉ node.ids ∧ id ≠ node.freshId := by
        intro id hid
        have hnot := hnew id hid
        rw [take_ids, List.mem_append, List.mem_singleton, not_or] at hnot
        exact hnot
      refine ⟨node.freshId :: ids, ?_, by simp [hlen], ?_, ?_⟩
      · unfold accept takeAll
        rw [haccept, hhead.1, hhead.2]
        rfl
      · exact List.nodup_cons.mpr ⟨fun hmem => (hlater _ hmem).2 rfl, hnodup⟩
      · intro id hid
        rcases List.mem_cons.mp hid with rfl | hid
        · exact node.freshId_not_mem
        · exact (hlater id hid).1

end Node

/-- The client of a node that reads what it is handed. -/
def bookkeeper : Ledger.Client Node where
  text := "bookkeeper"
  settings := pure {}
  accountState := fun _ => do
    let node ← get
    return { value := node.value, counter := node.counter }
  submit := fun fragment => (·.headD "") <$> Node.hand [fragment]
  submitAll := Node.hand
  fragmentLogs := Node.logs <$> get
  proposals := pure []
  voteStatuses := fun _ => pure []

theorem Office.Builds.parse_signed {office : Office ω} {tx : Transaction} {r : Reservation}
    (h : office.Builds tx r) {hash : Text} (hhash : office.settings.block0Hash = .text hash)
    (hw : tx.isWritable = true) :
    Fragment.parse (tx.signedBy office.identity).bytes = .ok (tx.readBack office.identity) :=
  Fragment.parse_bytes (h.plain hhash) hw

theorem Office.readAll_signed {office : Office ω} {hash : Text}
    (hhash : office.settings.block0Hash = .text hash) {txs : List Transaction}
    (h : ∀ tx ∈ txs, tx.isWritable = true ∧ ∃ r, office.Builds tx r) :
    ∃ fragments, Node.readAll (txs.map fun tx => (tx.signedBy office.identity).bytes) =
        .ok fragments ∧
      List.Forall₂ (fun tx fragment => tx.counter = fragment.transaction.counter ∧
        tx.cost = fragment.transaction.cost) txs fragments := by
  induction txs with
  | nil => exact ⟨[], rfl, .nil⟩
  | cons tx txs ih =>
      obtain ⟨hw, r, hbuilds⟩ := h tx List.mem_cons_self
      obtain ⟨fragments, hread, hsame⟩ := ih fun tx htx => h tx (List.mem_cons_of_mem _ htx)
      refine ⟨tx.readBack office.identity :: fragments, ?_, .cons ⟨rfl, rfl⟩ hsame⟩
      rw [List.map_cons, Node.readAll, hbuilds.parse_signed hhash hw, hread]
      rfl

theorem effect_hand {office : Office ω} {hash : Text}
    (hhash : office.settings.block0Hash = .text hash) {txs : List Transaction}
    (h : ∀ tx ∈ txs, tx.isWritable = true ∧ ∃ r, office.Builds tx r) (node : Node) :
    ∃ ids, (Node.hand (txs.map fun tx => (tx.signedBy office.identity).bytes)).effect node =
        (.ok ids, node.takeAll ids txs) ∧ ids.length = txs.length ∧ ids.Nodup ∧
      ∀ id ∈ ids, id ∉ node.ids := by
  obtain ⟨fragments, hread, hsame⟩ := Office.readAll_signed hhash h
  obtain ⟨ids, haccept, hids⟩ := node.accept_taken hsame
  refine ⟨ids, ?_, hids⟩
  unfold Node.hand
  rw [effect_lift_ok hread, effect_step, haccept]

theorem effect_bookkeeper_submit {office : Office ω} {hash : Text}
    (hhash : office.settings.block0Hash = .text hash) {tx : Transaction}
    (hw : tx.isWritable = true) {r : Reservation} (hbuilds : office.Builds tx r) (node : Node) :
    (bookkeeper.submit (tx.signedBy office.identity).bytes).effect node =
      (.ok node.freshId,
        node.take { id := node.freshId, counter := tx.counter, cost := tx.cost }) := by
  have hread : Node.readAll [(tx.signedBy office.identity).bytes] =
      .ok [tx.readBack office.identity] := by
    rw [Node.readAll, hbuilds.parse_signed hhash hw]
    rfl
  show ((·.headD "") <$> Node.hand [_]).effect node = _
  unfold Node.hand
  rw [effect_map, effect_lift_ok hread, effect_step]
  rfl

/-- A node that reads what it is handed is honest. -/
theorem bookkeeper_honest {office : Office Node} (hclient : office.client = bookkeeper)
    {hash : Text} (hhash : office.settings.block0Hash = .text hash) :
    Honest office fun node => node where
  answers := by
    intro txs request node hasked hrequest
    rw [hclient] at hrequest
    obtain ⟨ids, heffect, hlen, hnodup, hnew⟩ := effect_hand hhash hasked node
    have hcount : (txs.map fun tx => (tx.signedBy office.identity).bytes).length = txs.length :=
      List.length_map _
    generalize (txs.map fun tx => (tx.signedBy office.identity).bytes) = fragments at *
    cases hrequest with
    | one fragment =>
        obtain ⟨id, rfl⟩ : ∃ id, ids = [id] := List.length_eq_one_iff.mp (hlen.trans hcount.symm)
        have hsubmit : (bookkeeper.submit fragment).effect node =
            (.ok id, node.takeAll [id] txs) := by
          show ((·.headD "") <$> Node.hand [fragment]).effect node = _
          rw [effect_map, heffect]
          rfl
        rw [effect_map, hsubmit]
        exact .taken hlen hnodup hnew
    | many =>
        show node.Answers txs ((Node.hand fragments).effect node).1
          ((Node.hand fragments).effect node).2
        rw [heffect]
        exact .taken hlen hnodup hnew
  log_view := by
    intro node
    rw [hclient]
    rfl
  log_wrote := by
    intro node logs hids hlogs
    rw [hclient] at hlogs
    obtain rfl := Except.ok.inj hlogs
    exact Node.wrote_logs hids

end Wallet

end BallotWallet
