import BallotWallet.Proofs.Decoding
import BallotWallet.Proofs.Session

/-!
# Where pending fragments come from

A node is watched for the fragments that it is handed. Throughout a session, what was submitted
for a pending fragment by a transfer or a vote decodes to a transaction of the session's account,
signed by its identity, with the counter and the cost that are reserved for the fragment.
-/

namespace BallotWallet.Wallet

open BallotWallet.Action

variable {ω α : Type}

/-! ## Watching a node -/

/-- A world, and the fragments that were handed to the node in it, the latest call first. -/
structure Watched (ω : Type) where
  world : ω
  calls : List (List Bytes)

namespace Watched

/-- An action on the world that hands nothing to the node. -/
def lift (a : Action ω α) : Action (Watched ω) α :=
  a.zoom Watched.world fun world w => { w with world := world }

/-- An action on the world that hands fragments to the node. -/
def handing (fragments : List Bytes) (a : Action ω α) : Action (Watched ω) α :=
  a.zoom Watched.world fun world w => { world := world, calls := fragments :: w.calls }

/-- The client of a watched node, which answers as it does without being watched. -/
def client (client : Ledger.Client ω) : Ledger.Client (Watched ω) where
  text := client.text
  settings := lift client.settings
  accountState := fun account => lift (client.accountState account)
  submit := fun fragment => handing [fragment] (client.submit fragment)
  submitAll := fun fragments => handing fragments (client.submitAll fragments)
  fragmentLogs := lift client.fragmentLogs
  proposals := lift client.proposals
  voteStatuses := fun account => lift (client.voteStatuses account)

/-- What a wallet finds in a watched world. -/
def surroundings (surroundings : Surroundings ω) : Surroundings (Watched ω) where
  now := fun w => surroundings.now w.world
  sleep := fun interval w => { w with world := surroundings.sleep interval w.world }

/-- An operation whose nodes are watched. -/
def operation : Operation ω → Operation (Watched ω)
  | .transfer destination value window => .transfer destination value window
  | .vote proposal choice window => .vote proposal choice window
  | .voteFor votePlan index choice window => .voteFor votePlan index choice window
  | .votesBatch votes window => .votesBatch votes window
  | .sendFragment fragment => .sendFragment fragment
  | .sendFragments fragments => .sendFragments fragments
  | .refreshState => .refreshState
  | .confirmTransaction id => .confirmTransaction id
  | .removePendingTransaction id => .removePendingTransaction id
  | .confirmAllTransactions => .confirmAllTransactions
  | .waitForPending interval budget cancelled =>
    .waitForPending interval budget fun w => cancelled w.world
  | .switchClient node => .switchClient (client node)

/-- A controller whose node is watched from now on. -/
def controller (c : Controller ω) : Controller (Watched ω) where
  options := c.options
  client := client c.client
  surroundings := surroundings c.surroundings
  session := c.session
  wallet := c.wallet
  mnemonic := c.mnemonic
  world := ⟨c.world, []⟩

theorem operation_builds (op : Operation ω) : (operation op).builds = op.builds := by
  cases op <;> rfl

/-- What was handed over in a request is the latest call. -/
theorem calls_of_request {watched : Ledger.Client (Watched ω)} {node : Ledger.Client ω}
    (hwatched : watched = client node) {fragments : List Bytes}
    {request : Action (Watched ω) (List Text)}
    (h : Submission.Request watched fragments request) (w : Watched ω) :
    (request.effect w).2.calls.head? = some fragments := by
  subst hwatched
  cases h with
  | one fragment =>
      rw [effect_map]
      rfl
  | many => rfl

end Watched

/-- A submission that the wallet took as successful: the identifier, the fragment that was handed
to the node for it, and whether it belongs to a transfer or a vote. -/
structure Receipt where
  id : Text
  fragment : Bytes
  built : Bool

namespace Receipt

/-- The receipts for what an operation reports as submitted, in front of those from before. Each
identifier goes with the fragment in its place in the latest call. -/
def record (built : Bool) (result : Except Failure (List Text)) (w : Watched ω)
    (past : List Receipt) : List Receipt :=
  match result with
  | .ok ids => (ids.zip (w.calls.head?.getD [])).map (fun p => ⟨p.1, p.2, built⟩) ++ past
  | .error _ => past

/-- The latest receipt for an identifier. -/
def latest? (id : Text) (past : List Receipt) : Option Receipt :=
  past.find? fun receipt => decide (receipt.id = id)

end Receipt

/-- What a session comes to by operations while its node is watched, with the receipts for what
was submitted. The world moves on by itself, too. -/
inductive WatchedRun (start : Controller ω) : Controller (Watched ω) → List Receipt → Prop
  | begun : start.IsFresh → WatchedRun start (Watched.controller start) []
  | operation {c : Controller (Watched ω)} {past : List Receipt} (op : Operation ω) :
      WatchedRun start c past →
      WatchedRun start ((Watched.operation op).perform.effect c).2
        (Receipt.record op.builds ((Watched.operation op).perform.effect c).1
          ((Watched.operation op).perform.effect c).2.world past)
  | world {c : Controller (Watched ω)} {past : List Receipt} (world : ω) :
      WatchedRun start c past →
      WatchedRun start { c with world := { c.world with world := world } } past

/-! ## What receipts vouch for -/

variable {session : Session} {c : Controller (Watched ω)} {past : List Receipt}

/-- A fragment was signed in a session for a reservation. -/
def Vouched (session : Session) (fragment : Bytes) (r : Reservation) : Prop :=
  ∃ tx : Transaction, tx.Plain ∧ tx.isWritable = true ∧
    tx.account = .text session.identity.accountId ∧ r.counter = some tx.counter ∧
    r.value = tx.cost ∧ fragment = (tx.signedBy session.identity).bytes

theorem Office.Builds.vouched {office : Office ω} {tx : Transaction} {r : Reservation}
    (h : office.Builds tx r) (hw : tx.isWritable = true)
    (hidentity : office.identity = session.identity) {hash : Text}
    (hhash : office.settings.block0Hash = .text hash) :
    Vouched session (tx.signedBy session.identity).bytes r := by
  refine ⟨tx, h.plain hhash, hw, ?_, h.counter_eq, h.cost_eq, rfl⟩
  rw [← hidentity]
  cases h <;> rfl

/-- A decoded fragment is a transaction of the session's account, signed by its identity, with
what is reserved for it. -/
structure Genuine (session : Session) (r : Reservation) (fragment : Fragment) : Prop where
  account_eq : fragment.transaction.account = .text session.identity.accountId
  counter_eq : r.counter = some fragment.transaction.counter
  cost_eq : r.value = fragment.transaction.cost
  signature_eq :
    fragment.signature = session.identity.sign fragment.transaction.signingBytes

theorem Vouched.genuine {fragment : Bytes} {r : Reservation} (h : Vouched session fragment r) :
    ∃ decoded, Fragment.parse fragment = .ok decoded ∧ Genuine session r decoded := by
  obtain ⟨tx, hplain, hw, haccount, hcounter, hcost, rfl⟩ := h
  have hparse : Fragment.parse (tx.signedBy session.identity).bytes = .ok _ :=
    Fragment.parse_bytes hplain hw
  refine ⟨_, hparse, ?_, hcounter, hcost, ?_⟩
  · show Transaction.asRead tx.account = _
    rw [haccount]
    exact Transaction.asRead_ofString _
  · show session.identity.sign tx.signingBytes = session.identity.sign tx.paired.signingBytes
    rw [hplain.signingBytes_paired]

/-- Every pending fragment has a receipt, and that of a transfer or a vote vouches for it. -/
def Receipted (session : Session) (pending : List (Text × Reservation)) (past : List Receipt) :
    Prop :=
  ∀ p ∈ pending, ∃ receipt, Receipt.latest? p.1 past = some receipt ∧
    (receipt.built = true → Vouched session receipt.fragment p.2)

theorem Receipt.latest?_record_of_not_mem {built : Bool} {ids : List Text} {w : Watched ω}
    {id : Text} (h : id ∉ ids) (past : List Receipt) :
    Receipt.latest? id (Receipt.record built (.ok ids) w past) = Receipt.latest? id past := by
  unfold Receipt.record Receipt.latest?
  dsimp only
  rw [List.find?_append, List.find?_eq_none.mpr, Option.none_or]
  intro receipt hreceipt
  obtain ⟨p, hp, rfl⟩ := List.mem_map.mp hreceipt
  have hmem := (List.of_mem_zip hp).1
  rw [decide_eq_true_eq]
  rintro rfl
  exact h hmem

/-- Among different identifiers, each goes with its own fragment. -/
theorem Receipt.latest?_record_of_mem {built : Bool} {ids : List Text} {fragments : List Bytes}
    {w : Watched ω} (hcall : w.calls.head? = some fragments) (hnodup : ids.Nodup)
    {p : Text × Bytes} (hp : p ∈ ids.zip fragments) (past : List Receipt) :
    Receipt.latest? p.1 (Receipt.record built (.ok ids) w past) = some ⟨p.1, p.2, built⟩ := by
  have hfind : ∀ (ids : List Text) (fragments : List Bytes), ids.Nodup → p ∈ ids.zip fragments →
      ((ids.zip fragments).map fun q => (⟨q.1, q.2, built⟩ : Receipt)).find?
        (fun receipt => decide (receipt.id = p.1)) = some ⟨p.1, p.2, built⟩ := by
    intro ids fragments hnodup hp
    -- the first identifier that fits is the only one, as all are different
    induction ids generalizing fragments with
    | nil => cases hp
    | cons id ids ih =>
        cases fragments with
        | nil => cases hp
        | cons fragment fragments =>
            obtain ⟨hid, hnodup⟩ := List.nodup_cons.mp hnodup
            rw [List.zip_cons_cons, List.map_cons, List.find?_cons]
            rcases List.mem_cons.mp hp with rfl | hrest
            · simp
            · have hne : id ≠ p.1 := by
                rintro rfl
                exact hid (List.of_mem_zip hrest).1
              rw [decide_eq_false hne]
              exact ih fragments hnodup hrest
  unfold Receipt.record Receipt.latest?
  dsimp only
  rw [hcall, Option.getD_some, List.find?_append, hfind ids fragments hnodup hp, Option.some_or]

theorem Receipt.record_of_nil {built : Bool} {result : Except Failure (List Text)}
    (h : ∀ ids, result = .ok ids → ids = []) (w : Watched ω) (past : List Receipt) :
    Receipt.record built result w past = past := by
  cases result with
  | error e => rfl
  | ok ids =>
      obtain rfl := h ids rfl
      rfl

namespace State

theorem mem_entries_zip {ids : List Text} {fragments : List Bytes}
    (hlen : ids.length = fragments.length) {rs : List (Option Reservation)}
    {p : Text × Reservation} (hp : p ∈ entries ids rs) :
    ∃ fragment, (p.1, fragment) ∈ ids.zip fragments := by
  induction ids generalizing fragments rs with
  | nil => cases hp
  | cons id ids ih =>
      obtain ⟨fragment, fragments, rfl⟩ := List.exists_cons_of_length_eq_add_one hlen.symm
      rcases List.mem_cons.mp hp with rfl | hrest
      · exact ⟨fragment, List.mem_cons_self⟩
      · obtain ⟨found, hfound⟩ := ih (by simpa using hlen) hrest
        exact ⟨found, List.mem_cons_of_mem _ hfound⟩

theorem mem_entries_forall {P : Bytes → Reservation → Prop} {ids : List Text}
    {fragments : List Bytes} {rs : List Reservation} (h : List.Forall₂ P fragments rs)
    (hlen : ids.length = fragments.length) {p : Text × Reservation}
    (hp : p ∈ entries ids (rs.map some)) :
    ∃ fragment, (p.1, fragment) ∈ ids.zip fragments ∧ P fragment p.2 := by
  induction h generalizing ids with
  | nil =>
      obtain rfl := List.length_eq_zero_iff.mp hlen
      cases hp
  | cons hhead _ ih =>
      obtain ⟨id, ids, rfl⟩ := List.exists_cons_of_length_eq_add_one hlen
      rcases List.mem_cons.mp hp with rfl | hrest
      · exact ⟨_, List.mem_cons_self, hhead⟩
      · obtain ⟨found, hfound, hP⟩ := ih (by simpa using hlen) hrest
        exact ⟨found, List.mem_cons_of_mem _ hfound, hP⟩

end State

/-- How a submission ends, the receipts keep up with the pending fragments. -/
theorem Submission.Ended.receipted {before s : State} {count : Nat}
    {rs : List (Option Reservation)} {answer result : Except Failure (List Text)}
    {wallet : State} (h : Submission.Ended before s count rs answer result wallet)
    (hbefore : Receipted session before.pending past) (hsame : s.pending = before.pending)
    {fragments : List Bytes} {w : Watched ω} (hcall : w.calls.head? = some fragments)
    {built : Bool}
    (hnew : ∀ ids : List Text, ids.length = count → ∀ p ∈ State.entries ids rs,
      ∃ fragment, (p.1, fragment) ∈ ids.zip fragments ∧
        (built = true → Vouched session fragment p.2)) :
    Receipted session wallet.pending (Receipt.record built result w past) := by
  cases h with
  | @accepted ids hanswer hfresh =>
      intro p hp
      rcases List.mem_append.mp hp with hp | hp
      · have hold : p.1 ∉ ids := by
          intro hid
          exact hfresh.not_pending p.1 hid (List.mem_map.mpr ⟨p, hp, rfl⟩)
        -- what was pending before keeps its receipt: the new identifiers are different
        rw [Receipt.latest?_record_of_not_mem hold]
        exact hbefore p (hsame ▸ hp)
      · obtain ⟨fragment, hmem, hvouched⟩ := hnew ids hfresh.length_eq p hp
        refine ⟨_, Receipt.latest?_record_of_mem hcall hfresh.nodup hmem past, hvouched⟩
  | refused he hnot => exact hbefore
  | broken he hanswer =>
      rw [hsame]
      exact hbefore

theorem Office.vouched_all {office : Office ω} (hidentity : office.identity = session.identity)
    {hash : Text} (hhash : office.settings.block0Hash = .text hash) {txs : List Transaction}
    {rs : List Reservation} (h : List.Forall₂ office.Builds txs rs)
    (hw : ∀ tx ∈ txs, tx.isWritable = true) :
    List.Forall₂ (Vouched session) (txs.map fun tx => (tx.signedBy session.identity).bytes)
      rs := by
  induction h with
  | nil => exact .nil
  | cons hhead _ ih =>
      have hfirst := hhead.vouched (hw _ List.mem_cons_self) hidentity hhash
      exact .cons hfirst (ih fun tx htx => hw tx (List.mem_cons_of_mem _ htx))

/-- What an operation does, the receipts keep up with the pending fragments. -/
theorem Controller.Transition.receipted {op : Operation (Watched ω)}
    {result : Except Failure (List Text)} {c' : Controller (Watched ω)}
    (h : c.Transition op result c') (hdisciplined : c.wallet.Disciplined [])
    (hc : Receipted session c.wallet.pending past) (hsession : c.session = some session)
    {node : Ledger.Client ω} (hnode : c.client = Watched.client node) {hash : Text}
    (hhash : session.settings.block0Hash = .text hash) :
    Receipted session c'.wallet.pending (Receipt.record op.builds result c'.world past) := by
  cases h with
  | quiet world hids =>
      rw [Receipt.record_of_nil hids]
      exact hc
  | switched hop => exact hc
  | @built session' world result d hop hsession' hout =>
      obtain rfl : session = session' := Option.some.inj (hsession.symm.trans hsession')
      cases hout with
      | failed e => exact hc
      | nothing => exact hc
      | lost he values =>
          show Receipted session (c.wallet.reservedAll values).pending _
          rw [State.reservedAll_pending]
          exact hc
      | @handed values txs request _ wallet hbuilds hw hrequest hended =>
          have hcall := Watched.calls_of_request hnode hrequest world
          have hvouched := Office.vouched_all rfl hhash hbuilds hw
          refine hended.receipted hc (State.reservedAll_pending values c.wallet) hcall ?_
          intro ids hlen p hp
          obtain ⟨fragment, hmem, hp⟩ := State.mem_entries_forall hvouched (by simpa using hlen) hp
          exact ⟨fragment, hmem, fun _ => hp⟩
  | @raw fragments rs request _ wallet hop hrequest hlen hnone hended =>
      have hcall := Watched.calls_of_request hnode hrequest c.world
      refine hended.receipted hc rfl hcall ?_
      intro ids hids p hp
      obtain ⟨fragment, hmem⟩ := State.mem_entries_zip hids hp
      refine ⟨fragment, hmem, fun hbuilt => ?_⟩
      rw [hop] at hbuilt
      cases hbuilt
  | refreshed snapshot world =>
      intro p hp
      have hpending : p ∈ (c.wallet.refresh snapshot).pending := hp
      rw [State.refresh_pending] at hpending
      obtain ⟨q, hq, rfl⟩ := List.mem_map.mp hpending
      obtain ⟨receipt, hreceipt, hvouched⟩ := hc q hq
      refine ⟨receipt, hreceipt, fun hbuilt => ?_⟩
      obtain ⟨tx, hplain, hw, haccount, hcounter, hcost, hbytes⟩ := hvouched hbuilt
      refine ⟨tx, hplain, hw, haccount, ?_, ?_, hbytes⟩
      · rw [State.markApplied_counter]
        exact hcounter
      · rw [State.markApplied_value]
        exact hcost
  | settled world hids hsettles =>
      rw [Receipt.record_of_nil hids]
      exact fun p hp => hc p (hsettles.mem_pending hdisciplined hp)

/-! ## In a watched session -/

theorem Controller.Transition.session_eq {op : Operation ω} {c c' : Controller ω}
    {result : Except Failure (List Text)} (h : c.Transition op result c') :
    c'.session = c.session := by
  cases h <;> rfl

theorem Watched.operation_switchClient {op : Operation ω} {watched : Ledger.Client (Watched ω)}
    (h : Watched.operation op = .switchClient watched) :
    ∃ node, watched = Watched.client node := by
  cases op with
  | switchClient node => exact ⟨node, (Operation.switchClient.inj h).symm⟩
  | _ => cases h

/-- A node stays watched. -/
theorem Controller.Transition.watched {op : Operation ω} {c c' : Controller (Watched ω)}
    {result : Except Failure (List Text)} (h : c.Transition (Watched.operation op) result c')
    (hc : ∃ node, c.client = Watched.client node) : ∃ node, c'.client = Watched.client node := by
  cases h with
  | switched hop => exact Watched.operation_switchClient hop
  | _ => exact hc

/-- What holds at every moment of a session whose node is watched. -/
structure Traced (session : Session) (c : Controller (Watched ω)) (past : List Receipt) :
    Prop where
  session_eq : c.session = some session
  watched : ∃ node, c.client = Watched.client node
  disciplined : c.wallet.Disciplined []
  receipted : Receipted session c.wallet.pending past

theorem WatchedRun.traced {start : Controller ω} (h : WatchedRun start c past)
    (hsession : start.session = some session) {hash : Text}
    (hhash : session.settings.block0Hash = .text hash) : Traced session c past := by
  induction h with
  | begun hfresh =>
      have hblank : (Watched.controller start).wallet = {} := hfresh.blank
      refine ⟨hsession, ⟨_, rfl⟩, ?_, ?_⟩
      · rw [hblank]
        exact State.fresh_disciplined
      · rw [hblank]
        rintro p ⟨⟩
  | @operation c past op _ ih =>
      have hstep := Controller.perform_transition ih.disciplined (Watched.operation op)
      obtain ⟨node, hnode⟩ := ih.watched
      have hreceipted :=
        hstep.receipted ih.disciplined ih.receipted ih.session_eq hnode hhash
      rw [Watched.operation_builds] at hreceipted
      exact ⟨hstep.session_eq.trans ih.session_eq, hstep.watched ih.watched,
        hstep.disciplined ih.disciplined, hreceipted⟩
  | world world _ ih => exact ⟨ih.session_eq, ih.watched, ih.disciplined, ih.receipted⟩

/-- A pending fragment that a transfer or a vote submitted, with what is reserved for it and the
latest receipt for its identifier. -/
structure BuiltPending (c : Controller (Watched ω)) (past : List Receipt) (id : Text)
    (r : Reservation) (receipt : Receipt) : Prop where
  pending : c.wallet.reservationOf? id = some r
  latest : Receipt.latest? id past = some receipt
  built : receipt.built = true

theorem BuiltPending.vouched {id : Text} {r : Reservation} {receipt : Receipt}
    (h : BuiltPending c past id r receipt) (hc : Traced session c past) :
    Vouched session receipt.fragment r := by
  obtain ⟨found, hfound, hvouched⟩ := hc.receipted _ (State.mem_pending_of_lookup h.pending)
  obtain rfl : found = receipt := Option.some.inj (hfound.symm.trans h.latest)
  exact hvouched h.built

/-- **Provenance.** Throughout a session, whatever the node answers, the bytes that were last
submitted for a pending fragment by a transfer or a vote decode to a transaction of the session's
account, signed by its identity, with the counter and the cost that are reserved for it. Any two
of these transactions have different counters. -/
theorem WatchedRun.pending_genuine {start : Controller ω} (h : WatchedRun start c past)
    (hsession : start.session = some session) {hash : Text}
    (hhash : session.settings.block0Hash = .text hash) :
    (∀ id ∈ c.wallet.pendingIds, ∃ receipt, Receipt.latest? id past = some receipt) ∧
    (∀ id r receipt, BuiltPending c past id r receipt →
      ∃ decoded, Fragment.parse receipt.fragment = .ok decoded ∧ Genuine session r decoded) ∧
    (∀ id r receipt id' r' receipt' decoded decoded', id ≠ id' →
      BuiltPending c past id r receipt → BuiltPending c past id' r' receipt' →
      Fragment.parse receipt.fragment = .ok decoded →
      Fragment.parse receipt'.fragment = .ok decoded' →
      decoded.transaction.counter ≠ decoded'.transaction.counter) := by
  have hc := h.traced hsession hhash
  have hgenuine : ∀ id r receipt, BuiltPending c past id r receipt →
      ∃ decoded, Fragment.parse receipt.fragment = .ok decoded ∧ Genuine session r decoded :=
    fun id r receipt hbuilt => (hbuilt.vouched hc).genuine
  refine ⟨?_, hgenuine, ?_⟩
  · intro id hid
    obtain ⟨p, hp, rfl⟩ := List.mem_map.mp hid
    obtain ⟨receipt, hreceipt, _⟩ := hc.receipted p hp
    exact ⟨receipt, hreceipt⟩
  · intro id r receipt id' r' receipt' decoded decoded' hne hbuilt hbuilt' hparse hparse' heq
    obtain ⟨found, hfound, hgen⟩ := hgenuine _ _ _ hbuilt
    obtain ⟨found', hfound', hgen'⟩ := hgenuine _ _ _ hbuilt'
    obtain rfl : found = decoded := Except.ok.inj (hfound.symm.trans hparse)
    obtain rfl : found' = decoded' := Except.ok.inj (hfound'.symm.trans hparse')
    refine hc.disciplined.counter_ne hbuilt.pending hbuilt'.pending hne hgen.counter_eq ?_
    rw [heq]
    exact hgen'.counter_eq

/-- A node that names fragments by how many it has got. -/
def numbering : Ledger.Client Nat where
  text := "numbering"
  settings := pure {}
  accountState := fun _ => pure { value := 100, counter := 0 }
  submit := fun _ => do
    let n ← get
    set (n + 1)
    return Text.ofChars (List.replicate (n + 1) 'a')
  submitAll := fun _ => pure []
  fragmentLogs := pure []
  proposals := pure []
  voteStatuses := fun _ => pure []

/-- A session with that node. -/
def numbered : Controller Nat where
  options := {}
  client := numbering
  surroundings := { now := fun _ => Binary64.zero false, sleep := fun _ world => world }
  session := some ⟨.ofMaterial default, { fees := { constant := 2 } }⟩
  world := 0

/-- A transfer in that session. -/
def payment : Operation Nat :=
  .transfer "b" 10 (some (.date ⟨1, 2⟩))

/-- Two transfers are pending and decode to different counters. -/
theorem pending_genuine_numbered :
    ∃ c past r receipt r' receipt' decoded decoded', WatchedRun numbered c past ∧
      BuiltPending c past (Text.ofChars ['a']) r receipt ∧
      BuiltPending c past (Text.ofChars ['a', 'a']) r' receipt' ∧
      Fragment.parse receipt.fragment = .ok decoded ∧
      Fragment.parse receipt'.fragment = .ok decoded' ∧
      decoded.transaction.counter ≠ decoded'.transaction.counter := by
  obtain ⟨c, past, hrun, hfirst, hsecond, hbuilt, hbuilt'⟩ :
      ∃ c past, WatchedRun numbered c past ∧
        c.wallet.reservationOf? (Text.ofChars ['a']) =
          some { counter := some 0, value := 12 } ∧
        c.wallet.reservationOf? (Text.ofChars ['a', 'a']) =
          some { counter := some 1, value := 12 } ∧
        (Receipt.latest? (Text.ofChars ['a']) past).map (·.built) = some true ∧
        (Receipt.latest? (Text.ofChars ['a', 'a']) past).map (·.built) = some true :=
    ⟨_, _, .operation payment (.operation payment (.begun ⟨rfl, rfl⟩)), by decide +kernel,
      by decide +kernel, by decide +kernel, by decide +kernel⟩
  obtain ⟨receipt, hreceipt, hbuilt⟩ := Option.map_eq_some_iff.mp hbuilt
  obtain ⟨receipt', hreceipt', hbuilt'⟩ := Option.map_eq_some_iff.mp hbuilt'
  obtain ⟨_, hgenuine, hdifferent⟩ := hrun.pending_genuine rfl rfl
  obtain ⟨decoded, hdecoded, _⟩ := hgenuine _ _ _ ⟨hfirst, hreceipt, hbuilt⟩
  obtain ⟨decoded', hdecoded', _⟩ := hgenuine _ _ _ ⟨hsecond, hreceipt', hbuilt'⟩
  have hne := hdifferent _ _ _ _ _ _ _ _ (by decide) ⟨hfirst, hreceipt, hbuilt⟩
    ⟨hsecond, hreceipt', hbuilt'⟩ hdecoded hdecoded'
  exact ⟨c, past, _, receipt, _, receipt', decoded, decoded', hrun,
    ⟨hfirst, hreceipt, hbuilt⟩, ⟨hsecond, hreceipt', hbuilt'⟩, hdecoded, hdecoded', hne⟩

end BallotWallet.Wallet
