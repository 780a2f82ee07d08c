import BallotWallet.Proofs.Agreement
import BallotWallet.Proofs.HonestClient
import BallotWallet.Proofs.Polling

/-!
# Wallet and node, interleaved

A wallet is the only one to sign for an account at an honest node. It submits, polls and fetches
the account while the node executes and rejects, in any order. At every moment the wallet agrees
with the node. A call loses something only if it fails for another reason than the node's refusal.
-/

namespace BallotWallet.Wallet

open BallotWallet.Action

variable {ω : Type}

/-! ## Calls -/

/-- A call that submits transactions of its own. -/
inductive Call where
  | transfer (destination : Text) (value : Int) (window : Option ValidUntil)
  | vote (proposal : Proposal) (choice : Choice) (window : Option ValidUntil)
  | voteBatch (items : List (Proposal × Choice)) (window : Option ValidUntil)

namespace Call

/-- Makes a call and yields the identifiers of the fragments that it submitted. -/
def perform (office : Office ω) : Call → Action (Desk ω) (List Text)
  | transfer destination value window =>
    ([·]) <$> Submission.transfer office destination value window
  | vote proposal choice window => ([·]) <$> Submission.vote office proposal choice window
  | voteBatch items window => Submission.voteBatch office items window

theorem perform_outcome {d : Desk ω} (h : d.wallet.Disciplined []) (office : Office ω)
    (call : Call) :
    Submission.Outcome office d ((call.perform office).effect d).1
      ((call.perform office).effect d).2 := by
  cases call with
  | transfer destination value window =>
      unfold perform
      rw [effect_map]
      exact Submission.transfer_outcome h office destination value window
  | vote proposal choice window =>
      unfold perform
      rw [effect_map]
      exact Submission.vote_outcome h office proposal choice window
  | voteBatch items window => exact Submission.voteBatch_outcome h office items window

end Call

/-- What a call has reserved that was neither submitted nor given back. Nothing is left of a call
that succeeds, nor of one that the node refuses. -/
def leaked (result : Except Failure (List Text)) (before after : State) : Int :=
  match result with
  | .ok _ => 0
  | .error e => if e.isBackend then 0 else before.balance - after.balance

theorem leaked_ok (ids : List Text) (before after : State) : leaked (.ok ids) before after = 0 :=
  rfl

theorem leaked_refused {e : Failure} (he : e.isBackend = true) (before after : State) :
    leaked (.error e) before after = 0 :=
  if_pos he

theorem leaked_failed {e : Failure} (he : e.isBackend = false) (before after : State) :
    leaked (.error e) before after = before.balance - after.balance :=
  if_neg (ne_true_of_eq_false he)

namespace Agrees

variable {start lost : Int} {node : Node} {rolledBack : List Text} {s : State}
  {office : Office ω} {view : ω → Node} {d d' : Desk ω} {result : Except Failure (List Text)}

/-- The node takes transactions that were built for reservations, one after another. -/
theorem taken {values : List Int} {txs : List Transaction} {ids : List Text}
    (h : Agrees start node rolledBack lost s)
    (hbuilds : List.Forall₂ office.Builds txs (s.reservations values))
    (hlen : ids.length = txs.length) (hnodup : ids.Nodup) (hnew : ∀ id ∈ ids, id ∉ node.ids) :
    Agrees start (node.takeAll ids txs) rolledBack lost
      ((s.reservedAll values).submitted ids ((s.reservations values).map some)) := by
  induction values generalizing node s txs ids with
  | nil =>
      obtain rfl := List.forall₂_nil_right_iff.mp hbuilds
      obtain rfl := List.length_eq_zero_iff.mp hlen
      simpa [Node.takeAll, State.submitted, State.entries, State.reservedAll] using h
  | cons value values ih =>
      obtain ⟨tx, txs, hb, hothers, rfl⟩ := List.forall₂_cons_right_iff.mp hbuilds
      obtain ⟨id, ids, rfl⟩ := List.exists_cons_of_length_eq_add_one hlen
      have hcounter : s.counter = tx.counter := Option.some.inj hb.counter_eq
      have hcost : value = tx.cost := hb.cost_eq
      obtain ⟨hdifferent, hnodup⟩ := List.nodup_cons.mp hnodup
      have hfirst := h.submitted (hnew id List.mem_cons_self) value
      have hlater : ∀ i ∈ ids, i ∉ (node.take ⟨id, s.counter, value, .pending⟩).ids := by
        intro i hi
        rw [Node.take_ids, List.mem_append, List.mem_singleton, not_or]
        refine ⟨hnew i (List.mem_cons_of_mem _ hi), ?_⟩
        rintro rfl
        exact hdifferent hi
      have hbuilt : List.Forall₂ office.Builds txs (((s.reserved value).tracked id
          (some { counter := some s.counter, value := value })).reservations values) := by
        rw [State.reservations_tracked]
        exact hothers
      have hrest := ih hfirst hbuilt (by simpa using hlen) hnodup hlater
      rw [State.reservations_tracked, State.reservedAll_tracked, hcounter] at hrest
      unfold Node.takeAll State.reservations
      rw [List.map_cons, State.submitted_cons, ← hcost, hcounter]
      exact hrest

/-- However a call ends, the wallet agrees with the node. -/
theorem outcome (h : Agrees start (view d.world) rolledBack lost d.wallet)
    (hhonest : Honest office view) (hout : Submission.Outcome office d result d') :
    Agrees start (view d'.world) rolledBack (lost + leaked result d.wallet d'.wallet)
      d'.wallet := by
  have hleaked : ∀ values : List Int,
      d.wallet.balance - (d.wallet.reservedAll values).balance = values.sum := by
    intro values
    rw [State.reservedAll_balance]
    omega
  cases hout with
  | failed e =>
      unfold leaked
      simpa using h
  | nothing =>
      rw [leaked_ok, Int.add_zero]
      exact h
  | @lost e he values =>
      rw [leaked_failed he, hleaked]
      exact h.reservedAll values
  | @handed values txs request result wallet hbuilds hw hrequest hended =>
      have hasked : ∀ tx ∈ txs, tx.isWritable = true ∧ ∃ r, office.Builds tx r :=
        fun tx htx => ⟨hw tx htx, Office.exists_built hbuilds htx⟩
      have hanswers := hhonest.answers d.world hasked hrequest
      generalize hanswer : (request.effect d.world).1 = answer at hanswers hended
      generalize view (request.effect d.world).2 = node at hanswers ⊢
      cases hanswers with
      | @taken ids hlen hnodup hnew =>
          have hfresh : (d.wallet.reservedAll values).Fresh txs.length ids := by
            refine ⟨hlen, hnodup, fun id hid hpending => ?_⟩
            rw [State.reservedAll_pendingIds] at hpending
            exact hnew id hid (h.mem_ids_of_pending hpending)
          -- the identifiers are fresh, so the wallet accepts them
          cases hended with
          | accepted hok hfresh' =>
              obtain rfl := Except.ok.inj hok
              rw [leaked_ok, Int.add_zero]
              exact h.taken hbuilds hlen hnodup hnew
          | refused he hnot => exact absurd hfresh (hnot ids rfl)
          | broken he herror => cases herror
      | refused e =>
          -- the node has taken nothing: the reservations are given back, or they are lost
          cases hended with
          | accepted hok hfresh => cases hok
          | refused he hnot =>
              rw [leaked_refused he, Int.add_zero]
              exact h
          | broken he herror =>
              rw [leaked_failed he, hleaked]
              exact h.reservedAll values

theorem called (h : Agrees start (view d.world) rolledBack lost d.wallet)
    (hhonest : Honest office view) (call : Call) :
    Agrees start (view ((call.perform office).effect d).2.world) rolledBack
      (lost + leaked ((call.perform office).effect d).1 d.wallet
        ((call.perform office).effect d).2.wallet)
      ((call.perform office).effect d).2.wallet :=
  h.outcome hhonest (call.perform_outcome h.disciplined office)

/-! ## Polls -/

open Settlement in
/-- What the log says of a pending fragment is true, so the wallet may act on it. -/
theorem settle {logs : FragmentLogs} {settled : Settled} {id : Text}
    (h : Agrees start node (rolledBack ++ settled.rejected) lost d.wallet)
    (hlogs : node.Wrote logs) (hid : id ∈ d.wallet.pendingIds) :
    ∃ settled' wallet, (settle logs settled id).effect d =
        (.ok settled', { d with wallet := wallet }) ∧
      Agrees start node (rolledBack ++ settled'.rejected) lost wallet ∧
      ∀ i ∈ d.wallet.pendingIds, i ≠ id → i ∈ wallet.pendingIds := by
  have hstill : ∀ {wallet : State}, wallet.pending = (d.wallet.forget id).pending →
      ∀ i ∈ d.wallet.pendingIds, i ≠ id → i ∈ wallet.pendingIds := by
    intro wallet hpending i hi hne
    unfold State.pendingIds
    rw [hpending]
    exact State.mem_forget_ids.mpr ⟨hi, hne⟩
  unfold Settlement.settle
  cases hstatus : logs.status? id with
  | none => exact ⟨settled, d.wallet, rfl, h, fun i hi _ => hi⟩
  | some status =>
      cases status with
      | pending => exact ⟨settled, d.wallet, rfl, h, fun i hi _ => hi⟩
      | inABlock date block =>
          have hexecuted : ∀ e ∈ node.entries, e.id = id → e.executed = true := by
            rintro e he rfl
            rcases hlogs e he _ hstatus with hnone | hsame
            · cases hnone
            · exact Entry.executed_of_inABlock hsame.symm
          refine ⟨{ settled with confirmed := settled.confirmed ++ [id] }, _, ?_,
            h.confirm hexecuted, hstill State.confirm_pending⟩
          rw [effect_bind, Desk.effect_book, Book.effect_confirm]
          rfl
      | rejected reason =>
          have hrejected : ∀ e ∈ node.entries, e.id = id →
              ∃ reason, e.status = .rejected reason := by
            rintro e he rfl
            rcases hlogs e he _ hstatus with hnone | hsame
            · cases hnone
            · exact ⟨reason, hsame.symm⟩
          have hback := h.rollback hid hrejected
          rw [List.append_assoc] at hback
          refine ⟨{ settled with rejected := settled.rejected ++ [id] }, _, ?_, hback,
            hstill (State.rollback_pending h.disciplined)⟩
          obtain ⟨given, hgiven⟩ := State.rollback_ok (s := d.wallet) h.disciplined
          rw [effect_bind, Desk.effect_book, Book.effect_rollback, hgiven]
          rfl

open Settlement in
theorem settleEach {logs : FragmentLogs} {settled : Settled} {ids : List Text}
    (h : Agrees start node (rolledBack ++ settled.rejected) lost d.wallet)
    (hlogs : node.Wrote logs) (hnodup : ids.Nodup) (hids : ∀ id ∈ ids, id ∈ d.wallet.pendingIds) :
    ∃ settled' wallet, (settleEach logs settled ids).effect d =
        (.ok settled', { d with wallet := wallet }) ∧
      Agrees start node (rolledBack ++ settled'.rejected) lost wallet := by
  induction ids generalizing settled d with
  | nil => exact ⟨settled, d.wallet, rfl, h⟩
  | cons id ids ih =>
      obtain ⟨hnew, hnodup⟩ := List.nodup_cons.mp hnodup
      obtain ⟨first, wallet, heffect, hfirst, hstill⟩ :=
        h.settle hlogs (hids id List.mem_cons_self)
      have hrest : ∀ i ∈ ids, i ∈ wallet.pendingIds := by
        intro i hi
        refine hstill i (hids i (List.mem_cons_of_mem _ hi)) ?_
        rintro rfl
        exact hnew hi
      obtain ⟨settled', wallet', heffect', h'⟩ :=
        ih (d := { d with wallet := wallet }) hfirst hnodup hrest
      refine ⟨settled', wallet', ?_, h'⟩
      unfold Settlement.settleEach
      rw [effect_bind_ok heffect]
      exact heffect'

end Agrees

namespace Settlement

/-- The fragments that a poll has rolled back. -/
def rolledBackIn (result : Except Failure Settled) : List Text :=
  match result with
  | .ok settled => settled.rejected
  | .error _ => []

end Settlement

/-- However a poll ends, the wallet agrees with the node. -/
theorem Agrees.poll {start lost : Int} {rolledBack : List Text} {office : Office ω}
    {view : ω → Node} {d : Desk ω} (h : Agrees start (view d.world) rolledBack lost d.wallet)
    (hhonest : Honest office view) :
    Agrees start (view ((Settlement.poll office.client).effect d).2.world)
      (rolledBack ++ Settlement.rolledBackIn ((Settlement.poll office.client).effect d).1) lost
      ((Settlement.poll office.client).effect d).2.wallet := by
  have hnone : Agrees start (view d.world)
      (rolledBack ++ ({} : Settlement.Settled).rejected) lost d.wallet := by
    show Agrees start (view d.world) (rolledBack ++ []) lost d.wallet
    rw [List.append_nil]
    exact h
  cases hempty : d.wallet.pendingIds.isEmpty with
  | true =>
      rw [Settlement.effect_poll_idle office.client hempty]
      exact hnone
  | false =>
      have hview := hhonest.log_view d.world
      have hwrote := hhonest.log_wrote d.world
      rw [Settlement.effect_poll office.client hempty, effect_bind, Desk.effect_request]
      generalize office.client.fragmentLogs.effect d.world = answer at hview hwrote ⊢
      rcases answer with ⟨⟨e⟩ | ⟨logs⟩, world⟩
      · dsimp only at hview ⊢
        rw [hview]
        exact hnone
      · dsimp only at hview ⊢
        obtain ⟨settled, wallet, heffect, hagrees⟩ :=
          Agrees.settleEach (d := { d with world := world }) hnone (hwrote logs h.ids_nodup rfl)
            h.disciplined.ids_nodup fun _ hid => hid
        rw [heffect]
        dsimp only
        rw [hview]
        exact hagrees

/-! ## Interleavings -/

/-- What a wallet and an honest node come to when each of them acts at any time, with the
fragments that were rolled back so far, and what was lost since the account was fetched last. A
call that the node refuses loses nothing; one that fails for another reason, because a transaction
cannot be signed, say, loses what is missing after it. It begins when the wallet fetches the
account with nothing pending. -/
inductive Interleaving (office : Office ω) (view : ω → Node) (start : Int) :
    Desk ω → List Text → Int → Prop
  | begun {d : Desk ω} {snapshot : AccountSnapshot} : d.wallet.pending = [] →
      view d.world = ⟨start, snapshot.counter, []⟩ → snapshot.value = start →
      Interleaving office view start ((Desk.book (Book.refresh snapshot)).effect d).2 [] 0
  | submitted {d : Desk ω} {rolledBack : List Text} {lost : Int} (call : Call)
      {ids : List Text} : Interleaving office view start d rolledBack lost →
      ((call.perform office).effect d).1 = .ok ids →
      Interleaving office view start ((call.perform office).effect d).2 rolledBack lost
  | refused {d : Desk ω} {rolledBack : List Text} {lost : Int} (call : Call) {e : Failure} :
      Interleaving office view start d rolledBack lost →
      ((call.perform office).effect d).1 = .error e → e.isBackend = true →
      Interleaving office view start ((call.perform office).effect d).2 rolledBack lost
  | failed {d : Desk ω} {rolledBack : List Text} {lost : Int} (call : Call) {e : Failure} :
      Interleaving office view start d rolledBack lost →
      ((call.perform office).effect d).1 = .error e → e.isBackend = false →
      Interleaving office view start ((call.perform office).effect d).2 rolledBack
        (lost + (d.wallet.balance - ((call.perform office).effect d).2.wallet.balance))
  | acted {d : Desk ω} {rolledBack : List Text} {lost : Int} {world : ω} :
      Interleaving office view start d rolledBack lost → (view d.world).Acts (view world) →
      Interleaving office view start { d with world := world } rolledBack lost
  | idled {d : Desk ω} {rolledBack : List Text} {lost : Int} {world : ω} :
      Interleaving office view start d rolledBack lost → view world = view d.world →
      Interleaving office view start { d with world := world } rolledBack lost
  | polled {d : Desk ω} {rolledBack : List Text} {lost : Int} :
      Interleaving office view start d rolledBack lost →
      Interleaving office view start ((Settlement.poll office.client).effect d).2
        (rolledBack ++ Settlement.rolledBackIn ((Settlement.poll office.client).effect d).1) lost
  | fetched {d : Desk ω} {rolledBack : List Text} {lost : Int} {snapshot : AccountSnapshot} :
      Interleaving office view start d rolledBack lost →
      snapshot.value = (view d.world).value → snapshot.counter = (view d.world).counter →
      Interleaving office view start ((Desk.book (Book.refresh snapshot)).effect d).2 rolledBack 0

namespace Interleaving

variable {office : Office ω} {view : ω → Node} {start lost : Int} {d : Desk ω}
  {rolledBack : List Text}

theorem agrees (h : Interleaving office view start d rolledBack lost)
    (hhonest : Honest office view) :
    Agrees start (view d.world) rolledBack lost d.wallet := by
  induction h with
  | @begun d snapshot hpending hview hvalue =>
      rw [Desk.effect_book, Book.effect_refresh]
      dsimp only
      rw [hview, ← hvalue]
      exact Agrees.fetched hpending
  | @submitted d rolledBack lost call ids _ hresult ih =>
      have hafter := ih.called hhonest call
      rw [hresult, leaked_ok, Int.add_zero] at hafter
      exact hafter
  | @refused d rolledBack lost call e _ hresult he ih =>
      have hafter := ih.called hhonest call
      rw [hresult, leaked_refused he, Int.add_zero] at hafter
      exact hafter
  | @failed d rolledBack lost call e _ hresult he ih =>
      have hafter := ih.called hhonest call
      rw [hresult, leaked_failed he] at hafter
      exact hafter
  | acted _ hacts ih => exact ih.acts hacts
  | idled _ hview ih =>
      rw [hview]
      exact ih
  | polled _ ih => exact ih.poll hhonest
  | fetched _ hvalue hcounter ih =>
      rw [Desk.effect_book, Book.effect_refresh]
      exact ih.refresh hvalue hcounter

/-- **Agreement.** However a wallet and an honest node are interleaved, the balance is the value
at the start less the cost of all fragments that were submitted and not rolled back, and also the
value at the node less the cost of the pending fragments that the node has not executed. Nothing is
missing unless a call failed for another reason than the node's refusal, and then only what it had
reserved. What was executed is never rolled back, and its counter is never that of a later
fragment. -/
theorem balance_accounted_for (h : Interleaving office view start d rolledBack lost)
    (hhonest : Honest office view) :
    d.wallet.balance = start - ((view d.world).cost fun e => e.id ∉ rolledBack) - lost ∧
    d.wallet.balance = (view d.world).value -
      ((view d.world).cost fun e => ¬ e.executed = true ∧ e.id ∈ d.wallet.pendingIds) - lost ∧
    (view d.world).ids.Nodup ∧
    (∀ e ∈ (view d.world).entries, e.executed = true →
      e.id ∉ rolledBack ∧ e.counter < d.wallet.counter) ∧
    (view d.world).entries.Pairwise fun e e' => e.executed = true → e'.counter ≠ e.counter := by
  have hagrees := h.agrees hhonest
  refine ⟨hagrees.balance_eq, hagrees.balance_eq_value, hagrees.ids_nodup, ?_, ?_⟩
  · intro e he hexecuted
    have hlt := hagrees.executed_lt e he hexecuted
    have hle := hagrees.counter_le_next
    exact ⟨hagrees.not_rolled_of_executed he hexecuted, by omega⟩
  · refine hagrees.distinct.imp_of_mem fun {e e'} he _ hrolled hexecuted hcounter => ?_
    exact hagrees.not_rolled_of_executed he hexecuted (hrolled hcounter.symm)

end Interleaving

/-! ## Nothing lost -/

/-- An interleaving in which a call fails only when the node refuses it. -/
inductive Lossless (office : Office ω) (view : ω → Node) (start : Int) :
    Desk ω → List Text → Prop
  | begun {d : Desk ω} {snapshot : AccountSnapshot} : d.wallet.pending = [] →
      view d.world = ⟨start, snapshot.counter, []⟩ → snapshot.value = start →
      Lossless office view start ((Desk.book (Book.refresh snapshot)).effect d).2 []
  | called {d : Desk ω} {rolledBack : List Text} (call : Call) :
      Lossless office view start d rolledBack →
      (∀ e, ((call.perform office).effect d).1 = .error e → e.isBackend = true) →
      Lossless office view start ((call.perform office).effect d).2 rolledBack
  | acted {d : Desk ω} {rolledBack : List Text} {world : ω} :
      Lossless office view start d rolledBack → (view d.world).Acts (view world) →
      Lossless office view start { d with world := world } rolledBack
  | idled {d : Desk ω} {rolledBack : List Text} {world : ω} :
      Lossless office view start d rolledBack → view world = view d.world →
      Lossless office view start { d with world := world } rolledBack
  | polled {d : Desk ω} {rolledBack : List Text} :
      Lossless office view start d rolledBack →
      Lossless office view start ((Settlement.poll office.client).effect d).2
        (rolledBack ++ Settlement.rolledBackIn ((Settlement.poll office.client).effect d).1)
  | fetched {d : Desk ω} {rolledBack : List Text} {snapshot : AccountSnapshot} :
      Lossless office view start d rolledBack →
      snapshot.value = (view d.world).value → snapshot.counter = (view d.world).counter →
      Lossless office view start ((Desk.book (Book.refresh snapshot)).effect d).2 rolledBack

namespace Lossless

variable {office : Office ω} {view : ω → Node} {start : Int} {d : Desk ω}
  {rolledBack : List Text}

theorem interleaving (h : Lossless office view start d rolledBack) :
    Interleaving office view start d rolledBack 0 := by
  induction h with
  | begun hpending hview hvalue => exact .begun hpending hview hvalue
  | @called d rolledBack call _ hrefused ih =>
      cases hresult : ((call.perform office).effect d).1 with
      | ok ids => exact ih.submitted call hresult
      | error e => exact ih.refused call hresult (hrefused e hresult)
  | acted _ hacts ih => exact ih.acted hacts
  | idled _ hview ih => exact ih.idled hview
  | polled _ ih => exact ih.polled
  | fetched _ hvalue hcounter ih => exact ih.fetched hvalue hcounter

theorem agrees (h : Lossless office view start d rolledBack) (hhonest : Honest office view) :
    Agrees start (view d.world) rolledBack 0 d.wallet :=
  h.interleaving.agrees hhonest

/-- **Nothing is lost.** As long as calls fail only when the node refuses them, the balance is
exactly the value at the start less the cost of all fragments that were submitted and not rolled
back, and exactly the value at the node less the cost of the pending fragments that the node has
not executed. -/
theorem balance_exact (h : Lossless office view start d rolledBack)
    (hhonest : Honest office view) :
    d.wallet.balance = start - ((view d.world).cost fun e => e.id ∉ rolledBack) ∧
    d.wallet.balance = (view d.world).value -
      ((view d.world).cost fun e => ¬ e.executed = true ∧ e.id ∈ d.wallet.pendingIds) := by
  have hagrees := h.agrees hhonest
  have hstart := hagrees.balance_eq
  have hvalue := hagrees.balance_eq_value
  rw [Int.sub_zero] at hstart hvalue
  exact ⟨hstart, hvalue⟩

end Lossless

/-! ## Two transfers -/

namespace Interleaving

variable {start : Int} {d : Desk Node} {rolledBack : List Text}

/-- A session at a node that reads what it is handed. -/
def clerk : Office Node where
  identity := .ofMaterial default
  settings := { fees := { constant := 2 } }
  client := bookkeeper
  surroundings := { now := fun _ => Binary64.zero false, sleep := fun _ node => node }

theorem clerk_honest : Honest clerk fun node => node :=
  bookkeeper_honest rfl rfl

/-- The wallet has tracked a transfer of a value, and the node has taken it. -/
def paid (value : Int) (d : Desk Node) : Desk Node where
  wallet := (d.wallet.reserved (value + 2)).tracked d.world.freshId
    (some { counter := some d.wallet.counter, value := value + 2 })
  world := d.world.take
    { id := d.world.freshId, counter := d.wallet.counter, cost := value + 2 }

theorem clerk_transfer {d : Desk Node} (destination : Text) (value : Int) (date : BlockDate)
    (h : Lossless clerk (fun node => node) start d rolledBack) (hvalue : 0 < value)
    (hw : (clerk.transferOf destination value d.wallet.counter date).isWritable = true) :
    Lossless clerk (fun node => node) start (paid value d) rolledBack := by
  have hagrees := h.agrees clerk_honest
  have hnew : d.world.freshId ∉ d.wallet.pendingIds := fun hpending =>
    d.world.freshId_not_mem (hagrees.mem_ids_of_pending hpending)
  have hsubmit := effect_bookkeeper_submit rfl hw
    (.transfer destination d.wallet.counter date hvalue : clerk.Builds _ _) d.world
  have hsend := Submission.effect_send (d := { d with wallet := d.wallet.reserved (value + 2) })
    (some { counter := some d.wallet.counter, value := value + 2 }) hsubmit hnew
  have htransfer : (Submission.transfer clerk destination value (some (.date date))).effect d =
      (.ok d.world.freshId, paid value d) :=
    (Submission.effect_transfer hagrees.disciplined hvalue rfl hw).trans hsend
  have hcall : ((Call.transfer destination value (some (.date date))).perform clerk).effect d =
      (.ok [d.world.freshId], paid value d) := by
    show (([·]) <$> Submission.transfer clerk destination value (some (.date date))).effect d = _
    rw [effect_map, htransfer]
    rfl
  have hafter := h.called (.transfer destination value (some (.date date)))
  rw [hcall] at hafter
  exact hafter (by rintro e ⟨⟩)

/-- Two transfers were submitted. The first was executed and the account fetched since; the second
was rejected. -/
def twice : Desk Node :=
  let begun := ((Desk.book (Book.refresh { value := 100, counter := 0 })).effect
    ⟨{}, ⟨100, 0, []⟩⟩).2
  let submitted := paid 20 (paid 10 begun)
  let first : Entry := { id := Text.ofChars ['a'], counter := 0, cost := 12 }
  let executed := { submitted with world := submitted.world.execute first none "" }
  let fetched := ((Desk.book (Book.refresh { value := 88, counter := 1 })).effect executed).2
  { fetched with world := fetched.world.log (Text.ofChars ['a', 'a']) (.rejected "late") }

theorem twice_reached : Lossless clerk (fun node => node) 100 twice [] := by
  have hbegun : Lossless clerk (fun node => node) 100 _ [] :=
    @Lossless.begun _ _ _ _ ⟨{}, ⟨100, 0, []⟩⟩ { value := 100, counter := 0 } rfl rfl rfl
  have hfirst := clerk_transfer "b" 10 ⟨1, 2⟩ hbegun (by decide) (by decide +kernel)
  have hsecond := clerk_transfer "b" 20 ⟨1, 2⟩ hfirst (by decide) (by decide +kernel)
  have hexecuted := hsecond.acted (.execute
    (e := { id := Text.ofChars ['a'], counter := 0, cost := 12 }) none "" (by decide +kernel)
    rfl rfl)
  have hfetched : Lossless clerk (fun node => node) 100
      ((Desk.book (Book.refresh { value := 88, counter := 1 })).effect _).2 [] :=
    hexecuted.fetched rfl rfl
  exact hfetched.acted (.reject
    (e := { id := Text.ofChars ['a', 'a'], counter := 1, cost := 22 }) "late" (by decide +kernel)
    rfl)

/-- A poll settles both of them, and the balance is again what the node says. -/
theorem balance_accounted_for_twice :
    ∃ d rolledBack, Interleaving clerk (fun node => node) 100 d rolledBack 0 ∧
      rolledBack = [Text.ofChars ['a', 'a']] ∧ twice.wallet.balance = 66 ∧
      d.wallet.balance = 88 ∧ d.wallet.pendingIds = [] ∧
      d.wallet.balance = 100 - (d.world.cost fun e => e.id ∉ rolledBack) - 0 := by
  have hpolled := twice_reached.interleaving.polled
  have hrolled : [] ++ Settlement.rolledBackIn ((Settlement.poll clerk.client).effect twice).1 =
      [Text.ofChars ['a', 'a']] := by
    decide +kernel
  rw [hrolled] at hpolled
  obtain ⟨hbalance, _⟩ := balance_accounted_for hpolled clerk_honest
  exact ⟨_, _, hpolled, rfl, by decide +kernel, by decide +kernel, by decide +kernel, hbalance⟩

end Interleaving

end BallotWallet.Wallet
