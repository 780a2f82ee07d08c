import BallotWallet.Proofs.AnyOrder
import BallotWallet.Proofs.Polling
import BallotWallet.Proofs.Provenance

/-!
# What the log says

A poll settles the pending fragments one after another, and every rejection may move the counters
under those that follow. Nothing of that reaches the other pending fragments: a fragment is found
with what it has reserved whatever was settled before it. So the outcome of a poll can be read off
the log and the wallet before the poll.
-/

namespace BallotWallet

namespace FragmentLogs

variable {logs other : FragmentLogs} {id : Text}

/-- Whether a log settles a fragment either way. -/
def settles (logs : FragmentLogs) (id : Text) : Bool :=
  logs.confirms id || logs.rejects id

theorem not_rejects_of_confirms (h : logs.confirms id = true) : logs.rejects id = false := by
  unfold confirms at h
  unfold rejects
  split at h
  · rename_i hstatus
    rw [hstatus]
  · cases h

theorem confirms_congr (h : other.status? id = logs.status? id) :
    other.confirms id = logs.confirms id := by
  unfold confirms
  rw [h]

theorem rejects_congr (h : other.status? id = logs.status? id) :
    other.rejects id = logs.rejects id := by
  unfold rejects
  rw [h]

end FragmentLogs

namespace Wallet

open BallotWallet.Action

variable {ω : Type} {logs other : FragmentLogs} {outstanding : List Int}

namespace State

variable {s : State} {id : Text}

/-! ## One fragment -/

theorem concluded_pending (i : Text × Fate) (s : State) :
    (s.concluded i).pending = (s.forget i.1).pending := by
  cases hr : s.reservationOf? i.1 with
  | none => rw [concluded_absent hr, forget_absent (reservationOf?_eq_none.mp hr)]
  | some r => rw [concluded_eq hr, ended_pending]

theorem concluded_balance {i : Text × Fate} {r : Reservation}
    (hr : s.reservationOf? i.1 = some r) :
    (s.concluded i).balance = s.balance + comesBack (r, i.2) := by
  rw [concluded_eq hr, ended_balance]
  rfl

theorem settledBy_confirmed (hlog : logs.confirms id = true) :
    s.settledBy logs id = s.concluded (id, .inBlock) := by
  have hconfirm : s.settledBy logs id = s.confirm id := by
    unfold FragmentLogs.confirms at hlog
    unfold settledBy
    split at hlog
    · rename_i hstatus
      rw [hstatus]
    · cases hlog
  rw [hconfirm]
  cases hr : s.reservationOf? id with
  | none => rw [confirm_absent (reservationOf?_eq_none.mp hr), concluded_absent hr]
  | some r =>
      rw [confirm_eq hr, concluded_eq hr]
      rfl

theorem settledBy_rejected (h : s.Disciplined outstanding) (hlog : logs.rejects id = true) :
    s.settledBy logs id = s.concluded (id, .rejected) := by
  have hrollback : s.settledBy logs id = (s.rollback id).2 := by
    unfold FragmentLogs.rejects at hlog
    unfold settledBy
    split at hlog
    · rename_i hstatus
      rw [hstatus]
    · cases hlog
  rw [hrollback]
  cases hr : s.reservationOf? id with
  | none => rw [rollback_absent (reservationOf?_eq_none.mp hr), concluded_absent hr]
  | some r =>
      rw [rollback_eq h hr, concluded_eq hr]
      rfl

theorem settledBy_unsettled (hlog : logs.settles id = false) : s.settledBy logs id = s := by
  unfold FragmentLogs.settles FragmentLogs.confirms FragmentLogs.rejects at hlog
  unfold settledBy
  rcases hstatus : logs.status? id with _ | ⟨_ | ⟨date, block⟩ | reason⟩
  · rfl
  · rfl
  · simp [hstatus] at hlog
  · simp [hstatus] at hlog

/-- What a log says of a fragment is carried out, or nothing is. -/
theorem settledBy_cases (h : s.Disciplined outstanding) (logs : FragmentLogs) (id : Text) :
    (∃ fate, s.settledBy logs id = s.concluded (id, fate) ∧ logs.settles id = true ∧
      (fate = .rejected ↔ logs.rejects id = true)) ∨
    s.settledBy logs id = s ∧ logs.settles id = false ∧ logs.rejects id = false := by
  cases hconfirms : logs.confirms id with
  | true =>
      refine .inl ⟨.inBlock, settledBy_confirmed hconfirms, ?_, ?_⟩
      · simp [FragmentLogs.settles, hconfirms]
      · simp [FragmentLogs.not_rejects_of_confirms hconfirms]
  | false =>
      cases hrejects : logs.rejects id with
      | true =>
          refine .inl ⟨.rejected, settledBy_rejected h hrejects, ?_, by simp⟩
          simp [FragmentLogs.settles, hrejects]
      | false =>
          have hsettles : logs.settles id = false := by
            simp [FragmentLogs.settles, hconfirms, hrejects]
          exact .inr ⟨settledBy_unsettled hsettles, hsettles, rfl⟩

theorem settledBy_pending (h : s.Disciplined outstanding) (logs : FragmentLogs) (id : Text) :
    (s.settledBy logs id).pending =
      s.pending.filter fun p => decide (p.1 = id → logs.settles p.1 = false) := by
  rcases settledBy_cases h logs id with ⟨fate, hsettled, hlog, _⟩ | ⟨hsettled, hlog, _⟩
  · rw [hsettled, concluded_pending]
    refine List.filter_congr fun p _ => ?_
    by_cases hp : p.1 = id
    · simp [hp, hlog]
    · simp [hp]
  · rw [hsettled, eq_comm]
    refine List.filter_eq_self.mpr fun p _ => decide_eq_true ?_
    rintro rfl
    exact hlog

theorem settledBy_balance (h : s.Disciplined outstanding) {r : Reservation}
    (hr : s.reservationOf? id = some r) :
    (s.settledBy logs id).balance =
      s.balance + if logs.rejects id then r.charge else 0 := by
  rcases settledBy_cases h logs id with ⟨fate, hsettled, _, hfate⟩ | ⟨hsettled, _, hlog⟩
  · rw [hsettled, concluded_balance hr]
    cases fate with
    | inBlock =>
        have hlog : logs.rejects id = false := by simpa using hfate
        rw [hlog]
        rfl
    | rejected =>
        rw [hfate.mp rfl]
        rfl
  · rw [hsettled, hlog]
    exact (Int.add_zero _).symm

/-- Other fragments stay pending, with what they hold. -/
theorem reservationOf?_settledBy (h : s.Disciplined outstanding) {id' : Text} (hne : id ≠ id') :
    (s.settledBy logs id).reservationOf? id' = s.reservationOf? id' := by
  rcases settledBy_cases h logs id with ⟨fate, hsettled, _⟩ | ⟨hsettled, _⟩
  · rw [hsettled]
    exact reservationOf?_concluded hne
  · rw [hsettled]

/-! ## All fragments -/

theorem foldl_settledBy_pending (h : s.Disciplined outstanding) (ids : List Text) :
    (ids.foldl (settledBy logs) s).pending =
      s.pending.filter fun p => decide (p.1 ∈ ids → logs.settles p.1 = false) := by
  induction ids generalizing s with
  | nil => simp
  | cons id ids ih =>
      rw [List.foldl_cons, ih (settledBy_disciplined h logs id), settledBy_pending h,
        List.filter_filter]
      refine List.filter_congr fun p _ => ?_
      rw [← Bool.decide_and, decide_eq_decide, List.mem_cons, or_imp, and_comm]

/-- The induction is on the fragments still to settle: each is found with the reservation that it
had at first. -/
theorem foldl_settledBy_balance (h : s.Disciplined outstanding) {ps : List (Text × Reservation)}
    (hids : (ps.map (·.1)).Nodup) (hps : ∀ p ∈ ps, s.reservationOf? p.1 = some p.2) :
    ((ps.map (·.1)).foldl (settledBy logs) s).balance =
      s.balance + Reservation.charges ((ps.filter fun p => logs.rejects p.1).map (·.2)) := by
  induction ps generalizing s with
  | nil => simp
  | cons p ps ih =>
      obtain ⟨hp, hids⟩ := List.nodup_cons.mp hids
      have hothers : ∀ q ∈ ps, (s.settledBy logs p.1).reservationOf? q.1 = some q.2 := by
        intro q hq
        have hne : p.1 ≠ q.1 := fun he => hp (List.mem_map.mpr ⟨q, hq, he.symm⟩)
        rw [reservationOf?_settledBy h hne]
        exact hps q (List.mem_cons_of_mem _ hq)
      rw [List.map_cons, List.foldl_cons, ih (settledBy_disciplined h logs p.1) hids hothers,
        settledBy_balance h (hps p List.mem_cons_self), List.filter_cons]
      split
      · rw [List.map_cons, Reservation.charges_cons, Int.add_assoc]
      · rw [Int.add_zero]

theorem polled_pending (h : s.Disciplined outstanding) (logs : FragmentLogs) :
    (s.polled (.ok logs)).pending = s.pending.filter fun p => !logs.settles p.1 := by
  unfold polled
  rw [foldl_settledBy_pending h]
  refine List.filter_congr fun p hp => ?_
  have hid : p.1 ∈ s.pendingIds := List.mem_map_of_mem hp
  simp [hid]

theorem polled_balance (h : s.Disciplined outstanding) (logs : FragmentLogs) :
    (s.polled (.ok logs)).balance =
      s.balance +
        Reservation.charges ((s.pending.filter fun p => logs.rejects p.1).map (·.2)) :=
  foldl_settledBy_balance h h.ids_nodup fun _ hp => reservationOf?_eq_some h.ids_nodup hp

theorem polled_congr (h : ∀ id ∈ s.pendingIds, other.status? id = logs.status? id) :
    s.polled (.ok other) = s.polled (.ok logs) := by
  refine List.foldl_ext _ _ _ fun t id hid => ?_
  unfold settledBy
  rw [h id hid]

theorem polled_unsettled (h : ∀ id ∈ s.pendingIds, logs.settles id = false) :
    s.polled (.ok logs) = s := by
  refine List.foldlRecOn (motive := fun t => t = s) _ _ rfl ?_
  rintro t rfl id hid
  exact settledBy_unsettled (h id hid)

theorem polled_pendingIds (h : s.Disciplined outstanding) (logs : FragmentLogs) :
    (s.polled (.ok logs)).pendingIds = s.pendingIds.filter fun id => !logs.settles id := by
  unfold pendingIds
  rw [polled_pending h, List.filter_map]
  rfl

end State

/-! ## A poll -/

namespace Settlement

variable {s : State} {d : Desk ω}

theorem Settled.after_congr {ids : List Text} {settled : Settled}
    (h : ∀ id ∈ ids, other.status? id = logs.status? id) :
    settled.after other ids = settled.after logs ids := by
  unfold after
  rw [List.filter_congr fun id hid => FragmentLogs.confirms_congr (h id hid),
    List.filter_congr fun id hid => FragmentLogs.rejects_congr (h id hid)]

theorem Settled.after_unsettled {ids : List Text} {settled : Settled}
    (h : ∀ id ∈ ids, logs.settles id = false) : settled.after logs ids = settled := by
  have hnone : ∀ id ∈ ids, logs.confirms id = false ∧ logs.rejects id = false :=
    fun id hid => Bool.or_eq_false_iff.mp (h id hid)
  unfold after
  rw [List.filter_eq_nil_iff.mpr fun id hid => Bool.eq_false_iff.mp (hnone id hid).1,
    List.filter_eq_nil_iff.mpr fun id hid => Bool.eq_false_iff.mp (hnone id hid).2,
    List.append_nil, List.append_nil]

/-- A poll yields something and leaves a wallet whenever the node answers with a log. -/
def PollYields (ω : Type) (logs : FragmentLogs) (s : State) (settled : Settled) (s' : State) :
    Prop :=
  ∀ (client : Ledger.Client ω) (world : ω), (client.fragmentLogs.effect world).1 = .ok logs →
    ∃ world', (poll client).effect ⟨s, world⟩ = (.ok settled, ⟨s', world'⟩)

theorem pollYields_after (h : s.Disciplined outstanding) (logs : FragmentLogs) :
    PollYields ω logs s (Settled.after {} logs s.pendingIds) (s.polled (.ok logs)) := by
  intro client world hanswer
  by_cases hpending : s.pending = []
  · -- nothing is asked, and nothing would be settled
    have hids : s.pendingIds = [] := List.map_eq_nil_iff.mpr hpending
    have hnone : s.polled (.ok logs) = s := by
      unfold State.polled
      rw [hids]
      rfl
    refine ⟨world, ?_⟩
    rw [effect_poll_idle client (List.isEmpty_iff.mpr hids), hnone, hids, Settled.after_nil]
  · refine ⟨(client.fragmentLogs.effect world).2, ?_⟩
    rw [effect_poll_answered client h hpending, hanswer]
    rfl

/-- What a poll makes of a wallet, as the log says. -/
structure SettledAs (logs : FragmentLogs) (s : State) (settled : Settled) (s' : State) :
    Prop where
  confirmed : settled.confirmed = s.pendingIds.filter logs.confirms
  rejected : settled.rejected = s.pendingIds.filter logs.rejects
  pending : s'.pending = s.pending.filter fun p => !logs.settles p.1
  balance : s'.balance = s.balance +
    Reservation.charges ((s.pending.filter fun p => logs.rejects p.1).map (·.2))

/-- **A poll settles what the log says.** In every session, a poll yields the pending fragments
that the log has in blocks and those that it has rejected, in the order of submission. The other
ones stay pending in that order, with their reservations, and the balance gets back the charges of
the rejected ones. What the log says of other fragments makes no difference, and a second poll with
the same log settles nothing and changes nothing. With nothing pending the node is not asked; if it
is and gives no log, the wallet stays as it is. -/
theorem poll_settles_as_logged {c : Controller ω} (hc : c.Reached) :
    (∀ logs, ∃ settled s',
      PollYields ω logs c.wallet settled s' ∧ SettledAs logs c.wallet settled s' ∧
      (∀ other : FragmentLogs,
        (∀ id ∈ c.wallet.pendingIds, other.status? id = logs.status? id) →
        PollYields ω other c.wallet settled s') ∧
      PollYields ω logs s' {} s') ∧
    ∀ (client : Ledger.Client ω) (world : ω),
      (c.wallet.pending = [] →
        (poll client).effect ⟨c.wallet, world⟩ = (.ok {}, ⟨c.wallet, world⟩)) ∧
      ∀ e, c.wallet.pending ≠ [] → (client.fragmentLogs.effect world).1 = .error e →
        (poll client).effect ⟨c.wallet, world⟩ =
          (.error e, ⟨c.wallet, (client.fragmentLogs.effect world).2⟩) := by
  have h := hc.disciplined
  refine ⟨fun logs => ?_, fun client world => ⟨fun hnone => ?_, fun e hpending hanswer => ?_⟩⟩
  · refine ⟨_, _, pollYields_after h logs,
      ⟨List.nil_append _, List.nil_append _, State.polled_pending h logs,
        State.polled_balance h logs⟩, fun other hother => ?_, ?_⟩
    · rw [← Settled.after_congr hother, ← State.polled_congr hother]
      exact pollYields_after h other
    · -- what the first poll has left is not settled by the log
      have hleft : ∀ id ∈ (c.wallet.polled (.ok logs)).pendingIds, logs.settles id = false := by
        intro id hid
        rw [State.polled_pendingIds h] at hid
        simpa using (List.mem_filter.mp hid).2
      have hagain := pollYields_after (ω := ω) (State.polled_disciplined h (.ok logs)) logs
      rw [Settled.after_unsettled hleft, State.polled_unsettled hleft] at hagain
      exact hagain
  · have hids : c.wallet.pendingIds.isEmpty = true := by
      rw [State.pendingIds_isEmpty, hnone]
      rfl
    exact effect_poll_idle client hids
  · rw [effect_poll_answered client h hpending, hanswer]
    rfl

/-- A log in which four transfers have ended in every way, and one that was never pending. -/
def mixedLog : FragmentLogs :=
  [{ id := Text.ofChars ['b'], status := .rejected "unknown" },
    { id := Text.ofChars ['a', 'a', 'a', 'a'], status := .rejected "late" },
    { id := Text.ofChars ['a', 'a', 'a'], status := .pending },
    { id := Text.ofChars ['a', 'a'], status := .inABlock none "" },
    { id := Text.ofChars ['a'], status := .rejected "late" }]

/-- A node with that log, whose account state contains the first transfer. -/
def logging : Ledger.Client Nat :=
  { numbering with
    accountState := fun _ => pure { value := 88, counter := 1 }
    fragmentLogs := pure mixedLog }

/-- A session in which four transfers are pending and the account state was fetched. -/
def fourPaid : Controller Nat :=
  [payment, payment, payment, payment, .switchClient logging, .refreshState].foldl
    (fun c op => (op.perform.effect c).2) numbered

/-- Of the two rejected transfers only the last gives back its charge: the first is part of the
account state. -/
theorem poll_settles_as_logged_mixed :
    fourPaid.Reached ∧ fourPaid.wallet.balance = 52 ∧
      ∃ settled s' world',
        (poll logging).effect ⟨fourPaid.wallet, 4⟩ = (.ok settled, ⟨s', world'⟩) ∧
        settled.confirmed = [Text.ofChars ['a', 'a']] ∧
        settled.rejected = [Text.ofChars ['a'], Text.ofChars ['a', 'a', 'a', 'a']] ∧
        s'.pending = [(Text.ofChars ['a', 'a', 'a'], { counter := some 2, value := 12 })] ∧
        s'.balance = 64 ∧
        ∃ world', (poll logging).effect ⟨s', 4⟩ = (.ok {}, ⟨s', world'⟩) := by
  have hreached : fourPaid.Reached :=
    .operation _ (.operation _ (.operation _ (.operation _ (.operation _ (.operation _
      (.fresh ⟨rfl, rfl⟩))))))
  have hbalance : fourPaid.wallet.balance = 52 := by decide +kernel
  obtain ⟨settled, s', hpoll, hsettled, -, hagain⟩ :=
    (poll_settles_as_logged hreached).1 mixedLog
  obtain ⟨world', hfirst⟩ := hpoll logging 4 rfl
  refine ⟨hreached, hbalance, settled, s', world', hfirst, ?_, ?_, ?_, ?_,
    hagain logging 4 rfl⟩
  · rw [hsettled.confirmed]
    decide +kernel
  · rw [hsettled.rejected]
    decide +kernel
  · rw [hsettled.pending]
    decide +kernel
  · rw [hsettled.balance, hbalance]
    decide +kernel

end Settlement

end Wallet

end BallotWallet
