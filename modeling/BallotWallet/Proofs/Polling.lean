import BallotWallet.Proofs.Effect
import BallotWallet.Wallet.Settlement

/-!
# Polling

What one look at the fragment log does. A poll asks the node once, if anything is pending, and
settles the pending fragments that the log settles. In a wallet that keeps the counter discipline
every pending fragment can be settled either way, so a poll fails only if the node gives no log,
and then the wallet stays as it is.
-/

namespace BallotWallet

namespace FragmentLogs

/-- Whether a log has a fragment in a block. -/
def confirms (logs : FragmentLogs) (id : Text) : Bool :=
  match logs.status? id with
  | some (.inABlock _ _) => true
  | _ => false

/-- Whether a log has a fragment rejected. -/
def rejects (logs : FragmentLogs) (id : Text) : Bool :=
  match logs.status? id with
  | some (.rejected _) => true
  | _ => false

end FragmentLogs

namespace Wallet

open BallotWallet.Action

variable {ω : Type} {d : Desk ω} {outstanding : List Int}

namespace State

/-- The wallet after a pending fragment was settled as a log says. -/
def settledBy (logs : FragmentLogs) (s : State) (id : Text) : State :=
  match logs.status? id with
  | some (.inABlock _ _) => s.confirm id
  | some (.rejected _) => (s.rollback id).2
  | _ => s

/-- The wallet after a poll to which the node gave an answer. -/
def polled (s : State) : Except Failure FragmentLogs → State
  | .ok logs => s.pendingIds.foldl (settledBy logs) s
  | .error _ => s

theorem settledBy_disciplined {s : State} (h : s.Disciplined outstanding) (logs : FragmentLogs)
    (id : Text) : (s.settledBy logs id).Disciplined outstanding := by
  unfold settledBy
  split
  · exact confirm_disciplined h
  · exact rollback_disciplined h
  · exact h

theorem polled_disciplined {s : State} (h : s.Disciplined outstanding)
    (answer : Except Failure FragmentLogs) : (s.polled answer).Disciplined outstanding := by
  cases answer with
  | error e => exact h
  | ok logs =>
      refine List.foldlRecOn (motive := fun s : State => s.Disciplined outstanding) _ _ h ?_
      exact fun s hs id _ => settledBy_disciplined hs logs id

theorem pendingIds_isEmpty {s : State} : s.pendingIds.isEmpty = s.pending.isEmpty := by
  unfold pendingIds
  exact List.isEmpty_map

end State

namespace Settlement

/-- What is settled after some more fragments were settled as a log says. -/
def Settled.after (settled : Settled) (logs : FragmentLogs) (ids : List Text) : Settled where
  confirmed := settled.confirmed ++ ids.filter logs.confirms
  rejected := settled.rejected ++ ids.filter logs.rejects

theorem Settled.after_nil (settled : Settled) (logs : FragmentLogs) :
    settled.after logs [] = settled := by
  simp [after]

theorem Settled.after_cons (settled : Settled) (logs : FragmentLogs) (id : Text)
    (ids : List Text) :
    settled.after logs (id :: ids) = (settled.after logs [id]).after logs ids := by
  simp only [after, List.append_assoc, ← List.filter_append, List.singleton_append]

theorem effect_settle (h : d.wallet.Disciplined outstanding) (logs : FragmentLogs)
    (settled : Settled) (id : Text) :
    (settle logs settled id).effect d =
      (.ok (settled.after logs [id]), { d with wallet := d.wallet.settledBy logs id }) := by
  unfold settle State.settledBy Settled.after
  simp only [List.filter_singleton, FragmentLogs.confirms, FragmentLogs.rejects]
  rcases logs.status? id with _ | ⟨_ | ⟨date, block⟩ | reason⟩
  · simp
  · simp
  · rw [effect_bind, Desk.effect_book, Book.effect_confirm, cond_true, cond_false,
      List.append_nil]
    rfl
  · obtain ⟨given, hgiven⟩ : ∃ given, (d.wallet.rollback id).1 = .ok given :=
      State.rollback_ok h
    rw [effect_bind, Desk.effect_book, Book.effect_rollback, hgiven, cond_true, cond_false,
      List.append_nil]
    rfl

theorem effect_settleEach (h : d.wallet.Disciplined outstanding) (logs : FragmentLogs)
    (settled : Settled) (ids : List Text) :
    (settleEach logs settled ids).effect d =
      (.ok (settled.after logs ids),
        { d with wallet := ids.foldl (State.settledBy logs) d.wallet }) := by
  induction ids generalizing settled d with
  | nil =>
      rw [Settled.after_nil]
      rfl
  | cons id ids ih =>
      have hrest := ih (d := { d with wallet := d.wallet.settledBy logs id })
        (State.settledBy_disciplined h logs id) (settled.after logs [id])
      unfold settleEach
      rw [effect_bind_ok (effect_settle h logs settled id), hrest, ← Settled.after_cons]
      rfl

theorem effect_poll_idle (client : Ledger.Client ω) {d : Desk ω}
    (h : d.wallet.pendingIds.isEmpty = true) : (poll client).effect d = (.ok {}, d) := by
  unfold poll
  rw [effect_bind_ok (Desk.effect_state d)]
  simp only [h, if_true]
  rfl

/-- What a poll reports makes no difference. -/
theorem effect_poll (client : Ledger.Client ω) {d : Desk ω}
    (h : d.wallet.pendingIds.isEmpty = false) :
    (poll client).effect d =
      (Desk.request client.fragmentLogs >>= fun logs =>
        settleEach logs {} d.wallet.pendingIds).effect d := by
  unfold poll
  rw [effect_bind_ok (Desk.effect_state d)]
  simp only [h, Bool.false_eq_true, if_false]
  rw [effect_bind, effect_bind]
  rcases (Desk.request client.fragmentLogs).effect d with ⟨⟨e⟩ | ⟨logs⟩, d'⟩
  · rfl
  · dsimp only
    rw [effect_bind]
    rcases (settleEach logs {} d.wallet.pendingIds).effect d' with ⟨⟨e⟩ | ⟨settled⟩, d''⟩
    · rfl
    · dsimp only
      split <;> rfl

/-- A poll fails only as the query of the log fails, and settles what the log settles. -/
theorem effect_poll_answered (client : Ledger.Client ω) (h : d.wallet.Disciplined outstanding)
    (hpending : d.wallet.pending ≠ []) :
    (poll client).effect d =
      ((client.fragmentLogs.effect d.world).1.map fun logs =>
          Settled.after {} logs d.wallet.pendingIds,
        ⟨d.wallet.polled (client.fragmentLogs.effect d.world).1,
          (client.fragmentLogs.effect d.world).2⟩) := by
  have hids : d.wallet.pendingIds.isEmpty = false := by
    rw [State.pendingIds_isEmpty]
    exact List.isEmpty_eq_false_iff.mpr hpending
  rw [effect_poll client hids, effect_bind, Desk.effect_request]
  rcases client.fragmentLogs.effect d.world with ⟨⟨e⟩ | ⟨logs⟩, world⟩
  · rfl
  · exact effect_settleEach (d := { d with world := world }) h logs {} d.wallet.pendingIds

end Settlement

end Wallet

end BallotWallet
