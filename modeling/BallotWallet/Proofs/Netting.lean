import BallotWallet.Proofs.Usage

/-!
# What an account state does not contain

An account state of the node contains the fragments below its counter, so only the others are
taken off its value. A fragment that one account state contained keeps its mark: it is not taken
off again, not even off one from a node that lags behind and does not contain it. The floor
remembers how far the account states have come.
-/

namespace BallotWallet.Wallet

open BallotWallet.Action

namespace State

variable {s : State} {n floor : Int} {r : Reservation}

/-- The value of the reservations with a counter from a number on. -/
def valueFrom (n : Int) : List (Text × Reservation) → Int
  | [] => 0
  | (_, r) :: pending => (if r.counter.any (n ≤ ·) then r.value else 0) + valueFrom n pending

/-- What pending fragments take from an account state with a counter. -/
def dueFrom (n : Int) (s : State) : Int :=
  valueFrom n s.pending

/-- A reservation is taken off an account state if neither this one contains it nor an earlier
one. -/
theorem charge_markApplied (hmarked : ∀ c, r.counter = some c → (r.applied = true ↔ c < floor))
    (hbare : r.counter = none → r.value = 0) (n : Int) :
    (markApplied n r).charge = if r.counter.any (max floor n ≤ ·) then r.value else 0 := by
  unfold Reservation.charge
  rw [markApplied_value]
  cases hc : r.counter with
  | none => simp [hbare hc]
  | some c =>
      have happlied := (markApplied_applied n hc).trans (or_congr_left (hmarked c hc))
      by_cases hdue : max floor n ≤ c
      · have hout : ¬ (markApplied n r).applied = true := by
          rw [happlied]
          omega
        rw [if_neg hout, Option.any_some, if_pos (decide_eq_true hdue)]
      · have hin : (markApplied n r).applied = true := by
          rw [happlied]
          omega
        rw [if_pos hin, Option.any_some, if_neg (by simpa only [decide_eq_true_eq] using hdue)]

theorem unapplied_markApplied {pending : List (Text × Reservation)}
    (hmarked : ∀ p ∈ pending, ∀ c, p.2.counter = some c → (p.2.applied = true ↔ c < floor))
    (hbare : ∀ p ∈ pending, p.2.counter = none → p.2.value = 0) (n : Int) :
    unapplied (pending.map fun p => (p.1, markApplied n p.2)) =
      valueFrom (max floor n) pending := by
  induction pending with
  | nil => rfl
  | cons p pending ih =>
      have hhead := charge_markApplied (hmarked p List.mem_cons_self)
        (hbare p List.mem_cons_self) n
      have hrest := ih (fun q hq => hmarked q (List.mem_cons_of_mem _ hq))
        (fun q hq => hbare q (List.mem_cons_of_mem _ hq))
      rw [List.map_cons, unapplied, hrest]
      exact congrArg (· + _) hhead

end State

namespace Run

variable {t : Run}

theorem Used.marked (h : Used t) : ∀ p ∈ t.wallet.pending, ∀ c, p.2.counter = some c →
    (p.2.applied = true ↔ c < t.wallet.floor) := by
  obtain ⟨a, rfl, ha⟩ := h.audited
  exact ha.marked

/-- **The balance after an account state was fetched.** However a wallet was used, whatever the
account state says: it is taken over, and the balance is its value, less the values of the pending
reservations whose counter is neither below its counter nor below the floor. So if the account
state is not behind the floor, the balance is its value less what is pending from its counter
on. -/
theorem refresh_nets (h : Used t) (snapshot : AccountSnapshot) :
    ∃ s, (Book.refresh snapshot).effect t.wallet = (.ok (), s) ∧
      s.balance = snapshot.value - t.wallet.dueFrom (max t.wallet.floor snapshot.counter) ∧
      (t.wallet.floor ≤ snapshot.counter →
        s.balance = snapshot.value - t.wallet.dueFrom snapshot.counter) := by
  have hbalance : (t.wallet.refresh snapshot).balance =
      snapshot.value - t.wallet.dueFrom (max t.wallet.floor snapshot.counter) := by
    obtain ⟨hrefresh, _⟩ := State.refresh_frame snapshot t.wallet
    rw [hrefresh, State.unapplied_markApplied h.marked (fun p hp => h.bare hp)]
    rfl
  refine ⟨_, Book.effect_refresh snapshot t.wallet, hbalance, fun hnew => ?_⟩
  rw [hbalance, Int.max_eq_right hnew]

/-- A wallet whose only pending fragment is part of the last account state. -/
def caughtUp : Run :=
  [Move.reserve 100, .track (Text.ofChars ['a']) { counter := some 0, value := 100 },
    .refresh { value := 900, counter := 1 }].foldl step { wallet := { balance := 1000 } }

theorem caughtUp_used : Used caughtUp := by
  have hstart : State.start 0 1000 = .ok { balance := 1000 } := rfl
  exact (Used.start hstart).foldl (by decide +kernel)

/-- The same account state again takes nothing off, and it is not behind the floor. -/
theorem refresh_nets_caughtUp :
    Used caughtUp ∧ caughtUp.wallet.floor ≤ 1 ∧ caughtUp.wallet.dueFrom 1 = 0 ∧
      ∃ s, (Book.refresh { value := 900, counter := 1 }).effect caughtUp.wallet = (.ok (), s) ∧
        s.balance = 900 := by
  have hfloor : caughtUp.wallet.floor ≤ 1 := by decide +kernel
  have hdue : caughtUp.wallet.dueFrom 1 = 0 := by decide +kernel
  obtain ⟨s, heffect, _, hnets⟩ := refresh_nets caughtUp_used { value := 900, counter := 1 }
  refine ⟨caughtUp_used, hfloor, hdue, s, heffect, ?_⟩
  rw [hnets hfloor, hdue]
  rfl

/-- An account state from before the fragment does not contain it, but nothing is taken off. -/
theorem lagging_not_netted :
    Used caughtUp ∧ caughtUp.wallet.dueFrom 0 = 100 ∧
      ∃ s, (Book.refresh { value := 1000, counter := 0 }).effect caughtUp.wallet = (.ok (), s) ∧
        s.balance = 1000 ∧ s.balance ≠ 1000 - caughtUp.wallet.dueFrom 0 := by
  have hdue : caughtUp.wallet.dueFrom 0 = 100 := by decide +kernel
  have hbalance : (caughtUp.wallet.refresh { value := 1000, counter := 0 }).balance = 1000 := by
    decide +kernel
  refine ⟨caughtUp_used, hdue, _, Book.effect_refresh _ _, hbalance, ?_⟩
  rw [hbalance, hdue]
  decide

end Run

end BallotWallet.Wallet
