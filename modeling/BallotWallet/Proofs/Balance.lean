import BallotWallet.Proofs.Run
import Mathlib.Algebra.BigOperators.Group.List.Basic
import Mathlib.Algebra.Ring.Int.Defs

/-!
# The balance of a run

The balance is what the node reported last, less what was reserved since and is not part of that
report. A refresh marks the reservations that are part of it by their counters, so the equation
needs a second one: a pending reservation is marked exactly when its counter is below the floor.
-/

namespace BallotWallet.Wallet

/-! ## What reservations take -/

/-- What reservations take together. -/
def Reservation.charges (rs : List Reservation) : Int :=
  (rs.map charge).sum

namespace Reservation

variable {rs others : List Reservation}

@[simp] theorem charges_nil : charges [] = 0 :=
  rfl

@[simp] theorem charges_cons (r : Reservation) (rs : List Reservation) :
    charges (r :: rs) = r.charge + charges rs := by
  simp [charges]

@[simp] theorem charges_append (rs others : List Reservation) :
    charges (rs ++ others) = charges rs + charges others := by
  simp [charges]

theorem charges_perm (h : rs.Perm others) : charges rs = charges others :=
  (h.map charge).sum_eq

theorem charges_erase {r : Reservation} (h : r ∈ rs) :
    charges rs = r.charge + charges (rs.erase r) := by
  rw [charges_perm (List.perm_cons_erase h), charges_cons]

end Reservation

namespace State

variable {s : State} {outstanding : List Int} {id : Text} {r : Reservation}

/-- The reservations of the pending fragments. -/
def held (s : State) : List Reservation :=
  s.pending.map (·.2)

theorem unapplied_eq_charges (ps : List (Text × Reservation)) :
    unapplied ps = Reservation.charges (ps.map (·.2)) := by
  induction ps with
  | nil => rfl
  | cons p ps ih =>
      rw [unapplied, ih, List.map_cons, Reservation.charges_cons]
      rfl

/-- A pending fragment that is forgotten takes its charge with it. -/
theorem charges_forget (hids : s.pendingIds.Nodup) (hr : s.reservationOf? id = some r) :
    Reservation.charges s.held = r.charge + Reservation.charges (s.forget id).held := by
  have hperm := (perm_of_lookup hids hr).map (·.2)
  unfold held
  rw [Reservation.charges_perm hperm, List.map_cons, Reservation.charges_cons]
  rfl

/-! ## Balance and floor after one operation -/

/-- Settling fragments in blocks forgets them and moves neither the floor nor the balance. -/
theorem foldl_confirm (ids : List Text) (s : State) :
    (ids.foldl (fun s id => s.confirm id) s).floor = s.floor ∧
      (ids.foldl (fun s id => s.confirm id) s).balance = s.balance ∧
      ∀ p ∈ (ids.foldl (fun s id => s.confirm id) s).pending, p ∈ s.pending ∧ p.1 ∉ ids := by
  induction ids generalizing s with
  | nil => exact ⟨rfl, rfl, fun p hp => ⟨hp, List.not_mem_nil⟩⟩
  | cons id ids ih =>
      obtain ⟨hfloor, hbalance, hpending⟩ := ih (s.confirm id)
      refine ⟨hfloor.trans confirm_frame.2.1, hbalance.trans confirm_frame.2.2.2, ?_⟩
      intro p hp
      obtain ⟨hp, hids⟩ := hpending p hp
      rw [confirm_pending, mem_forget] at hp
      refine ⟨hp.1, ?_⟩
      rw [List.mem_cons, not_or]
      exact ⟨hp.2, hids⟩

theorem confirmAll_frame (s : State) :
    s.confirmAll.floor = s.floor ∧ s.confirmAll.balance = s.balance ∧
      s.confirmAll.pending = [] := by
  obtain ⟨hfloor, hbalance, hpending⟩ := foldl_confirm s.pendingIds s
  refine ⟨hfloor, hbalance, List.eq_nil_iff_forall_not_mem.mpr ?_⟩
  intro p hp
  obtain ⟨hmem, hids⟩ := hpending p hp
  exact hids (List.mem_map_of_mem hmem)

theorem refreshCounters_floor (hfloor : s.floor ≤ s.nextCounter) (hpending : s.pending ≠ [])
    (snapshot : AccountSnapshot) :
    (s.refreshCounters snapshot).floor = max s.floor snapshot.counter := by
  have hsome : s.pending.isEmpty = false := by simpa using hpending
  unfold refreshCounters
  rw [hsome, if_neg Bool.false_ne_true]
  split
  · show snapshot.counter = _
    omega
  · split
    · show snapshot.counter = _
      omega
    · omega

/-- While fragments are pending the floor only rises. -/
theorem refresh_floor (h : s.Disciplined outstanding) (hpending : s.pending ≠ [])
    (snapshot : AccountSnapshot) :
    (s.refresh snapshot).floor = max s.floor snapshot.counter :=
  @refreshCounters_floor (s.refreshBalance snapshot) h.floor_le
    (by simpa [refreshBalance] using hpending) snapshot

theorem markApplied_applied {c : Int} (n : Int) (hc : r.counter = some c) :
    (markApplied n r).applied = true ↔ r.applied = true ∨ c < n := by
  unfold markApplied
  rw [hc]
  dsimp only
  by_cases hlt : c < n
  · simp [hlt]
  · simp [hlt]

end State

/-! ## Runs with their account -/

/-- A run, with what its balance is made of. -/
structure Audit where
  run : Run
  /-- The balance in the last account state that was fetched, or the first balance. -/
  base : Int
  /-- What the fragments had reserved that settled in blocks since then. -/
  confirmed : List Reservation := []

namespace Audit

/-- The last reported balance after an operation. -/
def baseAfter (a : Audit) : Move → Int
  | .refresh snapshot => snapshot.value
  | _ => a.base

/-- The reservations confirmed since the last report, after an operation. -/
def confirmedAfter (a : Audit) : Move → List Reservation
  | .refresh _ => []
  | .confirm id => (a.run.wallet.reservationOf? id).toList ++ a.confirmed
  | .confirmAll => a.run.wallet.held ++ a.confirmed
  | _ => a.confirmed

def step (a : Audit) (m : Move) : Audit where
  run := a.run.step m
  base := a.baseAfter m
  confirmed := a.confirmedAfter m

/-- What a run can come to from a first state, with its account. -/
inductive Reached (s : State) : Audit → Prop
  | start : Reached s { run := { wallet := s }, base := s.balance }
  | step {a : Audit} (m : Move) : Reached s a → m.Allowed a.run → Reached s (a.step m)

/-- The account accompanies a run and does not change what it can come to. -/
theorem reached_run_iff {s : State} {t : Run} :
    Run.Reached s t ↔ ∃ a, Reached s a ∧ a.run = t := by
  constructor
  · intro h
    induction h with
    | start => exact ⟨_, .start, rfl⟩
    | step m _ hm ih =>
        obtain ⟨a, ha, rfl⟩ := ih
        exact ⟨a.step m, .step m ha hm, rfl⟩
  · rintro ⟨a, ha, rfl⟩
    induction ha with
    | start => exact .start
    | step m _ hm ih => exact .step m ih hm

/-- The balance is accounted for, and the marks of the pending fragments are right. -/
structure Balanced (a : Audit) : Prop where
  sound : a.run.Sound
  /-- What is outstanding was reserved since the last report. -/
  fresh : ∀ r ∈ a.run.outstanding,
    r.applied = false ∧ ∀ c, r.counter = some c → a.run.wallet.floor ≤ c
  marked : ∀ p ∈ a.run.wallet.pending, ∀ c, p.2.counter = some c →
    (p.2.applied = true ↔ c < a.run.wallet.floor)
  balance_eq : a.run.wallet.balance =
    a.base - Reservation.charges a.run.outstanding - Reservation.charges a.run.wallet.held -
      Reservation.charges a.confirmed

variable {a : Audit} {id : Text} {r : Reservation}

/-! ## One operation -/

theorem Balanced.reserve (h : a.Balanced) (value : Int) : (a.step (.reserve value)).Balanced := by
  have hdisciplined := h.sound.accounted.toDisciplined
  refine ⟨Run.step_sound h.sound (.reserve value) trivial, ?_, ?_, ?_⟩
  all_goals simp only [step, Run.step, hdisciplined.reserve_eq, baseAfter, confirmedAfter]
  · intro r hr
    rcases List.mem_cons.mp hr with rfl | hr
    · refine ⟨rfl, ?_⟩
      rintro c ⟨⟩
      exact hdisciplined.floor_le_counter
    · exact h.fresh r hr
  · exact h.marked
  · have hbalance := h.balance_eq
    rw [Reservation.charges_cons]
    simp only [State.reserved, State.held, Reservation.charge] at hbalance ⊢
    simp only [Bool.false_eq_true, if_false]
    omega

/-- A submitted fragment is pending with what was outstanding for it, or with nothing. -/
theorem Balanced.tracked (h : a.Balanced) {reservation : Option Reservation}
    {rest : List Reservation}
    (hsound : Run.Sound
      { a.run with wallet := a.run.wallet.tracked id reservation, outstanding := rest })
    (hsplit : a.run.outstanding.Perm (reservation.toList ++ rest)) :
    Balanced { a with
      run := { a.run with
        wallet := a.run.wallet.tracked id reservation
        outstanding := rest } } := by
  have hrest : ∀ r ∈ rest, r ∈ a.run.outstanding := fun r hr =>
    hsplit.symm.subset (List.mem_append_right _ hr)
  refine ⟨hsound, fun r hr => h.fresh r (hrest r hr), ?_, ?_⟩
  · intro p hp c hc
    rcases List.mem_append.mp hp with hp | hp
    · exact h.marked p hp c hc
    · obtain rfl := List.mem_singleton.mp hp
      cases reservation with
      | none => cases hc
      | some r =>
          have hfresh := h.fresh r (hsplit.symm.subset (List.mem_cons_self))
          have hfloor := hfresh.2 c hc
          show r.applied = true ↔ c < a.run.wallet.floor
          rw [hfresh.1]
          simpa using hfloor
  · have hbalance := h.balance_eq
    rw [Reservation.charges_perm hsplit, Reservation.charges_append] at hbalance
    simp only [State.tracked, State.held, List.map_append, Reservation.charges_append,
      List.map_cons, List.map_nil, Reservation.charges_cons, Reservation.charges_nil] at hbalance ⊢
    cases reservation with
    | none =>
        simp only [Option.toList_none, Reservation.charges_nil, Option.getD_none,
          Reservation.charge] at hbalance ⊢
        omega
    | some r =>
        simp only [Option.toList_some, Reservation.charges_cons, Reservation.charges_nil,
          Option.getD_some] at hbalance ⊢
        omega

theorem Balanced.track (h : a.Balanced) (hr : r ∈ a.run.outstanding) :
    (a.step (.track id r)).Balanced := by
  have hsound := Run.step_sound h.sound (.track id r) hr
  by_cases hid : id ∈ a.run.wallet.pendingIds
  · have hstep : a.step (.track id r) = a := by
      unfold step
      simp only [Run.step, State.track_pending hid, baseAfter, confirmedAfter]
    rw [hstep]
    exact h
  · simp only [Run.step, State.track_eq hid] at hsound
    simp only [step, Run.step, State.track_eq hid, baseAfter, confirmedAfter]
    exact h.tracked hsound (List.perm_cons_erase hr)

theorem Balanced.trackBare (h : a.Balanced) (id : Text) : (a.step (.trackBare id)).Balanced := by
  have hsound := Run.step_sound h.sound (.trackBare id) trivial
  by_cases hid : id ∈ a.run.wallet.pendingIds
  · have hstep : a.step (.trackBare id) = a := by
      unfold step
      simp only [Run.step, State.track_pending hid, baseAfter, confirmedAfter]
    rw [hstep]
    exact h
  · simp only [Run.step, State.track_eq hid] at hsound
    simp only [step, Run.step, State.track_eq hid, baseAfter, confirmedAfter]
    exact h.tracked hsound (List.Perm.refl _)

theorem Balanced.release (h : a.Balanced) (hr : r ∈ a.run.outstanding) :
    (a.step (.release r)).Balanced := by
  have hrelease := (h.sound.taken hr).release_eq
  refine ⟨Run.step_sound h.sound (.release r) hr, ?_, ?_, ?_⟩
  all_goals simp only [step, Run.step, hrelease, baseAfter, confirmedAfter]
  · intro q hq
    rw [State.unwound_floor]
    exact h.fresh q (List.mem_of_mem_erase hq)
  · rw [State.unwound_pending, State.unwound_floor]
    exact h.marked
  · have hbalance := h.balance_eq
    rw [Reservation.charges_erase hr] at hbalance
    rw [State.held, State.unwound_pending, State.unwound_balance]
    unfold State.held at hbalance
    omega

theorem Balanced.confirm (h : a.Balanced) (id : Text) : (a.step (.confirm id)).Balanced := by
  refine ⟨Run.step_sound h.sound (.confirm id) trivial, ?_, ?_, ?_⟩
  all_goals simp only [step, Run.step, Run.confirm, baseAfter, confirmedAfter]
  · rw [State.confirm_frame.2.1]
    exact h.fresh
  · rw [State.confirm_frame.2.1, State.confirm_pending]
    exact fun p hp => h.marked p (State.mem_forget.mp hp).1
  · have hbalance := h.balance_eq
    rw [State.confirm_frame.2.2.2, State.held, State.confirm_pending,
      Reservation.charges_append]
    cases hr : a.run.wallet.reservationOf? id with
    | none =>
        rw [State.forget_absent (State.reservationOf?_eq_none.mp hr)]
        simpa [State.held] using hbalance
    | some r =>
        rw [State.charges_forget h.sound.accounted.ids_nodup hr] at hbalance
        simp only [State.held, Option.toList_some, Reservation.charges_cons,
          Reservation.charges_nil] at hbalance ⊢
        omega

theorem Balanced.rollback (h : a.Balanced) (id : Text) : (a.step (.rollback id)).Balanced := by
  have hdisciplined := h.sound.accounted.toDisciplined
  cases hr : a.run.wallet.reservationOf? id with
  | none =>
      have hstep : a.step (.rollback id) = a := by
        unfold step
        simp only [Run.step, State.rollback_absent (State.reservationOf?_eq_none.mp hr),
          baseAfter, confirmedAfter]
      rw [hstep]
      exact h
  | some r =>
      refine ⟨Run.step_sound h.sound (.rollback id) trivial, ?_, ?_, ?_⟩
      all_goals
        simp only [step, Run.step, State.rollback_eq hdisciplined hr, baseAfter, confirmedAfter]
      · rw [State.unwound_floor]
        exact h.fresh
      · rw [State.unwound_floor, State.unwound_pending]
        exact fun p hp => h.marked p (State.mem_forget.mp hp).1
      · have hbalance := h.balance_eq
        rw [State.charges_forget hdisciplined.ids_nodup hr] at hbalance
        rw [State.held, State.unwound_pending, State.unwound_balance]
        simp only [State.held, State.forget] at hbalance ⊢
        omega

theorem foldl_confirm_outstanding (ids : List Text) (t : Run) :
    (ids.foldl Run.confirm t).outstanding = t.outstanding := by
  induction ids generalizing t with
  | nil => rfl
  | cons id ids ih => exact ih (t.confirm id)

theorem Balanced.confirmAll (h : a.Balanced) : (a.step .confirmAll).Balanced := by
  obtain ⟨hfloor, hkept, hnone⟩ := a.run.wallet.confirmAll_frame
  refine ⟨Run.step_sound h.sound .confirmAll trivial, ?_, ?_, ?_⟩
  all_goals
    simp only [step, Run.step, foldl_confirm_outstanding, baseAfter, confirmedAfter]
  · rw [hfloor]
    exact h.fresh
  · rw [hnone]
    exact fun p hp => absurd hp List.not_mem_nil
  · have hbalance := h.balance_eq
    rw [hkept, State.held, hnone, List.map_nil, Reservation.charges_nil,
      Reservation.charges_append]
    omega

/-- A report resets the account: what is pending is marked or charged anew. -/
theorem Balanced.refresh (h : a.Balanced) (hnone : a.run.outstanding = [])
    (snapshot : AccountSnapshot) : (a.step (.refresh snapshot)).Balanced := by
  have hdisciplined := h.sound.accounted.toDisciplined
  refine ⟨Run.step_sound h.sound (.refresh snapshot) hnone, ?_, ?_, ?_⟩
  all_goals simp only [step, Run.step, baseAfter, confirmedAfter, hnone]
  · exact fun r hr => absurd hr List.not_mem_nil
  · intro p hp c hc
    rw [State.refresh_pending] at hp
    obtain ⟨q, hq, rfl⟩ := List.mem_map.mp hp
    rw [State.markApplied_counter] at hc
    have hmarked := h.marked q hq c hc
    rw [State.markApplied_applied _ hc, hmarked,
      State.refresh_floor hdisciplined (List.ne_nil_of_mem hq)]
    omega
  · obtain ⟨hbalance, _⟩ := State.refresh_frame snapshot a.run.wallet
    rw [hbalance, State.unapplied_eq_charges, State.held, State.refresh_pending]
    simp only [Reservation.charges_nil]
    omega

/-! ## Every run -/

/-- Every allowed operation keeps the balance accounted for. -/
theorem step_balanced (h : a.Balanced) (m : Move) (hm : m.Allowed a.run) :
    (a.step m).Balanced := by
  cases m with
  | reserve value => exact h.reserve value
  | track id r => exact h.track hm
  | trackBare id => exact h.trackBare id
  | release r => exact h.release hm
  | confirm id => exact h.confirm id
  | rollback id => exact h.rollback id
  | confirmAll => exact h.confirmAll
  | refresh snapshot => exact h.refresh hm snapshot

theorem start_balanced {counter balance : Int} {s : State}
    (hstart : State.start counter balance = .ok s) :
    Balanced { run := { wallet := s }, base := s.balance } := by
  have hsound : Run.Sound { wallet := s } := Run.reached_sound hstart .start
  have hpending : s.pending = [] := by rw [State.start_eq hstart]
  refine ⟨hsound, by simp, by simp [hpending], ?_⟩
  simp [State.held, hpending]

theorem reached_balanced {counter balance : Int} {s : State}
    (hstart : State.start counter balance = .ok s) (h : Reached s a) : a.Balanced := by
  induction h with
  | start => exact start_balanced hstart
  | step m _ hm ih => exact step_balanced ih m hm

/-- **The balance is accounted for.** In every run, the balance is the one that the node reported
last, or the first one, less the values of the outstanding and pending reservations that are not
marked as applied and of those confirmed since that were not. A pending reservation with a counter
is marked exactly if its counter is below the floor. -/
theorem balance_eq_base_sub_charges {counter balance : Int} {s : State}
    (hstart : State.start counter balance = .ok s) (h : Reached s a) :
    a.run.wallet.balance =
        a.base - Reservation.charges (a.run.outstanding ++ a.run.wallet.pending.map (·.2)) -
          Reservation.charges a.confirmed ∧
      ∀ p ∈ a.run.wallet.pending, ∀ c, p.2.counter = some c →
        (p.2.applied = true ↔ c < a.run.wallet.floor) := by
  have hbalanced := reached_balanced hstart h
  refine ⟨?_, hbalanced.marked⟩
  have hbalance := hbalanced.balance_eq
  rw [Reservation.charges_append]
  unfold State.held at hbalance
  omega

/-- A run with a report between: of the counters 5, 6 and 7 the first is part of it and pending,
the second has settled since, the third was given back and is taken again. -/
def reported : Audit :=
  let a : Text := Text.ofChars ['a']
  let b : Text := Text.ofChars ['b']
  [Move.reserve 10, .reserve 20, .reserve 30, .track a { counter := some 5, value := 10 },
    .track b { counter := some 6, value := 20 }, .release { counter := some 7, value := 30 },
    .refresh { value := 85, counter := 6 }, .confirm b, .reserve 7].foldl step
    { run := { wallet := { nextCounter := 5, floor := 5, balance := 100 } }, base := 100 }

/-- The balance is the reported one less the charges of the second and the third. -/
theorem balance_reported :
    State.start 5 100 = .ok { nextCounter := 5, floor := 5, balance := 100 } ∧
    Reached { nextCounter := 5, floor := 5, balance := 100 } reported ∧
      reported.base = 85 ∧ reported.confirmed = [{ counter := some 6, value := 20 }] ∧
      reported.run.outstanding = [{ counter := some 7, value := 7 }] ∧
      reported.run.wallet.pending =
        [(Text.ofChars ['a'], { counter := some 5, value := 10, applied := true })] ∧
      reported.run.wallet.balance = 85 - (7 + 0) - 20 ∧ 5 < reported.run.wallet.floor := by
  have hstart : State.start 5 100 = .ok { nextCounter := 5, floor := 5, balance := 100 } := rfl
  have hreached : Reached { nextCounter := 5, floor := 5, balance := 100 } reported := by
    unfold reported
    simp only [List.foldl_cons, List.foldl_nil]
    refine .step _ (.step _ (.step _ (.step _ (.step _ (.step _ (.step _ (.step _ (.step _ .start
      trivial) trivial) trivial) ?_) ?_) ?_) ?_) trivial) trivial
    · show _ ∈ Run.outstanding _
      decide +kernel
    · show _ ∈ Run.outstanding _
      decide +kernel
    · show _ ∈ Run.outstanding _
      decide +kernel
    · show Run.outstanding _ = []
      decide +kernel
  have hpending : reported.run.wallet.pending =
      [(Text.ofChars ['a'], { counter := some 5, value := 10, applied := true })] := by
    decide +kernel
  have hbase : reported.base = 85 := by decide +kernel
  have hconfirmed : reported.confirmed = [{ counter := some 6, value := 20 }] := by
    decide +kernel
  have houtstanding : reported.run.outstanding = [{ counter := some 7, value := 7 }] := by
    decide +kernel
  obtain ⟨hbalance, hmarked⟩ := balance_eq_base_sub_charges hstart hreached
  refine ⟨hstart, hreached, hbase, hconfirmed, houtstanding, hpending, ?_, ?_⟩
  · rw [hbalance, hbase, hconfirmed, houtstanding, hpending]
    rfl
  · rw [hpending] at hmarked
    exact (hmarked _ List.mem_cons_self 5 rfl).mp rfl

end Audit

end BallotWallet.Wallet
