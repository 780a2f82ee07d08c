import BallotWallet.Proofs.Usage

/-!
# In any order

Fragments settle in the order in which the node gets to them, and a rejected one gives back its
counter, over which the top may come down. So the states in between depend on the order. Where
they lead to does not: two reservations that end in different orders leave the same counters on
offer, and these say all there is to say about the top and the released ones.
-/

namespace BallotWallet.Wallet

/-- Steps that commute wherever an invariant holds lead to the same in any order. The invariant is
one of what is ahead, too. -/
theorem foldl_perm {α β : Type} {f : β → α → β} {I : List α → β → Prop}
    (hkept : ∀ {a l b}, I (a :: l) b → I l (f b a))
    (hperm : ∀ {l l' b}, l.Perm l' → I l b → I l' b)
    (hcomm : ∀ {a a' l b}, I (a :: a' :: l) b → f (f b a) a' = f (f b a') a)
    {l l' : List α} (hp : l.Perm l') {b : β} (h : I l b) : l.foldl f b = l'.foldl f b := by
  induction hp generalizing b with
  | nil => rfl
  | cons a _ ih => exact ih (hkept h)
  | swap a a' l =>
      show l.foldl f (f (f b a') a) = l.foldl f (f (f b a) a')
      rw [hcomm h]
  | trans hp _ ih ih' => exact (ih h).trans (ih' (hperm hp h))

/-- How the fragment of a reservation ends. -/
inductive Fate where
  | inBlock
  | rejected
  deriving DecidableEq

namespace State

variable {s : State} {outstanding : List Int} {p q : Reservation × Fate} {c : Int}

/-! ## The end of a reservation -/

/-- The state in which a reservation is spent or given back. -/
def ended (s : State) (p : Reservation × Fate) : State :=
  match p.2 with
  | .inBlock => { s with inFlight := p.1.counter.elim s.inFlight fun c => s.inFlight.erase c }
  | .rejected => s.unwound p.1

/-- What comes back to the balance at the end of a reservation. -/
def comesBack (p : Reservation × Fate) : Int :=
  match p.2 with
  | .inBlock => 0
  | .rejected => p.1.charge

theorem ended_floor (p : Reservation × Fate) (s : State) : (s.ended p).floor = s.floor := by
  unfold ended
  split
  · rfl
  · exact unwound_floor _ _

theorem ended_pending (p : Reservation × Fate) (s : State) :
    (s.ended p).pending = s.pending := by
  unfold ended
  split
  · rfl
  · exact unwound_pending _ _

theorem ended_balance (p : Reservation × Fate) (s : State) :
    (s.ended p).balance = s.balance + comesBack p := by
  unfold ended comesBack
  split
  · exact (Int.add_zero _).symm
  · exact unwound_balance _ _

theorem mem_ended_inFlight :
    c ∈ (s.ended p).inFlight ↔ c ∈ s.inFlight ∧ p.1.counter ≠ some c := by
  unfold ended
  split
  · cases p.1.counter with
    | none => simp
    | some d =>
        simp only [Option.elim_some, CounterSet.mem_erase, ne_eq, Option.some.injEq]
        exact and_congr_right fun _ => not_congr eq_comm
  · exact mem_unwound_inFlight

theorem ended_disciplined (h : s.Disciplined (p.1.counter.toList ++ outstanding)) :
    (s.ended p).Disciplined outstanding := by
  unfold ended
  split
  · cases hc : p.1.counter with
    | none =>
        rw [hc] at h
        exact h
    | some c =>
        rw [hc] at h
        exact h.land_disciplined
  · exact unwound_disciplined h

theorem ended_offers (h : s.Disciplined (p.1.counter.toList ++ outstanding)) :
    (s.ended p).Offers c ↔
      s.Offers c ∨ p.2 = .rejected ∧ p.1.counter = some c ∧ s.floor ≤ c := by
  unfold ended
  split
  · rename_i hfate
    simp only [hfate, reduceCtorEq, false_and, or_false]
    exact Iff.rfl
  · rename_i hfate
    simp only [hfate, true_and]
    exact h.ordered.offers_unwound h.inFlight_of_counter

/-- Two reservations may end in either order. -/
theorem ended_comm
    (h : s.Disciplined (p.1.counter.toList ++ (q.1.counter.toList ++ outstanding))) :
    (s.ended p).ended q = (s.ended q).ended p := by
  have hother : s.Disciplined (q.1.counter.toList ++ (p.1.counter.toList ++ outstanding)) := by
    refine h.perm ?_
    rw [← List.append_assoc, ← List.append_assoc]
    exact List.perm_append_comm.append_right _
  have hp := ended_disciplined h
  have hq := ended_disciplined hother
  refine (ended_disciplined hp).ordered.eq_of_offers (ended_disciplined hq).ordered ?_ ?_ ?_ ?_ ?_
  · intro c
    rw [ended_offers hp, ended_offers h, ended_offers hq, ended_offers hother, ended_floor,
      ended_floor]
    exact or_right_comm
  · simp only [ended_floor]
  · intro c
    simp only [mem_ended_inFlight]
    exact and_right_comm
  · simp only [ended_balance]
    omega
  · simp only [ended_pending]

/-- Reservations may end in any order. -/
theorem foldl_ended_perm {ends ends' : List (Reservation × Fate)} (hperm : ends.Perm ends')
    (h : s.Disciplined (Reservation.counters (ends.map (·.1)) ++ outstanding)) :
    ends.foldl ended s = ends'.foldl ended s := by
  refine foldl_perm (I := fun ends s =>
    s.Disciplined (Reservation.counters (ends.map (·.1)) ++ outstanding)) ?_ ?_ ?_ hperm h
  · intro p ends s h
    rw [List.map_cons, Reservation.counters_cons, List.append_assoc] at h
    exact ended_disciplined h
  · intro ends ends' s hperm h
    exact h.perm (((hperm.map _).filterMap _).symm.append_right _)
  · intro p q ends s h
    simp only [List.map_cons, Reservation.counters_cons, List.append_assoc] at h
    exact ended_comm h

/-! ## The end of a pending fragment -/

variable {i j : Text × Fate} {id : Text}

/-- The state in which a pending fragment has settled. -/
def concluded (s : State) (i : Text × Fate) : State :=
  match s.reservationOf? i.1 with
  | none => s
  | some r => (s.forget i.1).ended (r, i.2)

theorem concluded_absent (h : s.reservationOf? i.1 = none) : s.concluded i = s := by
  unfold concluded
  rw [h]

theorem concluded_eq {r : Reservation} (h : s.reservationOf? i.1 = some r) :
    s.concluded i = (s.forget i.1).ended (r, i.2) := by
  unfold concluded
  rw [h]

theorem concluded_disciplined (h : s.Disciplined outstanding) (i : Text × Fate) :
    (s.concluded i).Disciplined outstanding := by
  cases hr : s.reservationOf? i.1 with
  | none =>
      rw [concluded_absent hr]
      exact h
  | some r =>
      rw [concluded_eq hr]
      exact ended_disciplined (forget_disciplined h hr)

theorem reservationOf?_forget (hne : i.1 ≠ id) :
    (s.forget i.1).reservationOf? id = s.reservationOf? id := by
  unfold reservationOf? forget
  dsimp only
  induction s.pending with
  | nil => rfl
  | cons p ps ih =>
      by_cases hp : p.1 = i.1
      · -- what is forgotten is not what is looked for
        have hid : (id == p.1) = false := beq_eq_false_iff_ne.mpr (hp ▸ hne.symm)
        rw [List.filter_cons_of_neg (by simpa using hp), ih, List.lookup_cons, hid]
      · rw [List.filter_cons_of_pos (by simpa using hp), List.lookup_cons, List.lookup_cons, ih]

/-- Other fragments stay pending, with what they hold. -/
theorem reservationOf?_concluded (hne : i.1 ≠ id) :
    (s.concluded i).reservationOf? id = s.reservationOf? id := by
  cases hr : s.reservationOf? i.1 with
  | none => rw [concluded_absent hr]
  | some r =>
      rw [concluded_eq hr]
      have hforget := reservationOf?_forget (s := s) hne
      unfold reservationOf? at hforget ⊢
      rw [ended_pending]
      exact hforget

theorem forget_comm (id id' : Text) (s : State) :
    (s.forget id).forget id' = (s.forget id').forget id := by
  unfold forget
  simp only [List.filter_filter, Bool.and_comm]

/-- Forgetting a fragment touches nothing that the end of another reservation does. -/
theorem forget_ended (id : Text) (p : Reservation × Fate) (s : State) :
    (s.ended p).forget id = (s.forget id).ended p := by
  unfold ended
  split
  · rfl
  · unfold unwound
    simp only [refund_eq]
    cases p.1.counter with
    | none => rfl
    | some c =>
        unfold freeCounter
        dsimp only [forget]
        split <;> rfl

theorem concluded_comm (h : s.Disciplined outstanding) (hne : i.1 ≠ j.1) :
    (s.concluded i).concluded j = (s.concluded j).concluded i := by
  have hj := reservationOf?_concluded (s := s) hne
  have hi := reservationOf?_concluded (s := s) hne.symm
  cases hri : s.reservationOf? i.1 with
  | none => rw [concluded_absent hri, concluded_absent (hi.trans hri)]
  | some r =>
      cases hrj : s.reservationOf? j.1 with
      | none => rw [concluded_absent hrj, concluded_absent (hj.trans hrj)]
      | some r' =>
          have hfirst := forget_disciplined h hri
          have hboth := forget_disciplined hfirst ((reservationOf?_forget hne).trans hrj)
          rw [concluded_eq (hj.trans hrj), concluded_eq (hi.trans hri), concluded_eq hri,
            concluded_eq hrj, forget_ended, forget_ended, forget_comm j.1 i.1]
          exact (ended_comm hboth).symm

/-- Different fragments may settle in any order. -/
theorem foldl_concluded_perm {fates fates' : List (Text × Fate)} (hperm : fates.Perm fates')
    (hids : (fates.map (·.1)).Nodup) (h : s.Disciplined outstanding) :
    fates.foldl concluded s = fates'.foldl concluded s := by
  refine foldl_perm (I := fun fates s =>
    (fates.map (·.1)).Nodup ∧ s.Disciplined outstanding) ?_ ?_ ?_ hperm ⟨hids, h⟩
  · rintro i fates s ⟨hids, h⟩
    exact ⟨(List.nodup_cons.mp hids).2, concluded_disciplined h i⟩
  · rintro fates fates' s hperm ⟨hids, h⟩
    exact ⟨(hperm.map _).nodup_iff.mp hids, h⟩
  · rintro i j fates s ⟨hids, h⟩
    simp only [List.map_cons, List.nodup_cons, List.mem_cons, not_or] at hids
    exact concluded_comm h hids.1.1

end State

/-! ## In the books -/

namespace Book

open BallotWallet.Action

variable {s : State} {outstanding : List Int}

/-- Settles a fragment that is in a block or rejected. -/
def conclude (i : Text × Fate) : Action State Unit :=
  match i.2 with
  | .inBlock => confirm i.1
  | .rejected => do
    let _ ← rollback i.1
    return ()

def concludeEach : List (Text × Fate) → Action State Unit
  | [] => pure ()
  | i :: fates => do
    conclude i
    concludeEach fates

theorem effect_conclude (h : s.Disciplined outstanding) (i : Text × Fate) :
    (conclude i).effect s = (.ok (), s.concluded i) := by
  obtain ⟨id, fate⟩ := i
  cases hr : s.reservationOf? id with
  | none =>
      have habsent := State.reservationOf?_eq_none.mp hr
      rw [State.concluded_absent hr]
      cases fate with
      | inBlock =>
          show (confirm id).effect s = _
          rw [effect_confirm, State.confirm_absent habsent]
      | rejected =>
          have hroll := effect_rollback id s
          rw [State.rollback_absent habsent] at hroll
          exact effect_bind_ok hroll
  | some r =>
      rw [State.concluded_eq hr]
      cases fate with
      | inBlock =>
          show (confirm id).effect s = _
          rw [effect_confirm, State.confirm_eq hr]
          rfl
      | rejected =>
          have hroll := effect_rollback id s
          rw [State.rollback_eq h hr] at hroll
          exact effect_bind_ok hroll

/-- Settling never fails. -/
theorem effect_concludeEach (h : s.Disciplined outstanding) (fates : List (Text × Fate)) :
    (concludeEach fates).effect s = (.ok (), fates.foldl State.concluded s) := by
  induction fates generalizing s with
  | nil => rfl
  | cons i fates ih =>
      unfold concludeEach
      rw [effect_bind_ok (effect_conclude h i)]
      exact ih (State.concluded_disciplined h i)

end Book

namespace Submission

open BallotWallet.Action

/-- Giving back never fails for what is held. -/
theorem effect_releaseEach {rs : List Reservation} {s : State} {outstanding : List Int}
    (h : s.Disciplined (Reservation.counters rs ++ outstanding)) :
    (releaseEach (rs.map some)).effect s =
      (.ok (), (rs.map fun r => (r, Fate.rejected)).foldl State.ended s) := by
  induction rs generalizing s with
  | nil => rfl
  | cons r rs ih =>
      rw [Reservation.counters_cons, List.append_assoc] at h
      have hgive : (Book.giveBack (some r)).effect s = (.ok (), s.unwound r) := h.release_eq
      rw [List.map_cons, releaseEach_cons, effect_bind_ok hgive]
      exact ih (State.unwound_disciplined h)

/-- What is held may be given back in any order. -/
theorem effect_releaseEach_perm {rs order : List Reservation} {s : State}
    {outstanding : List Int} (hperm : order.Perm rs)
    (h : s.Disciplined (Reservation.counters rs ++ outstanding)) :
    (releaseEach (order.map some)).effect s = (releaseEach (rs.map some)).effect s := by
  have horder : s.Disciplined (Reservation.counters order ++ outstanding) :=
    h.perm ((hperm.filterMap _).append_right _)
  have hends : s.Disciplined
      (Reservation.counters ((order.map fun r => (r, Fate.rejected)).map (·.1)) ++
        outstanding) := by
    rw [List.map_map]
    simpa [Function.comp_def] using horder
  rw [effect_releaseEach horder, effect_releaseEach h,
    State.foldl_ended_perm (hperm.map _) hends]

end Submission

namespace Run

open BallotWallet.Action

/-- **The order of settlement does not matter.** However a wallet was used, its fragments, each
with its fate, settle without failure, and in any two orders they leave the same state. And values
can always be reserved; giving these reservations back in any order restores the state exactly. -/
theorem order_irrelevant {t : Run} (h : Used t) :
    (∀ fates fates' : List (Text × Fate), (fates.map (·.1)).Nodup → fates.Perm fates' →
      ∃ s, (Book.concludeEach fates).effect t.wallet = (.ok (), s) ∧
        (Book.concludeEach fates').effect t.wallet = (.ok (), s)) ∧
    ∀ values, ∃ rs s, (Book.reserveEach values).effect t.wallet = (.ok rs, s) ∧
      ∀ order : List Reservation, order.Perm rs →
        (Submission.releaseEach (order.map some)).effect s = (.ok (), t.wallet) := by
  constructor
  · intro fates fates' hids hperm
    refine ⟨_, Book.effect_concludeEach h.disciplined fates, ?_⟩
    rw [Book.effect_concludeEach h.disciplined, State.foldl_concluded_perm hperm hids h.disciplined]
  · intro values
    refine ⟨_, _, Book.effect_reserveEach h.disciplined values, fun order hperm => ?_⟩
    -- in reverse order they restore the state, so in any order
    have hback := Submission.effect_releaseEach_reservations h.disciplined values
    rw [← List.map_reverse] at hback
    have hheld := (h.disciplined.reservedAll values).perm
      (((List.reverse_perm _).filterMap _).append_right _)
    rw [← hback]
    exact Submission.effect_releaseEach_perm (hperm.trans (List.reverse_perm _).symm) hheld

/-- Four pending fragments with the counters from 5 to 8, after a report that the first is part
of. -/
def fourPending : Run :=
  let a : Text := Text.ofChars ['a']
  let b : Text := Text.ofChars ['b']
  let c : Text := Text.ofChars ['c']
  let d : Text := Text.ofChars ['d']
  [Move.reserve 10, .reserve 20, .reserve 30, .reserve 40,
    .track a { counter := some 5, value := 10 }, .track b { counter := some 6, value := 20 },
    .track c { counter := some 7, value := 30 }, .track d { counter := some 8, value := 40 },
    .refresh { value := 90, counter := 6 }].foldl step
    { wallet := { nextCounter := 5, floor := 5, balance := 100 } }

theorem fourPending_used : Used fourPending := by
  have hstart : State.start 5 100 = .ok { nextCounter := 5, floor := 5, balance := 100 } := rfl
  exact (Used.start hstart).foldl (by decide +kernel)

/-- The third is in a block, the others are rejected. -/
def fourFates : List (Text × Fate) :=
  [(Text.ofChars ['a'], .rejected), (Text.ofChars ['b'], .rejected),
    (Text.ofChars ['c'], .inBlock), (Text.ofChars ['d'], .rejected)]

/-- From the first to the last or from the last to the first: of the counters 5 is spent, 6 is a
hole, and the top comes down over 8. -/
theorem order_irrelevant_four :
    Used fourPending ∧ (fourFates.map (·.1)).Nodup ∧
      (∃ s, (Book.concludeEach fourFates).effect fourPending.wallet = (.ok (), s) ∧
        (Book.concludeEach fourFates.reverse).effect fourPending.wallet = (.ok (), s) ∧
        s = { nextCounter := 8, floor := 6, balance := 60
              released := CounterSet.empty.insert 6 }) ∧
      ∃ rs s, (Book.reserveEach [1, 2]).effect fourPending.wallet = (.ok rs, s) ∧
        (Submission.releaseEach (rs.map some)).effect s = (.ok (), fourPending.wallet) := by
  have hids : (fourFates.map (·.1)).Nodup := by decide +kernel
  obtain ⟨hsettle, hrelease⟩ := order_irrelevant fourPending_used
  obtain ⟨s, hs, hs'⟩ := hsettle fourFates fourFates.reverse hids (List.reverse_perm _).symm
  obtain ⟨rs, s', hreserve, hback⟩ := hrelease [1, 2]
  refine ⟨fourPending_used, hids, ⟨s, hs, hs', ?_⟩, rs, s', hreserve, hback rs (.refl _)⟩
  have hstate : ((Book.concludeEach fourFates).effect fourPending.wallet).2 =
      { nextCounter := 8, floor := 6, released := CounterSet.empty.insert 6, balance := 60 } := by
    decide +kernel
  rw [hs] at hstate
  exact hstate

end Run

end BallotWallet.Wallet
