import BallotWallet.Proofs.Effect
import BallotWallet.Proofs.Run

/-!
# Misuse

The bookkeeping refuses what it is asked for if it is impossible: a second release of a reservation,
the release of one that is tracked and settled, a second fragment of one name. Whatever was asked
for before, misuse included, the counters stay in order. But a refusal is not always in vain: what
is given back reaches the balance before its counter is looked up.
-/

namespace BallotWallet.Wallet

open BallotWallet.Action

/-! ## One operation -/

namespace State

variable {s : State} {id : Text} {r : Reservation}

/-- A release succeeds if the counter is in flight, or if there is none. Otherwise the value has
come back already when it fails. -/
theorem release_cases (r : Reservation) (s : State) :
    ((∀ c, r.counter = some c → c ∈ s.inFlight) ∧ s.release r = (.ok (), s.unwound r)) ∨
      ∃ c, r.counter = some c ∧ c ∉ s.inFlight ∧
        s.release r = (.error (.invariant ("counter " ++ toString c ++ " was not reserved")),
          { s with balance := s.balance + r.charge }) := by
  by_cases hin : ∀ c, r.counter = some c → c ∈ s.inFlight
  · exact Or.inl ⟨hin, release_eq hin⟩
  · push Not at hin
    obtain ⟨c, hc, hout⟩ := hin
    refine Or.inr ⟨c, hc, hout, ?_⟩
    unfold release
    rw [hc, refund_eq]
    exact if_neg (ne_true_of_eq_false (CounterSet.contains_eq_false hout))

theorem Ordered.forget (h : s.Ordered) (id : Text) : (s.forget id).Ordered :=
  h.of_same rfl rfl rfl rfl

theorem Ordered.release (h : s.Ordered) (r : Reservation) : (s.release r).2.Ordered := by
  rcases release_cases r s with ⟨hin, hok⟩ | ⟨c, _, _, herr⟩
  · rw [hok]
    exact h.unwound hin
  · rw [herr]
    exact h.of_same rfl rfl rfl rfl

theorem Ordered.confirm (h : s.Ordered) (id : Text) : (s.confirm id).Ordered := by
  cases hr : s.reservationOf? id with
  | none =>
      rw [confirm_absent (reservationOf?_eq_none.mp hr)]
      exact h
  | some r =>
      rw [confirm_eq hr]
      cases r.counter with
      | none => exact h.forget id
      | some c => exact (h.forget id).land c

theorem Ordered.foldl_confirm (h : s.Ordered) (ids : List Text) :
    (ids.foldl (fun s id => s.confirm id) s).Ordered :=
  List.foldlRecOn ids _ h fun _ hs id _ => hs.confirm id

theorem rollback_some (h : s.reservationOf? id = some r) :
    s.rollback id = (((s.forget id).release r).1.map fun _ => some r,
      ((s.forget id).release r).2) := by
  unfold rollback
  rw [h]

theorem Ordered.rollback (h : s.Ordered) (id : Text) : (s.rollback id).2.Ordered := by
  cases hr : s.reservationOf? id with
  | none =>
      rw [rollback_absent (reservationOf?_eq_none.mp hr)]
      exact h
  | some r =>
      rw [rollback_some hr]
      exact (h.forget id).release r

end State

/-! ## Any operations -/

namespace Run

variable {t : Run}

theorem track_ordered (h : t.wallet.Ordered) (id : Text) (r : Option Reservation) {s : State}
    (htrack : t.wallet.track id r = .ok s) : s.Ordered := by
  by_cases hid : id ∈ t.wallet.pendingIds
  · rw [State.track_pending hid] at htrack
    cases htrack
  · rw [State.track_eq hid] at htrack
    cases htrack
    exact h.of_same rfl rfl rfl rfl

/-- Every operation keeps the counters in order, whatever it is given. -/
theorem step_ordered (h : t.wallet.Ordered) (m : Move) : (t.step m).wallet.Ordered := by
  cases m with
  | reserve value =>
      simp only [step, h.reserve_eq]
      exact h.reserved value
  | track id r =>
      simp only [step]
      split
      · rename_i s htrack
        exact track_ordered h id _ htrack
      · exact h
  | trackBare id =>
      simp only [step]
      split
      · rename_i s htrack
        exact track_ordered h id _ htrack
      · exact h
  | release r =>
      have hrelease := h.release r
      simp only [step]
      rcases heq : t.wallet.release r with ⟨⟨e⟩ | ⟨u⟩, s⟩
      · rw [heq] at hrelease
        exact hrelease
      · rw [heq] at hrelease
        exact hrelease
  | confirm id => exact h.confirm id
  | rollback id => exact h.rollback id
  | confirmAll => exact h.foldl_confirm _
  | refresh snapshot => exact h.refresh snapshot

/-- What any sequence of operations comes to, misuse included. -/
inductive Driven : Run → Prop
  | start {counter balance : Int} {s : State} :
      State.start counter balance = .ok s → Driven { wallet := s }
  | step {t : Run} (m : Move) : Driven t → Driven (t.step m)

theorem Driven.ordered (h : Driven t) : t.wallet.Ordered := by
  induction h with
  | start hstart => exact State.start_ordered hstart
  | step m _ ih => exact step_ordered ih m

end Run

/-! ## Refusals -/

/-- An operation that the bookkeeping may refuse. -/
inductive Booking where
  | reserve (value : Int)
  | release (r : Reservation)
  | track (id : Text) (r : Option Reservation)
  | rollback (id : Text)

namespace Booking

variable {s : State} {b : Booking}

def perform : Booking → Action State Unit
  | reserve value => do
    let _ ← Book.reserve value
    return ()
  | release r => Book.release r
  | track id r => Book.track id r
  | rollback id => do
    let _ ← Book.rollback id
    return ()

/-- What is impossible for a state, with what is said about it. -/
inductive Misuse (s : State) : Booking → Text → Prop
  | release {r : Reservation} {c : Int} : r.counter = some c → c ∉ s.inFlight →
      Misuse s (.release r) ("counter " ++ toString c ++ " was not reserved")
  | track {id : Text} {r : Option Reservation} : id ∈ s.pendingIds →
      Misuse s (.track id r) ("fragment " ++ id ++ " is already pending")
  | rollback {id : Text} {r : Reservation} {c : Int} : s.reservationOf? id = some r →
      r.counter = some c → c ∉ s.inFlight →
      Misuse s (.rollback id) ("counter " ++ toString c ++ " was not reserved")

/-- What a refusal leaves. The value of a release has come back; a rollback has forgotten its
fragment, too. -/
def remains (b : Booking) (s : State) : State :=
  match b with
  | .release r => { s with balance := s.balance + r.charge }
  | .rollback id =>
    { s.forget id with balance := s.balance + ((s.reservationOf? id).map (·.charge)).getD 0 }
  | _ => s

/-- An operation is carried out, or it is misuse and refused. -/
theorem perform_cases (h : s.Ordered) (b : Booking) :
    ((b.perform.effect s).1 = .ok () ∧ ∀ reason, ¬ Misuse s b reason) ∨
      ∃ reason, Misuse s b reason ∧
        b.perform.effect s = (.error (.invariant reason), b.remains s) := by
  cases b with
  | reserve value =>
      have heffect : (Book.reserve value).effect s = _ := h.reserve_eq value
      refine Or.inl ⟨?_, fun reason hm => by cases hm⟩
      unfold perform
      rw [effect_bind_ok heffect]
      rfl
  | release r =>
      rcases State.release_cases r s with ⟨hin, hok⟩ | ⟨c, hc, hout, herr⟩
      · refine Or.inl ⟨congrArg Prod.fst hok, fun reason hm => ?_⟩
        cases hm with
        | release hc hout => exact hout (hin _ hc)
      · exact Or.inr ⟨_, .release hc hout, herr⟩
  | track id r =>
      by_cases hid : id ∈ s.pendingIds
      · refine Or.inr ⟨_, .track hid, ?_⟩
        show (Book.track id r).effect s = _
        unfold Book.track
        rw [effect_bind_ok (effect_get s), State.track_pending hid]
        rfl
      · refine Or.inl ⟨congrArg Prod.fst (Book.effect_track hid r), fun reason hm => ?_⟩
        cases hm with
        | track hpending => exact hid hpending
  | rollback id =>
      have heffect := Book.effect_rollback id s
      unfold perform
      cases hr : s.reservationOf? id with
      | none =>
          rw [State.rollback_absent (State.reservationOf?_eq_none.mp hr)] at heffect
          refine Or.inl ⟨by rw [effect_bind_ok heffect]; rfl, fun reason hm => ?_⟩
          cases hm with
          | rollback hfound _ _ =>
              rw [hr] at hfound
              cases hfound
      | some r =>
          rw [State.rollback_some hr] at heffect
          rcases State.release_cases r (s.forget id) with ⟨hin, hok⟩ | ⟨c, hc, hout, herr⟩
          · rw [hok] at heffect
            refine Or.inl ⟨by rw [effect_bind_ok heffect]; rfl, fun reason hm => ?_⟩
            cases hm with
            | rollback hfound hc hout =>
                rw [hr] at hfound
                cases hfound
                exact hout (hin _ hc)
          · rw [herr] at heffect
            refine Or.inr ⟨_, .rollback hr hc hout, ?_⟩
            rw [effect_bind_error heffect]
            simp [remains, hr, State.forget]

/-- A refusal leaves everything as it was if nothing had been given back before. -/
theorem remains_eq_iff {reason : Text} (hm : Misuse s b reason) :
    b.remains s = s ↔ (∃ id r, b = .track id r) ∨ ∃ r, b = .release r ∧ r.charge = 0 := by
  cases hm with
  | @release r c _ _ =>
      constructor
      · intro hsame
        have hbalance : s.balance + r.charge = s.balance := congrArg State.balance hsame
        exact Or.inr ⟨r, rfl, by omega⟩
      · rintro (⟨id, r', hb⟩ | ⟨r', hb, hzero⟩)
        · cases hb
        · cases hb
          show { s with balance := s.balance + r.charge } = s
          rw [hzero, Int.add_zero]
  | @track id r _ => exact iff_of_true rfl (Or.inl ⟨id, r, rfl⟩)
  | @rollback id r c hfound _ _ =>
      refine iff_of_false ?_ ?_
      · -- the fragment was pending and is no more
        intro hsame
        have hids : ((rollback id).remains s).pendingIds = s.pendingIds := by rw [hsame]
        have hmem : id ∈ s.pendingIds := List.mem_map_of_mem (State.mem_pending_of_lookup hfound)
        rw [← hids] at hmem
        exact (State.mem_forget_ids.mp hmem).2 rfl
      · rintro (⟨id', r', hb⟩ | ⟨r', hb, _⟩) <;> cases hb

/-- **What a refusal leaves.** After any sequence of operations, misuse included, reserving never
fails, and a release, a fragment that becomes pending and a rollback fail exactly if they are
misuse: the counter is not in flight, or the fragment is pending already. A refused fragment
changes nothing. A refused release has given the value back to the balance, and a refused rollback
has done this and forgotten the fragment; nothing else is changed. -/
theorem refusal_leaves {t : Run} (h : Run.Driven t) (b : Booking) :
    ((∃ e, (b.perform.effect t.wallet).1 = .error e) ↔ ∃ reason, Misuse t.wallet b reason) ∧
    ∀ e, (b.perform.effect t.wallet).1 = .error e →
      (∃ reason, Misuse t.wallet b reason ∧ e = .invariant reason) ∧
      (b.perform.effect t.wallet).2 = b.remains t.wallet ∧
      ((b.perform.effect t.wallet).2 = t.wallet ↔
        (∃ id r, b = .track id r) ∨ ∃ r, b = .release r ∧ r.charge = 0) := by
  rcases perform_cases h.ordered b with ⟨hok, hnone⟩ | ⟨reason, hm, herr⟩
  · rw [hok]
    refine ⟨⟨?_, ?_⟩, ?_⟩
    · rintro ⟨e, ⟨⟩⟩
    · rintro ⟨reason, hm⟩
      exact absurd hm (hnone reason)
    · rintro e ⟨⟩
  · rw [herr]
    refine ⟨iff_of_true ⟨_, rfl⟩ ⟨reason, hm⟩, ?_⟩
    rintro e ⟨⟩
    exact ⟨⟨reason, hm, rfl⟩, rfl, remains_eq_iff hm⟩

/-- A reservation that is tracked and released all the same. -/
def misused : Run :=
  [Move.reserve 100, .track (Text.ofChars ['a']) { counter := some 0, value := 100 },
    .release { counter := some 0, value := 100 }].foldl Run.step { wallet := { balance := 10000 } }

/-- Its fragment cannot be rolled back. It is forgotten, and its value comes back once more. -/
theorem refusal_leaves_misused :
    Run.Driven misused ∧ misused.wallet.balance = 10000 ∧
      misused.wallet.pendingIds = [Text.ofChars ['a']] ∧
      ∃ e, ((rollback (Text.ofChars ['a'])).perform.effect misused.wallet).1 = .error e ∧
        ((rollback (Text.ofChars ['a'])).perform.effect misused.wallet).2.balance = 10100 ∧
        ((rollback (Text.ofChars ['a'])).perform.effect misused.wallet).2.pendingIds = [] := by
  have hstart : State.start 0 10000 = .ok { balance := 10000 } := rfl
  have hdriven : Run.Driven misused := by
    unfold misused
    simp only [List.foldl_cons, List.foldl_nil]
    exact .step _ (.step _ (.step _ (.start hstart)))
  have hmisuse : Misuse misused.wallet (.rollback (Text.ofChars ['a']))
      ("counter " ++ toString (0 : Int) ++ " was not reserved") := by
    have hfound : misused.wallet.reservationOf? (Text.ofChars ['a']) =
        some { counter := some 0, value := 100 } := by
      decide +kernel
    have hout : misused.wallet.inFlight.contains 0 = false := by decide +kernel
    refine .rollback hfound rfl fun hin => ?_
    rw [CounterSet.contains_iff.mpr hin] at hout
    cases hout
  obtain ⟨hrefused, hleaves⟩ := refusal_leaves hdriven (.rollback (Text.ofChars ['a']))
  obtain ⟨e, he⟩ := hrefused.mpr ⟨_, hmisuse⟩
  obtain ⟨_, hremains, _⟩ := hleaves e he
  refine ⟨hdriven, by decide +kernel, by decide +kernel, e, he, ?_, ?_⟩
  · rw [hremains]
    decide +kernel
  · rw [hremains]
    decide +kernel

end Booking

end BallotWallet.Wallet
