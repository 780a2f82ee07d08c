import BallotWallet.Proofs.Effect
import BallotWallet.Wallet.Submission
import Mathlib.Algebra.Ring.Int.Defs

/-!
# Submitting fragments

What handing fragments to the node does to the wallet. Reservations are taken one after another
and given back the last one first, so what was there before them reappears, whatever holes they
were taken from. Only when the node has named every fragment, with new and different identifiers,
do the fragments become pending.
-/

namespace BallotWallet.Wallet

namespace State

/-! ## Several reservations -/

/-- The state in which values are reserved, one after another. -/
def reservedAll : List Int → State → State
  | [], s => s
  | value :: values, s => reservedAll values (s.reserved value)

/-- What values are reserved with, one after another. -/
def reservations : List Int → State → List Reservation
  | [], _ => []
  | value :: values, s =>
    { counter := some s.counter, value := value } :: reservations values (s.reserved value)

@[simp] theorem length_reservations (values : List Int) (s : State) :
    (reservations values s).length = values.length := by
  induction values generalizing s with
  | nil => rfl
  | cons value values ih => simp [reservations, ih]

@[simp] theorem reservations_values (values : List Int) (s : State) :
    (reservations values s).map (·.value) = values := by
  induction values generalizing s with
  | nil => rfl
  | cons value values ih => simp [reservations, ih]

@[simp] theorem reservedAll_pending (values : List Int) (s : State) :
    (s.reservedAll values).pending = s.pending := by
  induction values generalizing s with
  | nil => rfl
  | cons value values ih => exact ih (s.reserved value)

theorem reservedAll_pendingIds (values : List Int) (s : State) :
    (s.reservedAll values).pendingIds = s.pendingIds := by
  unfold pendingIds
  rw [reservedAll_pending]

theorem reservedAll_balance (values : List Int) (s : State) :
    (s.reservedAll values).balance = s.balance - values.sum := by
  induction values generalizing s with
  | nil => simp [reservedAll]
  | cons value values ih =>
      rw [List.sum_cons]
      have hrest := ih (s.reserved value)
      simp only [reserved] at hrest
      show ((s.reserved value).reservedAll values).balance = _
      simp only [reserved]
      omega

/-- What is reserved in one go is outstanding. -/
theorem Disciplined.reservedAll {s : State} {outstanding : List Int}
    (h : s.Disciplined outstanding) (values : List Int) :
    (s.reservedAll values).Disciplined
      (Reservation.counters (reservations values s) ++ outstanding) := by
  induction values generalizing s outstanding with
  | nil => exact h
  | cons value values ih =>
      refine (ih (h.reserve_disciplined value)).perm ?_
      show (s.counter :: (_ ++ _)).Perm _
      exact List.perm_middle.symm

/-! ## Several pending fragments -/

/-- The entries of fragments that become pending, with what they reserved if anything. -/
def entries : List Text → List (Option Reservation) → List (Text × Reservation)
  | [], _ => []
  | id :: ids, rs => (id, rs.head?.join.getD { counter := none }) :: entries ids rs.tail

theorem entries_some {ids : List Text} {rs : List Reservation} (h : ids.length = rs.length) :
    entries ids (rs.map some) = ids.zip rs := by
  induction ids generalizing rs with
  | nil => rfl
  | cons id ids ih =>
      obtain ⟨r, rs, rfl⟩ := List.exists_cons_of_length_eq_add_one h.symm
      have hrest := ih (by simpa using h)
      simp [entries, hrest]

theorem entries_none (ids : List Text) :
    entries ids [] = ids.zip (List.replicate ids.length { counter := none }) := by
  induction ids with
  | nil => rfl
  | cons id ids ih =>
      show _ :: entries ids [] = _
      rw [ih]
      rfl

/-- The state in which fragments are pending too, each with its reservation. -/
def submitted (ids : List Text) (rs : List (Option Reservation)) (s : State) : State :=
  { s with pending := s.pending ++ entries ids rs }

theorem submitted_cons (id : Text) (ids : List Text) (rs : List (Option Reservation))
    (s : State) :
    s.submitted (id :: ids) rs = (s.tracked id rs.head?.join).submitted ids rs.tail := by
  unfold submitted tracked
  simp [entries, List.append_assoc]

/-- Identifiers that the node may give to a number of fragments: one for each, all different,
and none of them pending. -/
structure Fresh (s : State) (count : Nat) (ids : List Text) : Prop where
  length_eq : ids.length = count
  nodup : ids.Nodup
  not_pending : ∀ id ∈ ids, id ∉ s.pendingIds

theorem tracked_not_pending {s : State} {id : Text} {ids : List Text} (r : Option Reservation)
    (hnodup : (id :: ids).Nodup) (hnew : ∀ i ∈ id :: ids, i ∉ s.pendingIds) :
    ∀ i ∈ ids, i ∉ (s.tracked id r).pendingIds := by
  intro i hi hin
  have hin : i ∈ s.pendingIds ++ [id] := by simpa [pendingIds, tracked] using hin
  rcases List.mem_append.mp hin with hin | hin
  · exact hnew i (List.mem_cons_of_mem _ hi) hin
  · obtain rfl := List.mem_singleton.mp hin
    exact (List.nodup_cons.mp hnodup).1 hi

theorem reservations_tracked (values : List Int) (id : Text) (r : Option Reservation)
    (s : State) : (s.tracked id r).reservations values = s.reservations values := by
  induction values generalizing s with
  | nil => rfl
  | cons value values ih =>
      have hrest := ih (s.reserved value)
      exact congrArg (List.cons _) hrest

theorem reservedAll_tracked (values : List Int) (id : Text) (r : Option Reservation)
    (s : State) : (s.tracked id r).reservedAll values = (s.reservedAll values).tracked id r := by
  induction values generalizing s with
  | nil => rfl
  | cons value values ih => exact ih (s.reserved value)

theorem submitted_disciplined {ids : List Text} {rs : List (Option Reservation)} {s : State}
    {outstanding : List Int} (hlen : rs.length ≤ ids.length) (hnodup : ids.Nodup)
    (hnew : ∀ id ∈ ids, id ∉ s.pendingIds)
    (h : s.Disciplined (Reservation.counters (rs.filterMap id) ++ outstanding)) :
    (s.submitted ids rs).Disciplined outstanding := by
  induction ids generalizing rs s with
  | nil =>
      obtain rfl := List.length_eq_zero_iff.mp (Nat.le_zero.mp hlen)
      simpa [submitted, entries, Reservation.counters] using h
  | cons i ids ih =>
      rw [submitted_cons]
      refine ih (by simp at hlen ⊢; omega) (List.nodup_cons.mp hnodup).2
        (tracked_not_pending _ hnodup hnew) ?_
      refine tracked_disciplined ?_ (hnew i List.mem_cons_self)
      cases rs with
      | nil => exact h
      | cons r rs =>
          cases r with
          | none => exact h
          | some r =>
              show s.Disciplined (r.counter.toList ++ _)
              cases hc : r.counter <;> simpa [Reservation.counters, hc] using h

end State

/-! ## Reserving and giving back -/

namespace Book

/-- Reserves values one after another. -/
def reserveEach : List Int → Action State (List Reservation)
  | [] => pure []
  | value :: values => do
    let r ← reserve value
    return r :: (← reserveEach values)

theorem effect_reserveEach {s : State} {outstanding : List Int}
    (h : s.Disciplined outstanding) (values : List Int) :
    (reserveEach values).effect s = (.ok (s.reservations values), s.reservedAll values) := by
  induction values generalizing s outstanding with
  | nil => rfl
  | cons value values ih =>
      unfold reserveEach
      rw [Action.effect_bind_ok (effect_reserve h value),
        Action.effect_bind_ok (ih (h.reserve_disciplined value))]
      rfl

end Book

namespace Submission

open BallotWallet.Action

variable {ω : Type} {client : Ledger.Client ω} {d : Desk ω}

theorem releaseEach_cons (r : Option Reservation) (rs : List (Option Reservation)) :
    releaseEach (r :: rs) = Book.giveBack r >>= fun _ => releaseEach rs :=
  rfl

theorem effect_releaseEach_append {xs ys : List (Option Reservation)} {s t : State}
    (h : (releaseEach xs).effect s = (.ok (), t)) :
    (releaseEach (xs ++ ys)).effect s = (releaseEach ys).effect t := by
  induction xs generalizing s with
  | nil =>
      obtain rfl : s = t := congrArg Prod.snd h
      rfl
  | cons r xs ih =>
      rw [releaseEach_cons, effect_bind] at h
      rcases hgive : (Book.giveBack r).effect s with ⟨⟨e⟩ | ⟨u⟩, s'⟩
      · rw [hgive] at h
        cases h
      · rw [hgive] at h
        rw [List.cons_append, releaseEach_cons, effect_bind_ok hgive]
        exact ih h

/-- **Giving back what was reserved last.** However the counters were taken, from holes or from
the top, giving the reservations back in reverse order restores the state exactly. -/
theorem effect_releaseEach_reservations {s : State} {outstanding : List Int}
    (h : s.Disciplined outstanding) (values : List Int) :
    (releaseEach ((s.reservations values).map some).reverse).effect (s.reservedAll values) =
      (.ok (), s) := by
  induction values generalizing s outstanding with
  | nil => rfl
  | cons value values ih =>
      show (releaseEach (some _ :: (State.reservations values (s.reserved value)).map
        some).reverse).effect ((s.reserved value).reservedAll values) = _
      -- the reservations made later are given back first, which leads back to this one
      rw [List.reverse_cons, effect_releaseEach_append (ih (h.reserve_disciplined value))]
      exact effect_bind_ok (Book.effect_release_reserved h value)

/-! ## What the wallet makes of the answer -/

theorem allDifferent_iff {ids : List Text} : allDifferent ids = true ↔ ids.Nodup := by
  induction ids with
  | nil => simp [allDifferent]
  | cons id ids ih => simp [allDifferent, ih]

/-- The identifiers that the node gave, unless they do not fit the fragments. -/
def accept (s : State) (fragments : List Bytes) (ids : List Text) :
    Except Failure (List Text) := do
  checkCount ids fragments
  checkNewIds ids s
  return ids

theorem checkNewIds_ok {s : State} {ids : List Text} (hnodup : ids.Nodup)
    (hnew : ∀ id ∈ ids, id ∉ s.pendingIds) : checkNewIds ids s = .ok () := by
  have hnone : ids.filter s.isPending = [] := by
    refine List.filter_eq_nil_iff.mpr ?_
    intro id hid hp
    exact hnew id hid (State.isPending_iff.mp hp)
  unfold checkNewIds
  simp [allDifferent_iff.mpr hnodup, hnone]

theorem checkNewIds_cases (s : State) (ids : List Text) :
    (checkNewIds ids s = .ok () ∧ ids.Nodup ∧ ∀ id ∈ ids, id ∉ s.pendingIds) ∨
      ∃ e, checkNewIds ids s = .error e ∧ e.isBackend = true ∧
        ¬ (ids.Nodup ∧ ∀ id ∈ ids, id ∉ s.pendingIds) := by
  by_cases h : ids.Nodup ∧ ∀ id ∈ ids, id ∉ s.pendingIds
  · exact Or.inl ⟨checkNewIds_ok h.1 h.2, h.1, h.2⟩
  · right
    unfold checkNewIds
    by_cases hnodup : ids.Nodup
    · have hold : (ids.filter s.isPending).isEmpty = false := by
        rw [List.isEmpty_eq_false_iff]
        intro hnone
        refine h ⟨hnodup, fun id hid hp => ?_⟩
        exact List.filter_eq_nil_iff.mp hnone id hid (State.isPending_iff.mpr hp)
      simp only [allDifferent_iff.mpr hnodup, hold]
      exact ⟨_, rfl, rfl, h⟩
    · have hdup : allDifferent ids = false := by
        rw [← Bool.not_eq_true]
        exact fun hd => hnodup (allDifferent_iff.mp hd)
      simp only [hdup]
      exact ⟨_, rfl, rfl, h⟩

/-- The wallet takes the identifiers if they are fresh, and else finds the node to blame. -/
theorem accept_cases (s : State) (fragments : List Bytes) (ids : List Text) :
    (accept s fragments ids = .ok ids ∧ s.Fresh fragments.length ids) ∨
      ∃ e, accept s fragments ids = .error e ∧ e.isBackend = true ∧
        ¬ s.Fresh fragments.length ids := by
  unfold accept checkCount
  by_cases hlen : ids.length = fragments.length
  · rw [if_pos hlen]
    rcases checkNewIds_cases s ids with ⟨hok, hnodup, hnew⟩ | ⟨e, herr, hback, hnot⟩
    · left
      rw [hok]
      exact ⟨rfl, hlen, hnodup, hnew⟩
    · right
      rw [herr]
      exact ⟨e, rfl, hback, fun h => hnot ⟨h.nodup, h.not_pending⟩⟩
  · right
    rw [if_neg hlen]
    exact ⟨_, rfl, rfl, fun h => hlen h.length_eq⟩

/-! ## Handing fragments to the node -/

theorem effect_trackEach {s : State} {ids : List Text} (rs : List (Option Reservation))
    (hnodup : ids.Nodup) (hnew : ∀ id ∈ ids, id ∉ s.pendingIds) :
    (trackEach ids rs).effect s = (.ok (), s.submitted ids rs) := by
  induction ids generalizing rs s with
  | nil => simp [trackEach, State.submitted, State.entries]
  | cons id ids ih =>
      have htrack := Book.effect_track (hnew id List.mem_cons_self) rs.head?.join
      have hrest := State.tracked_not_pending rs.head?.join hnodup hnew
      rw [State.submitted_cons]
      unfold trackEach
      rw [effect_bind_ok htrack]
      exact ih rs.tail (List.nodup_cons.mp hnodup).2 hrest

/-- How a submission ends, for a wallet `s` in which reservations were made and that is `before`
without them. A failure that is not the node's leaves the reservations behind. -/
inductive Ended (before s : State) (count : Nat) (rs : List (Option Reservation))
    (answer : Except Failure (List Text)) : Except Failure (List Text) → State → Prop
  | accepted {ids : List Text} : answer = .ok ids → s.Fresh count ids →
      Ended before s count rs answer (.ok ids) (s.submitted ids rs)
  | refused {e : Failure} : e.isBackend = true →
      (∀ ids, answer = .ok ids → ¬ s.Fresh count ids) →
      Ended before s count rs answer (.error e) before
  | broken {e : Failure} : e.isBackend = false → answer = .error e →
      Ended before s count rs answer (.error e) s

theorem effect_releasingOnRefusal_ok {α : Type} {rs : List (Option Reservation)}
    {a : Action (Desk ω) α} {d' : Desk ω} {x : α} (h : a.effect d = (.ok x, d')) :
    (releasingOnRefusal rs a).effect d = (.ok x, d') := by
  unfold releasingOnRefusal
  rw [effect_orOnFailure, h]

theorem effect_releasingOnRefusal_backend {α : Type} {rs : List (Option Reservation)}
    {a : Action (Desk ω) α} {d' : Desk ω} {e : Failure} {before : State}
    (h : a.effect d = (.error e, d')) (he : e.isBackend = true)
    (hback : (releaseEach rs.reverse).effect d'.wallet = (.ok (), before)) :
    (releasingOnRefusal rs a).effect d = (.error e, { d' with wallet := before }) := by
  have hbook : (Desk.book (releaseEach rs.reverse)).effect d' =
      (.ok (), { d' with wallet := before }) := by
    rw [Desk.effect_book, hback]
  unfold releasingOnRefusal
  rw [effect_orOnFailure, h]
  simp only [he, if_true]
  exact effect_bind_ok hbook

theorem effect_releasingOnRefusal_other {α : Type} (rs : List (Option Reservation))
    {a : Action (Desk ω) α} {d' : Desk ω} {e : Failure}
    (h : a.effect d = (.error e, d')) (he : e.isBackend = false) :
    (releasingOnRefusal rs a).effect d = (.error e, d') := by
  unfold releasingOnRefusal
  rw [effect_orOnFailure, h]
  simp only [he]
  rfl

/-- The request for several fragments, and what the wallet makes of the answer. -/
theorem effect_request_accept (client : Ledger.Client ω) (fragments : List Bytes) (d : Desk ω) :
    (do
      let ids ← Desk.request (client.submitAll fragments)
      checkCount ids fragments
      checkNewIds ids (← Desk.state)
      return ids : Action (Desk ω) (List Text)).effect d =
    (((client.submitAll fragments).effect d.world).1.bind (accept d.wallet fragments),
      { d with world := ((client.submitAll fragments).effect d.world).2 }) := by
  rw [effect_bind, Desk.effect_request]
  rcases (client.submitAll fragments).effect d.world with ⟨⟨e⟩ | ⟨ids⟩, w⟩
  · rfl
  · show _ = (accept d.wallet fragments ids, _)
    unfold accept
    dsimp only
    rcases hcount : checkCount ids fragments with e | u
    · exact effect_bind_error (effect_lift _ _)
    · rw [effect_bind_ok (effect_lift _ _), effect_bind_ok (Desk.effect_state _)]
      rcases hids : checkNewIds ids d.wallet with e | u
      · exact effect_bind_error (effect_lift _ _)
      · exact effect_bind_ok (effect_lift _ _)

/-- With the right number of reservations, the node is asked. -/
theorem countsDiffer_eq_false {fragments : List Bytes} {rs : List (Option Reservation)}
    (hlen : rs = [] ∨ rs.length = fragments.length) :
    (!rs.isEmpty && rs.length != fragments.length) = false := by
  rcases hlen with rfl | hlen
  · rfl
  · simp [hlen]

/-- A failure of the request that is not the node's ends the submission as it is. -/
theorem effect_sendMany_broken (client : Ledger.Client ω) {d : Desk ω} {fragments : List Bytes}
    {rs : List (Option Reservation)} (hlen : rs = [] ∨ rs.length = fragments.length)
    {e : Failure} {w : ω} (hanswer : (client.submitAll fragments).effect d.world = (.error e, w))
    (he : e.isBackend = false) :
    (sendMany client fragments rs).effect d = (.error e, { d with world := w }) := by
  have hask := effect_request_accept client fragments d
  rw [hanswer] at hask
  unfold sendMany
  simp only [countsDiffer_eq_false hlen, Bool.false_eq_true, if_false]
  exact effect_bind_error (effect_releasingOnRefusal_other rs hask he)

/-- Several fragments become pending together, or the node is to blame and what was reserved for
them is given back. -/
theorem sendMany_ended (client : Ledger.Client ω) (d : Desk ω) (fragments : List Bytes)
    {rs : List (Option Reservation)} {before : State}
    (hlen : rs = [] ∨ rs.length = fragments.length)
    (hback : (releaseEach rs.reverse).effect d.wallet = (.ok (), before)) :
    Ended before d.wallet fragments.length rs
        ((client.submitAll fragments).effect d.world).1
        ((sendMany client fragments rs).effect d).1
        ((sendMany client fragments rs).effect d).2.wallet ∧
      ((sendMany client fragments rs).effect d).2.world =
        ((client.submitAll fragments).effect d.world).2 := by
  have hask := effect_request_accept client fragments d
  rcases hanswer : (client.submitAll fragments).effect d.world with ⟨⟨e⟩ | ⟨ids⟩, w⟩
  · cases he : e.isBackend with
    | true =>
        rw [hanswer] at hask
        have hsend := effect_releasingOnRefusal_backend hask he hback
        unfold sendMany
        simp only [countsDiffer_eq_false hlen, Bool.false_eq_true, if_false]
        rw [effect_bind_error hsend]
        exact ⟨.refused he (by rintro _ ⟨⟩), rfl⟩
    | false =>
        rw [effect_sendMany_broken client hlen hanswer he]
        exact ⟨.broken he rfl, rfl⟩
  · rw [hanswer] at hask
    unfold sendMany
    simp only [countsDiffer_eq_false hlen, Bool.false_eq_true, if_false]
    dsimp only [Except.bind] at hask
    rcases accept_cases d.wallet fragments ids with ⟨hok, hfresh⟩ | ⟨e, herr, he, hnot⟩
    · rw [hok] at hask
      have htrack : (Desk.book (trackEach ids rs)).effect { d with world := w } =
          (.ok (), { wallet := d.wallet.submitted ids rs, world := w }) := by
        rw [Desk.effect_book, effect_trackEach rs hfresh.nodup hfresh.not_pending]
      rw [effect_bind_ok (effect_releasingOnRefusal_ok hask), effect_bind_ok htrack]
      exact ⟨.accepted rfl hfresh, rfl⟩
    · rw [herr] at hask
      have hsend := effect_releasingOnRefusal_backend hask he hback
      rw [effect_bind_error hsend]
      refine ⟨.refused he ?_, rfl⟩
      rintro _ ⟨⟩
      exact hnot

/-- The request for one fragment, and what the wallet makes of the answer. -/
theorem effect_request_check (client : Ledger.Client ω) (fragment : Bytes) (d : Desk ω) :
    (do
      let id ← Desk.request (client.submit fragment)
      checkNewIds [id] (← Desk.state)
      return id : Action (Desk ω) Text).effect d =
    (((client.submit fragment).effect d.world).1.bind fun id =>
        (checkNewIds [id] d.wallet).map fun _ => id,
      { d with world := ((client.submit fragment).effect d.world).2 }) := by
  rw [effect_bind, Desk.effect_request]
  rcases (client.submit fragment).effect d.world with ⟨⟨e⟩ | ⟨id⟩, w⟩
  · rfl
  · dsimp only
    rw [effect_bind_ok (Desk.effect_state _)]
    show _ = ((checkNewIds [id] d.wallet).map fun _ => id, _)
    dsimp only
    rcases checkNewIds [id] d.wallet with e | u
    · exact effect_bind_error (effect_lift _ _)
    · exact effect_bind_ok (effect_lift _ _)

/-- A fragment whose identifier is new becomes pending. -/
theorem effect_send (r : Option Reservation) {fragment : Bytes} {id : Text} {world : ω}
    (h : (client.submit fragment).effect d.world = (.ok id, world))
    (hid : id ∉ d.wallet.pendingIds) :
    (send client fragment r).effect d = (.ok id, ⟨d.wallet.tracked id r, world⟩) := by
  have hcheck : checkNewIds [id] d.wallet = .ok () :=
    checkNewIds_ok (List.nodup_singleton id) (by simpa using hid)
  have hask := effect_request_check client fragment d
  rw [h] at hask
  dsimp only [Except.bind] at hask
  rw [hcheck] at hask
  have htrack : (Desk.book (Book.track id r)).effect { d with world := world } =
      (.ok (), ⟨d.wallet.tracked id r, world⟩) :=
    Desk.effect_book_eq (Book.effect_track hid r)
  unfold send
  rw [effect_bind_ok (effect_releasingOnRefusal_ok hask), effect_bind_ok htrack]
  rfl

/-- One fragment becomes pending, or the node is to blame and what was reserved for it is given
back. -/
theorem send_ended (client : Ledger.Client ω) (d : Desk ω) (fragment : Bytes)
    {r : Option Reservation} {before : State}
    (hback : (releaseEach (r.toList.map some).reverse).effect d.wallet = (.ok (), before)) :
    Ended before d.wallet 1 (r.toList.map some)
        (((client.submit fragment).effect d.world).1.map ([·]))
        (((send client fragment r).effect d).1.map ([·]))
        ((send client fragment r).effect d).2.wallet ∧
      ((send client fragment r).effect d).2.world =
        ((client.submit fragment).effect d.world).2 := by
  have hask := effect_request_check client fragment d
  rcases hanswer : (client.submit fragment).effect d.world with ⟨⟨e⟩ | ⟨id⟩, w⟩
  · rw [hanswer] at hask
    unfold send
    cases he : e.isBackend with
    | true =>
        have hsend := effect_releasingOnRefusal_backend hask he hback
        rw [effect_bind_error hsend]
        exact ⟨.refused he (by rintro _ ⟨⟩), rfl⟩
    | false =>
        have hsend := effect_releasingOnRefusal_other (r.toList.map some) hask he
        rw [effect_bind_error hsend]
        exact ⟨.broken he rfl, rfl⟩
  · rw [hanswer] at hask
    dsimp only [Except.bind] at hask
    rcases checkNewIds_cases d.wallet [id] with ⟨hok, hnodup, hnew⟩ | ⟨e, herr, he, hnot⟩
    · rw [effect_send r hanswer (hnew id List.mem_cons_self)]
      have hsame : d.wallet.tracked id r = d.wallet.submitted [id] (r.toList.map some) := by
        cases r <;> rfl
      refine ⟨?_, rfl⟩
      rw [hsame]
      exact .accepted rfl ⟨rfl, hnodup, hnew⟩
    · rw [herr] at hask
      unfold send
      have hsend := effect_releasingOnRefusal_backend hask he hback
      rw [effect_bind_error hsend]
      refine ⟨.refused he ?_, rfl⟩
      rintro _ ⟨⟩ hfresh
      exact hnot ⟨hfresh.nodup, hfresh.not_pending⟩

end Submission

end BallotWallet.Wallet
