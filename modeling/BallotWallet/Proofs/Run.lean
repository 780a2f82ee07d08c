import BallotWallet.Proofs.Settling

/-!
# Runs of a wallet

A run applies the operations on the state of a wallet in any order. Besides the state it keeps
what the state does not say: the reservations that are neither tracked nor given back, and the
counters that have settled in blocks since a refresh found nothing pending.

Main statement: from the floor to the top, every counter is released, in flight or settled, and
it is only one of these; those in flight are those that something pending or outstanding holds. So
the next counter is the lowest one from the floor on that is neither in flight nor settled.
-/

namespace BallotWallet.Wallet

/-- A wallet in the course of a run. -/
structure Run where
  wallet : State
  /-- The reservations that are neither tracked nor given back. -/
  outstanding : List Reservation := []
  /-- The counters of the fragments settled in blocks since a refresh found nothing pending. -/
  settled : CounterSet := .empty

/-- An operation on the state of a wallet. -/
inductive Move where
  | reserve (value : Int)
  | track (id : Text) (r : Reservation)
  | trackBare (id : Text)
  | release (r : Reservation)
  | confirm (id : Text)
  | rollback (id : Text)
  | confirmAll
  | refresh (snapshot : AccountSnapshot)

/-- Only an outstanding reservation is tracked or given back, and none is left at a refresh. -/
def Move.Allowed (t : Run) : Move → Prop
  | .track _ r | .release r => r ∈ t.outstanding
  | .refresh _ => t.outstanding = []
  | _ => True

namespace Run

/-- The settled counters, with that of a pending fragment. -/
def settledWith (t : Run) (id : Text) : CounterSet :=
  match (t.wallet.reservationOf? id).bind (·.counter) with
  | some c => t.settled.insert c
  | none => t.settled

/-- A fragment settles in a block. -/
def confirm (t : Run) (id : Text) : Run :=
  { t with wallet := t.wallet.confirm id, settled := t.settledWith id }

/-- An operation is carried out. One that fails leaves its state behind, too. -/
def step (t : Run) : Move → Run
  | .reserve value =>
    match t.wallet.reserve value with
    | (.ok r, s) => { t with wallet := s, outstanding := r :: t.outstanding }
    | (.error _, s) => { t with wallet := s }
  | .track id r =>
    match t.wallet.track id (some r) with
    | .ok s => { t with wallet := s, outstanding := t.outstanding.erase r }
    | .error _ => t
  | .trackBare id =>
    match t.wallet.track id none with
    | .ok s => { t with wallet := s }
    | .error _ => t
  | .release r =>
    match t.wallet.release r with
    | (.ok _, s) => { t with wallet := s, outstanding := t.outstanding.erase r }
    | (.error _, s) => { t with wallet := s }
  | .confirm id => t.confirm id
  | .rollback id => { t with wallet := (t.wallet.rollback id).2 }
  | .confirmAll =>
    { t.wallet.pendingIds.foldl confirm t with wallet := t.wallet.confirmAll }
  | .refresh snapshot =>
    { t with
      wallet := t.wallet.refresh snapshot
      settled := if t.wallet.pending.isEmpty then .empty else t.settled }

/-- What a run can come to from a first state. -/
inductive Reached (s : State) : Run → Prop
  | start : Reached s { wallet := s }
  | step {t : Run} (m : Move) : Reached s t → m.Allowed t → Reached s (t.step m)

/-- Confirming all pending fragments is confirming one after another. -/
theorem foldl_confirm_wallet (ids : List Text) (t : Run) :
    (ids.foldl confirm t).wallet = ids.foldl (fun s id => s.confirm id) t.wallet := by
  induction ids generalizing t with
  | nil => rfl
  | cons id ids ih => exact ih (t.confirm id)

theorem step_confirmAll (t : Run) :
    t.step .confirmAll = t.wallet.pendingIds.foldl confirm t := by
  have hwallet : t.wallet.confirmAll = (t.wallet.pendingIds.foldl confirm t).wallet :=
    (foldl_confirm_wallet _ t).symm
  unfold step
  rw [hwallet]

end Run

/-! ## Every counter is accounted for -/

/-- The counter discipline, and where the counters from the floor on are. -/
structure State.Accounted (s : State) (outstanding : List Int) (settled : CounterSet) : Prop
    extends s.Disciplined outstanding where
  settled_lt : ∀ c ∈ settled, c < s.nextCounter
  settled_free : ∀ c ∈ settled, c ∉ s.released ∧ c ∉ s.inFlight
  covered : ∀ c, s.floor ≤ c → c < s.nextCounter →
    c ∈ s.released ∨ c ∈ s.inFlight ∨ c ∈ settled

namespace State.Accounted

variable {s : State} {outstanding : List Int} {settled : CounterSet} {id : Text}
  {r : Reservation}

theorem reserved (h : s.Accounted outstanding settled) (value : Int) :
    (s.reserved value).Accounted (s.counter :: outstanding) settled := by
  have hle := h.counter_le_next
  refine ⟨h.reserve_disciplined value, ?_, ?_, ?_⟩
  · intro c hc
    have := h.settled_lt c hc
    simp only [State.reserved]
    omega
  · intro c hc
    have hfree := h.settled_free c hc
    refine ⟨fun hr => hfree.1 (CounterSet.mem_erase.mp hr).1, fun hin => ?_⟩
    rcases CounterSet.mem_insert.mp hin with rfl | hin
    · rcases s.counter_mem_or_eq with hr | ⟨he, _⟩
      · exact hfree.1 hr
      · have := h.settled_lt _ hc
        omega
    · exact hfree.2 hin
  · intro c hfloor hlt
    by_cases he : c = s.counter
    · exact Or.inr (Or.inl (CounterSet.mem_insert.mpr (Or.inl he)))
    · have hlt : c < s.nextCounter := by
        simp only [State.reserved] at hlt
        omega
      rcases h.covered c hfloor hlt with hr | hin | hs
      · exact Or.inl (CounterSet.mem_erase.mpr ⟨hr, he⟩)
      · exact Or.inr (Or.inl (CounterSet.mem_insert.mpr (Or.inr hin)))
      · exact Or.inr (Or.inr hs)

theorem of_same {t : State} (h : s.Accounted outstanding settled) {others : List Int}
    (hd : t.Disciplined others) (hnext : t.nextCounter = s.nextCounter)
    (hfloor : t.floor = s.floor) (hreleased : t.released = s.released)
    (hinFlight : t.inFlight = s.inFlight) : t.Accounted others settled := by
  refine ⟨hd, ?_, ?_, ?_⟩
  · rw [hnext]
    exact h.settled_lt
  · rw [hreleased, hinFlight]
    exact h.settled_free
  · rw [hfloor, hnext, hreleased, hinFlight]
    exact h.covered

/-- A counter lands in a block. -/
theorem land {c : Int} (h : s.Accounted (c :: outstanding) settled) :
    ({ s with inFlight := s.inFlight.erase c } : State).Accounted outstanding
      (settled.insert c) := by
  have hc := h.held_inFlight c List.mem_cons_self
  refine ⟨h.land_disciplined, ?_, ?_, ?_⟩
  · intro d hd
    rcases CounterSet.mem_insert.mp hd with rfl | hd
    · exact h.inFlight_lt d hc
    · exact h.settled_lt d hd
  · intro d hd
    rcases CounterSet.mem_insert.mp hd with rfl | hd
    · exact ⟨fun hr => h.released_free d hr hc, by simp⟩
    · have hfree := h.settled_free d hd
      exact ⟨hfree.1, fun hin => hfree.2 (CounterSet.mem_erase.mp hin).1⟩
  · intro d hfloor hlt
    rcases h.covered d hfloor hlt with hr | hin | hs
    · exact Or.inl hr
    · by_cases he : d = c
      · exact Or.inr (Or.inr (CounterSet.mem_insert.mpr (Or.inl he)))
      · exact Or.inr (Or.inl (CounterSet.mem_erase.mpr ⟨hin, he⟩))
    · exact Or.inr (Or.inr (CounterSet.mem_insert.mpr (Or.inr hs)))

/-- A counter comes back. -/
theorem free {c : Int} (h : s.Accounted (c :: outstanding) settled) :
    (s.freeCounter c).Accounted outstanding settled := by
  have hc := h.held_inFlight c List.mem_cons_self
  have hnot : ∀ d ∈ settled, ¬ (d = c ∧ s.floor ≤ c ∨ d ∈ s.released) := by
    rintro d hd (⟨rfl, _⟩ | hr)
    · exact (h.settled_free d hd).2 hc
    · exact (h.settled_free d hd).1 hr
  refine ⟨h.free_disciplined, ?_, ?_, ?_⟩
  · intro d hd
    by_contra hge
    exact hnot d hd (swallowed_by_free (Int.not_lt.mp hge) (h.settled_lt d hd))
  · intro d hd
    refine ⟨fun hr => hnot d hd (h.mem_free_released.mp hr).1, fun hin => ?_⟩
    rw [freeCounter_inFlight] at hin
    exact (h.settled_free d hd).2 (CounterSet.mem_erase.mp hin).1
  · intro d hfloor hlt
    rw [freeCounter_floor] at hfloor
    rw [freeCounter_inFlight]
    have hlt' := Int.lt_of_lt_of_le hlt (free_next_le c s)
    -- a counter that was covered still is, if the top has not come down over it
    rcases h.covered d hfloor hlt' with hr | hin | hs
    · exact Or.inl (h.mem_free_released.mpr ⟨Or.inr hr, hlt⟩)
    · by_cases he : d = c
      · exact Or.inl (h.mem_free_released.mpr ⟨Or.inl ⟨he, he ▸ hfloor⟩, hlt⟩)
      · exact Or.inr (Or.inl (CounterSet.mem_erase.mpr ⟨hin, he⟩))
    · exact Or.inr (Or.inr hs)

theorem unwound (h : s.Accounted (r.counter.toList ++ outstanding) settled) :
    (s.unwound r).Accounted outstanding settled := by
  have hrefund : (s.refund r).Accounted (r.counter.toList ++ outstanding) settled := by
    have hd : (s.refund r).Disciplined (r.counter.toList ++ outstanding) := by
      rw [refund_eq]
      exact h.toDisciplined.of_same rfl rfl rfl rfl rfl rfl
    rw [refund_eq] at hd ⊢
    exact h.of_same hd rfl rfl rfl rfl
  unfold State.unwound
  cases hr : r.counter with
  | none =>
      rw [hr] at hrefund
      exact hrefund
  | some c =>
      rw [hr] at hrefund
      exact hrefund.free

theorem forget (h : s.Accounted outstanding settled) (hr : s.reservationOf? id = some r) :
    (s.forget id).Accounted (r.counter.toList ++ outstanding) settled :=
  h.of_same (forget_disciplined h.toDisciplined hr) rfl rfl rfl rfl

theorem tracked {r : Option Reservation}
    (h : s.Accounted ((r.bind (·.counter)).toList ++ outstanding) settled)
    (hid : id ∉ s.pendingIds) : (s.tracked id r).Accounted outstanding settled :=
  h.of_same (tracked_disciplined h.toDisciplined hid) rfl rfl rfl rfl

theorem rollback (h : s.Accounted outstanding settled) :
    (s.rollback id).2.Accounted outstanding settled := by
  cases hr : s.reservationOf? id with
  | none =>
      rw [rollback_absent (reservationOf?_eq_none.mp hr)]
      exact h
  | some r =>
      rw [rollback_eq h.toDisciplined hr]
      exact (h.forget hr).unwound

/-- After a refresh with nothing pending the settled counters are counted anew. -/
theorem refresh (h : s.Accounted [] settled) (snapshot : AccountSnapshot) :
    (s.refresh snapshot).Accounted []
      (if s.pending.isEmpty then .empty else settled) := by
  have hd := refresh_disciplined h.toDisciplined snapshot
  have hs : (s.refreshBalance snapshot).Accounted [] settled :=
    h.of_same (refreshBalance_disciplined h.toDisciplined) rfl rfl rfl rfl
  have hempty : (s.refreshBalance snapshot).pending.isEmpty = s.pending.isEmpty := by
    simp [refreshBalance]
  unfold State.refresh at hd ⊢
  rw [← hempty]
  generalize s.refreshBalance snapshot = t at *
  unfold refreshCounters at hd ⊢
  split
  · rename_i hp
    rw [if_pos hp] at hd
    -- no counter is left to account for
    refine ⟨hd, by simp, by simp, ?_⟩
    intro c hfloor hlt
    exact absurd hlt (Int.not_lt.mpr hfloor)
  · rename_i hp
    rw [if_neg hp] at hd
    split
    · rename_i hover
      rw [if_pos hover] at hd
      refine ⟨hd, ?_, fun c hc => ⟨by simp, (hs.settled_free c hc).2⟩, ?_⟩
      · exact fun c hc => Int.lt_trans (hs.settled_lt c hc) hover
      · intro c hfloor hlt
        exact absurd hlt (Int.not_lt.mpr hfloor)
    · rename_i hover
      rw [if_neg hover] at hd
      split
      · rename_i hfar
        rw [if_pos hfar] at hd
        refine ⟨hd, hs.settled_lt, ?_, ?_⟩
        · intro c hc
          have hfree := hs.settled_free c hc
          exact ⟨fun hr => hfree.1 (CounterSet.mem_filter.mp hr).1, hfree.2⟩
        · intro c hfloor hlt
          rcases hs.covered c (Int.le_trans (Int.le_of_lt hfar) hfloor) hlt with hr | hrest
          · exact Or.inl (CounterSet.mem_filter.mpr ⟨hr, decide_eq_true hfloor⟩)
          · exact Or.inr hrest
      · exact hs

end State.Accounted

/-! ## Nothing else is in flight -/

/-- Every counter in flight is held by something outstanding or pending. This ends when a
reservation is lost, so it stands apart from the account. -/
def State.AllHeld (s : State) (outstanding : List Int) : Prop :=
  ∀ c ∈ s.inFlight, c ∈ outstanding ++ s.pendingCounters

namespace State.AllHeld

variable {s t : State} {outstanding others : List Int} {id : Text} {r : Reservation}

theorem of_perm (h : s.AllHeld outstanding) (hinFlight : t.inFlight = s.inFlight)
    (hheld : (others ++ t.pendingCounters).Perm (outstanding ++ s.pendingCounters)) :
    t.AllHeld others := by
  intro c hc
  rw [hinFlight] at hc
  exact hheld.symm.subset (h c hc)

theorem reserved (h : s.AllHeld outstanding) (value : Int) :
    (s.reserved value).AllHeld (s.counter :: outstanding) := by
  intro c hc
  rcases CounterSet.mem_insert.mp hc with rfl | hc
  · exact List.mem_cons_self
  · exact List.mem_cons_of_mem _ (h c hc)

/-- Without what one reservation held, the others hold whatever is still in flight. -/
theorem without (h : s.AllHeld (r.counter.toList ++ outstanding))
    (hinFlight : ∀ c ∈ t.inFlight, c ∈ s.inFlight ∧ r.counter ≠ some c)
    (hcounters : t.pendingCounters = s.pendingCounters) : t.AllHeld outstanding := by
  intro c hc
  obtain ⟨hin, hne⟩ := hinFlight c hc
  have hheld := h c hin
  rw [List.append_assoc] at hheld
  rw [hcounters]
  rcases List.mem_append.mp hheld with hown | hrest
  · exact absurd (Option.mem_toList.mp hown) hne
  · exact hrest

theorem unwound (h : s.AllHeld (r.counter.toList ++ outstanding)) :
    (s.unwound r).AllHeld outstanding := by
  refine h.without (fun c hc => mem_unwound_inFlight.mp hc) ?_
  unfold pendingCounters
  rw [unwound_pending]

theorem forget (h : s.AllHeld outstanding) (hids : s.pendingIds.Nodup)
    (hr : s.reservationOf? id = some r) :
    (s.forget id).AllHeld (r.counter.toList ++ outstanding) :=
  h.of_perm rfl (held_forget hids hr outstanding)

theorem tracked {r : Option Reservation}
    (h : s.AllHeld ((r.bind (·.counter)).toList ++ outstanding)) (id : Text) :
    (s.tracked id r).AllHeld outstanding :=
  h.of_perm rfl (held_tracked id r s outstanding)

theorem confirm (h : s.AllHeld outstanding) (hids : s.pendingIds.Nodup) (id : Text) :
    (s.confirm id).AllHeld outstanding := by
  cases hr : s.reservationOf? id with
  | none =>
      rw [confirm_absent (reservationOf?_eq_none.mp hr)]
      exact h
  | some r =>
      rw [confirm_eq hr]
      refine (h.forget hids hr).without ?_ rfl
      intro c hc
      cases hcounter : r.counter with
      | none =>
          rw [hcounter] at hc
          exact ⟨hc, Option.some_ne_none c |>.symm⟩
      | some d =>
          rw [hcounter] at hc
          obtain ⟨hin, hne⟩ := CounterSet.mem_erase.mp hc
          exact ⟨hin, fun he => hne (Option.some.inj he).symm⟩

theorem rollback (h : s.AllHeld outstanding) (hd : s.Disciplined outstanding) (id : Text) :
    (s.rollback id).2.AllHeld outstanding := by
  cases hr : s.reservationOf? id with
  | none =>
      rw [rollback_absent (reservationOf?_eq_none.mp hr)]
      exact h
  | some r =>
      rw [rollback_eq hd hr]
      exact (h.forget hd.ids_nodup hr).unwound

theorem refresh (h : s.AllHeld []) (snapshot : AccountSnapshot) :
    (s.refresh snapshot).AllHeld [] := by
  by_cases hpending : s.pending = []
  · intro c hc
    rw [refresh_inFlight_idle hpending] at hc
    exact absurd hc (by simp)
  · refine h.of_perm (refresh_inFlight hpending) (.of_eq ?_)
    rw [refresh_counters]

end State.AllHeld

namespace Run

variable {t : Run}

/-- What holds in every run: all counters are accounted for, and what is outstanding has one. -/
structure Sound (t : Run) : Prop where
  accounted : t.wallet.Accounted (Reservation.counters t.outstanding) t.settled
  numbered : ∀ r ∈ t.outstanding, ∃ c, r.counter = some c

theorem start_sound {s : State} (h : s.Disciplined []) (htop : s.floor = s.nextCounter) :
    Sound { wallet := s } := by
  refine ⟨⟨h, by simp, by simp, ?_⟩, by simp⟩
  intro c hfloor hlt
  have : s.nextCounter ≤ c := htop ▸ hfloor
  exact absurd hlt (Int.not_lt.mpr this)

/-- Taking a reservation out of the outstanding ones takes out its counter. -/
theorem perm_counters {rs : List Reservation} {r : Reservation} (h : r ∈ rs) :
    (r.counter.toList ++ Reservation.counters (rs.erase r)).Perm (Reservation.counters rs) := by
  rw [← Reservation.counters_cons]
  exact (List.perm_cons_erase h).symm.filterMap (·.counter)

theorem Sound.taken (h : t.Sound) {r : Reservation} (hr : r ∈ t.outstanding) :
    t.wallet.Accounted (r.counter.toList ++ Reservation.counters (t.outstanding.erase r))
      t.settled :=
  h.accounted.of_same (h.accounted.toDisciplined.perm (perm_counters hr)) rfl rfl rfl rfl

theorem confirm_sound (h : t.Sound) (id : Text) : (t.confirm id).Sound := by
  refine ⟨?_, h.numbered⟩
  unfold confirm settledWith
  cases hr : t.wallet.reservationOf? id with
  | none =>
      rw [State.confirm_absent (State.reservationOf?_eq_none.mp hr)]
      exact h.accounted
  | some r =>
      have hforget := h.accounted.forget hr
      rw [State.confirm_eq hr, Option.bind_some]
      cases hc : r.counter with
      | none =>
          rw [hc] at hforget
          exact hforget
      | some c =>
          rw [hc] at hforget
          exact hforget.land

theorem foldl_confirm_sound (h : t.Sound) (ids : List Text) :
    (ids.foldl confirm t).Sound := by
  induction ids generalizing t with
  | nil => exact h
  | cons id ids ih => exact ih (confirm_sound h id)

/-- Every allowed operation keeps the account. -/
theorem step_sound (h : t.Sound) (m : Move) (hm : m.Allowed t) : (t.step m).Sound := by
  cases m with
  | reserve value =>
      simp only [step, h.accounted.reserve_eq value]
      refine ⟨h.accounted.reserved value, ?_⟩
      intro r hr
      rcases List.mem_cons.mp hr with rfl | hr
      · exact ⟨_, rfl⟩
      · exact h.numbered r hr
  | track id r =>
      by_cases hid : id ∈ t.wallet.pendingIds
      · simp only [step, State.track_pending hid]
        exact h
      · simp only [step, State.track_eq hid]
        exact ⟨(h.taken hm).tracked hid, fun q hq => h.numbered q (List.mem_of_mem_erase hq)⟩
  | trackBare id =>
      by_cases hid : id ∈ t.wallet.pendingIds
      · simp only [step, State.track_pending hid]
        exact h
      · simp only [step, State.track_eq hid]
        exact ⟨State.Accounted.tracked (r := none) h.accounted hid, h.numbered⟩
  | release r =>
      have htaken := h.taken hm
      simp only [step, htaken.release_eq]
      exact ⟨htaken.unwound, fun q hq => h.numbered q (List.mem_of_mem_erase hq)⟩
  | confirm id => exact confirm_sound h id
  | rollback id => exact ⟨h.accounted.rollback, h.numbered⟩
  | confirmAll =>
      rw [step_confirmAll]
      exact foldl_confirm_sound h _
  | refresh snapshot =>
      have hnone : t.outstanding = [] := hm
      have hacc := h.accounted
      rw [hnone] at hacc
      refine ⟨?_, h.numbered⟩
      simp only [step, hnone]
      exact hacc.refresh snapshot

theorem reached_sound {counter balance : Int} {s : State}
    (hstart : State.start counter balance = .ok s) (h : Reached s t) : t.Sound := by
  induction h with
  | start =>
      refine start_sound (State.start_disciplined hstart) ?_
      rw [State.start_eq hstart]
  | step m _ hm ih => exact step_sound ih m hm

theorem foldl_confirm_allHeld (h : t.Sound)
    (hheld : t.wallet.AllHeld (Reservation.counters t.outstanding)) (ids : List Text) :
    (ids.foldl confirm t).wallet.AllHeld
      (Reservation.counters (ids.foldl confirm t).outstanding) := by
  induction ids generalizing t with
  | nil => exact hheld
  | cons id ids ih =>
      exact ih (confirm_sound h id) (hheld.confirm h.accounted.ids_nodup id)

/-- Whatever leaves the outstanding and the pending reservations leaves its counter out of
flight. -/
theorem step_allHeld (h : t.Sound)
    (hheld : t.wallet.AllHeld (Reservation.counters t.outstanding)) (m : Move)
    (hm : m.Allowed t) :
    (t.step m).wallet.AllHeld (Reservation.counters (t.step m).outstanding) := by
  have htaken : ∀ r ∈ t.outstanding, t.wallet.AllHeld
      (r.counter.toList ++ Reservation.counters (t.outstanding.erase r)) :=
    fun r hr => hheld.of_perm rfl ((perm_counters hr).append_right _)
  cases m with
  | reserve value =>
      simp only [step, h.accounted.reserve_eq value]
      exact hheld.reserved value
  | track id r =>
      by_cases hid : id ∈ t.wallet.pendingIds
      · simp only [step, State.track_pending hid]
        exact hheld
      · simp only [step, State.track_eq hid]
        exact State.AllHeld.tracked (r := some r) (htaken r hm) id
  | trackBare id =>
      by_cases hid : id ∈ t.wallet.pendingIds
      · simp only [step, State.track_pending hid]
        exact hheld
      · simp only [step, State.track_eq hid]
        exact State.AllHeld.tracked (r := none) hheld id
  | release r =>
      simp only [step, (h.taken hm).release_eq]
      exact (htaken r hm).unwound
  | confirm id => exact hheld.confirm h.accounted.ids_nodup id
  | rollback id => exact hheld.rollback h.accounted.toDisciplined id
  | confirmAll =>
      rw [step_confirmAll]
      exact foldl_confirm_allHeld h hheld _
  | refresh snapshot =>
      have hnone : t.outstanding = [] := hm
      rw [hnone] at hheld
      simp only [step, hnone]
      exact hheld.refresh snapshot

theorem reached_allHeld {counter balance : Int} {s : State}
    (hstart : State.start counter balance = .ok s) (h : Reached s t) :
    t.wallet.AllHeld (Reservation.counters t.outstanding) := by
  induction h with
  | start =>
      rw [State.start_eq hstart]
      exact fun c hc => absurd hc (by simp)
  | step m hreached hm ih => exact step_allHeld (reached_sound hstart hreached) ih m hm

/-- **Every counter is accounted for.** In every run from a fresh wallet, the counters from the
floor to the top are the released ones, those in flight and those settled since a refresh found
nothing pending, each of them one of these only; the top counter is not a released one; what is
pending or outstanding is in flight, each under its own counter, and nothing else is, so a counter
that was given back or rolled back is in flight no more. So a reservation always succeeds, with the
lowest counter from the floor on that is neither in flight nor settled. -/
theorem counters_accounted_for {counter balance : Int} {s : State}
    (hstart : State.start counter balance = .ok s) (h : Reached s t) :
    t.wallet.floor ≤ t.wallet.nextCounter ∧
    (∀ c, (t.wallet.floor ≤ c ∧ c < t.wallet.nextCounter) ↔
      (c ∈ t.wallet.released ∨ (c ∈ t.wallet.inFlight ∧ t.wallet.floor ≤ c) ∨
        (c ∈ t.settled ∧ t.wallet.floor ≤ c))) ∧
    (∀ c ∈ t.wallet.released, c ∉ t.wallet.inFlight ∧ c ∉ t.settled) ∧
    (∀ c ∈ t.wallet.inFlight, c ∉ t.settled) ∧
    t.wallet.nextCounter - 1 ∉ t.wallet.released ∧
    (∀ r ∈ t.outstanding, ∃ c, r.counter = some c ∧ c ∈ t.wallet.inFlight) ∧
    (∀ p ∈ t.wallet.pending, ∀ c, p.2.counter = some c → c ∈ t.wallet.inFlight) ∧
    (Reservation.counters (t.outstanding ++ t.wallet.pending.map (·.2))).Nodup ∧
    (∀ c ∈ t.wallet.inFlight,
      c ∈ Reservation.counters (t.outstanding ++ t.wallet.pending.map (·.2))) ∧
    ∀ value, ∃ c, (t.wallet.reserve value).1 = .ok { counter := some c, value := value } ∧
      t.wallet.floor ≤ c ∧ c ∉ t.wallet.inFlight ∧ c ∉ t.settled ∧
      ∀ d, t.wallet.floor ≤ d → d < c → d ∈ t.wallet.inFlight ∨ d ∈ t.settled := by
  obtain ⟨hacc, hnumbered⟩ := reached_sound hstart h
  have hallHeld := reached_allHeld hstart h
  have hheld : Reservation.counters (t.outstanding ++ t.wallet.pending.map (·.2)) =
      Reservation.counters t.outstanding ++ t.wallet.pendingCounters := by
    unfold Reservation.counters State.pendingCounters
    rw [List.filterMap_append, List.filterMap_map]
    rfl
  refine ⟨hacc.floor_le, ?_, ?_, fun c hc hs => (hacc.settled_free c hs).2 hc, hacc.top_free,
    ?_, ?_, hheld ▸ hacc.held_nodup, hheld ▸ hallHeld, ?_⟩
  · intro c
    constructor
    · rintro ⟨hfloor, hlt⟩
      rcases hacc.covered c hfloor hlt with hr | hin | hs
      · exact Or.inl hr
      · exact Or.inr (Or.inl ⟨hin, hfloor⟩)
      · exact Or.inr (Or.inr ⟨hs, hfloor⟩)
    · rintro (hr | ⟨hin, hfloor⟩ | ⟨hs, hfloor⟩)
      · exact hacc.released_bounds c hr
      · exact ⟨hfloor, hacc.inFlight_lt c hin⟩
      · exact ⟨hfloor, hacc.settled_lt c hs⟩
  · exact fun c hc => ⟨hacc.released_free c hc, fun hs => (hacc.settled_free c hs).1 hc⟩
  · intro r hr
    obtain ⟨c, hc⟩ := hnumbered r hr
    refine ⟨c, hc, hacc.held_inFlight c (List.mem_append_left _ ?_)⟩
    exact List.mem_filterMap.mpr ⟨r, hr, hc⟩
  · intro p hp c hc
    refine hacc.held_inFlight c (List.mem_append_right _ ?_)
    exact List.mem_filterMap.mpr ⟨p, hp, hc⟩
  · intro value
    refine ⟨t.wallet.counter, by rw [hacc.reserve_eq value], hacc.floor_le_counter,
      hacc.counter_free, ?_, ?_⟩
    · intro hs
      rcases t.wallet.counter_mem_or_eq with hr | ⟨he, _⟩
      · exact (hacc.settled_free _ hs).1 hr
      · have := hacc.settled_lt _ hs
        omega
    · intro d hfloor hlt
      rcases hacc.covered d hfloor (Int.lt_of_lt_of_le hlt hacc.counter_le_next) with hr | hrest
      · exact absurd hlt (Int.not_lt.mpr (t.wallet.counter_le_of_released hr))
      · exact hrest

/-- A run that leaves a hole: of the counters 5, 6 and 7 the first is outstanding, the second was
rejected and the third has settled. -/
def holed : Run :=
  let a : Text := Text.ofChars ['a']
  let b : Text := Text.ofChars ['b']
  [Move.reserve 10, .reserve 20, .reserve 30, .track a { counter := some 6, value := 20 },
    .track b { counter := some 7, value := 30 }, .confirm b, .rollback a].foldl step
    { wallet := { nextCounter := 5, floor := 5, balance := 100 } }

/-- The next reservation takes the hole. -/
theorem counters_accounted_for_hole :
    State.start 5 100 = .ok { nextCounter := 5, floor := 5, balance := 100 } ∧
    Reached { nextCounter := 5, floor := 5, balance := 100 } holed ∧
      holed.wallet.released.elements = [6] ∧ holed.settled.elements = [7] ∧
      holed.outstanding = [{ counter := some 5, value := 10 }] ∧
      (∀ c ∈ holed.wallet.inFlight, c = 5) ∧
      ∃ c, (holed.wallet.reserve 1).1 = .ok { counter := some c, value := 1 } ∧
        ∀ d, holed.wallet.floor ≤ d → d < c →
          d ∈ holed.wallet.inFlight ∨ d ∈ holed.settled := by
  have hstart : State.start 5 100 = .ok { nextCounter := 5, floor := 5, balance := 100 } := rfl
  have hreached : Reached { nextCounter := 5, floor := 5, balance := 100 } holed := by
    unfold holed
    simp only [List.foldl_cons, List.foldl_nil]
    refine .step _ (.step _ (.step _ (.step _ (.step _ (.step _ (.step _ .start trivial) trivial)
      trivial) ?_) ?_) trivial) trivial
    · show _ ∈ Run.outstanding _
      decide +kernel
    · show _ ∈ Run.outstanding _
      decide +kernel
  obtain ⟨_, _, _, _, _, _, _, _, hheld, hnext⟩ := counters_accounted_for hstart hreached
  refine ⟨hstart, hreached, by decide +kernel, by decide +kernel, by decide +kernel, ?_, ?_⟩
  · have hcounters : Reservation.counters (holed.outstanding ++ holed.wallet.pending.map (·.2)) =
        [5] := by
      decide +kernel
    intro c hc
    have hmem := hheld c hc
    rw [hcounters] at hmem
    exact List.mem_singleton.mp hmem
  · obtain ⟨c, hc, _, _, _, hlow⟩ := hnext 1
    exact ⟨c, hc, hlow⟩

end Run

end BallotWallet.Wallet
