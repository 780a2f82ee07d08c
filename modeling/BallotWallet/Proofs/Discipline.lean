import BallotWallet.Proofs.Ordered

/-!
# The counter discipline

What holds of the counters of a wallet at every moment, whatever was reserved, submitted, settled
or fetched before. A reservation that is neither pending nor given back is outstanding; a failed
operation may leave one behind, so the discipline allows for any number of them.
-/

namespace BallotWallet.Wallet

/-- The counters of reservations. -/
def Reservation.counters (rs : List Reservation) : List Int :=
  rs.filterMap (·.counter)

theorem Reservation.counters_cons (r : Reservation) (rs : List Reservation) :
    counters (r :: rs) = r.counter.toList ++ counters rs := by
  unfold counters
  rw [List.filterMap_cons]
  cases r.counter <;> rfl

namespace State

/-- The counters that pending fragments hold. -/
def pendingCounters (s : State) : List Int :=
  s.pending.filterMap (·.2.counter)

/-- The counter discipline, with the counters that outstanding reservations hold. -/
structure Disciplined (s : State) (outstanding : List Int) : Prop where
  floor_le : s.floor ≤ s.nextCounter
  released_bounds : ∀ c ∈ s.released, s.floor ≤ c ∧ c < s.nextCounter
  top_free : s.nextCounter - 1 ∉ s.released
  inFlight_lt : ∀ c ∈ s.inFlight, c < s.nextCounter
  released_free : ∀ c ∈ s.released, c ∉ s.inFlight
  held_inFlight : ∀ c ∈ outstanding ++ s.pendingCounters, c ∈ s.inFlight
  held_nodup : (outstanding ++ s.pendingCounters).Nodup
  ids_nodup : s.pendingIds.Nodup

theorem start_disciplined {counter balance : Int} {s : State}
    (h : start counter balance = .ok s) : s.Disciplined [] := by
  rw [start_eq h]
  exact ⟨Int.le_refl _, by simp, by simp, by simp, by simp, by simp [pendingCounters],
    by simp [pendingCounters], by simp [pendingIds]⟩

theorem fresh_disciplined : ({} : State).Disciplined [] :=
  start_disciplined (show start 0 0 = .ok {} from rfl)

namespace Disciplined

variable {s : State} {outstanding : List Int}

/-- Which reservations count as outstanding may shrink, as when one is lost. -/
theorem sublist (h : s.Disciplined outstanding) {fewer : List Int}
    (hsub : fewer.Sublist outstanding) : s.Disciplined fewer where
  floor_le := h.floor_le
  released_bounds := h.released_bounds
  top_free := h.top_free
  inFlight_lt := h.inFlight_lt
  released_free := h.released_free
  held_inFlight := fun c hc => h.held_inFlight c ((hsub.append_right _).subset hc)
  held_nodup := h.held_nodup.sublist (hsub.append_right _)
  ids_nodup := h.ids_nodup

theorem perm (h : s.Disciplined outstanding) {others : List Int}
    (hp : others.Perm outstanding) : s.Disciplined others where
  floor_le := h.floor_le
  released_bounds := h.released_bounds
  top_free := h.top_free
  inFlight_lt := h.inFlight_lt
  released_free := h.released_free
  held_inFlight := fun c hc => h.held_inFlight c ((hp.append_right _).subset hc)
  held_nodup := (hp.append_right _).nodup_iff.mpr h.held_nodup
  ids_nodup := h.ids_nodup

theorem none_outstanding (h : s.Disciplined outstanding) : s.Disciplined [] :=
  h.sublist (List.nil_sublist _)

end Disciplined

/-! ## Counters in order -/

theorem Disciplined.ordered {s : State} {outstanding : List Int} (h : s.Disciplined outstanding) :
    s.Ordered :=
  ⟨h.floor_le, h.released_bounds, h.top_free, h.inFlight_lt, h.released_free⟩

/-- Beyond the order of the counters, every held one is in flight, and none is held twice. -/
theorem Ordered.disciplined {s : State} {outstanding : List Int} (h : s.Ordered)
    (hheld : ∀ c ∈ outstanding ++ s.pendingCounters, c ∈ s.inFlight)
    (hnodup : (outstanding ++ s.pendingCounters).Nodup) (hids : s.pendingIds.Nodup) :
    s.Disciplined outstanding :=
  ⟨h.floor_le, h.released_bounds, h.top_free, h.inFlight_lt, h.released_free, hheld, hnodup, hids⟩

namespace Disciplined

variable {s : State} {outstanding : List Int} {c : Int}

theorem counter_le_next (h : s.Disciplined outstanding) : s.counter ≤ s.nextCounter :=
  h.ordered.counter_le_next

theorem floor_le_counter (h : s.Disciplined outstanding) : s.floor ≤ s.counter :=
  h.ordered.floor_le_counter

theorem counter_free (h : s.Disciplined outstanding) : s.counter ∉ s.inFlight :=
  h.ordered.counter_free

theorem reserve_eq (h : s.Disciplined outstanding) (value : Int) :
    s.reserve value = (.ok { counter := some s.counter, value := value }, s.reserved value) :=
  h.ordered.reserve_eq value

theorem reserve_disciplined (h : s.Disciplined outstanding) (value : Int) :
    (s.reserved value).Disciplined (s.counter :: outstanding) := by
  have hheld : s.counter ∉ outstanding ++ s.pendingCounters :=
    fun hc => h.counter_free (h.held_inFlight _ hc)
  refine (h.ordered.reserved value).disciplined ?_ (List.nodup_cons.mpr ⟨hheld, h.held_nodup⟩)
    h.ids_nodup
  intro c hc
  rcases List.mem_cons.mp hc with rfl | hc
  · exact CounterSet.mem_insert.mpr (Or.inl rfl)
  · exact CounterSet.mem_insert.mpr (Or.inr (h.held_inFlight c hc))

/-- The counter that is held first is in flight. -/
theorem head_inFlight (h : s.Disciplined (c :: outstanding)) : c ∈ s.inFlight :=
  h.held_inFlight c List.mem_cons_self

/-- The counter of a reservation that is held is in flight. -/
theorem inFlight_of_counter {r : Reservation}
    (h : s.Disciplined (r.counter.toList ++ outstanding)) :
    ∀ c, r.counter = some c → c ∈ s.inFlight := by
  intro c hc
  exact h.held_inFlight c (by simp [hc])

/-- What is held can be given back. -/
theorem release_eq {r : Reservation} (h : s.Disciplined (r.counter.toList ++ outstanding)) :
    s.release r = (.ok (), s.unwound r) :=
  State.release_eq h.inFlight_of_counter

/-- The counter of a settled fragment is taken out of flight. -/
theorem land_disciplined (h : s.Disciplined (c :: outstanding)) :
    ({ s with inFlight := s.inFlight.erase c } : State).Disciplined outstanding := by
  have hnodup := List.nodup_cons.mp h.held_nodup
  refine (h.ordered.land c).disciplined ?_ hnodup.2 h.ids_nodup
  intro d hd
  refine CounterSet.mem_erase.mpr ⟨h.held_inFlight d (List.mem_cons_of_mem _ hd), ?_⟩
  rintro rfl
  exact hnodup.1 hd

theorem mem_free_released (h : s.Disciplined (c :: outstanding)) {d : Int} :
    d ∈ (s.freeCounter c).released ↔
      (d = c ∧ s.floor ≤ c ∨ d ∈ s.released) ∧ d < (s.freeCounter c).nextCounter :=
  h.ordered.mem_free_released h.head_inFlight

/-- A bound below everything that may be handed out stays one if it is below what comes back. -/
theorem le_free (h : s.Disciplined (c :: outstanding)) {n : Int} (hnext : n ≤ s.nextCounter)
    (hreleased : ∀ d ∈ s.released, n ≤ d) (hc : n ≤ c) :
    n ≤ (s.freeCounter c).nextCounter ∧ ∀ d ∈ (s.freeCounter c).released, n ≤ d := by
  constructor
  · by_contra hlow
    have hlow := Int.not_le.mp hlow
    rcases swallowed_by_free (Int.le_refl _) (Int.lt_of_lt_of_le hlow hnext) with ⟨he, _⟩ | hd
    · omega
    · have := hreleased _ hd
      omega
  · intro d hd
    rcases (h.mem_free_released.mp hd).1 with ⟨rfl, _⟩ | hd
    · exact hc
    · exact hreleased d hd

/-- A counter comes back: it is below the floor and spent, or it is free again. -/
theorem free_disciplined (h : s.Disciplined (c :: outstanding)) :
    (s.freeCounter c).Disciplined outstanding := by
  have hland := h.land_disciplined
  refine (h.ordered.free h.head_inFlight).disciplined ?_ ?_ ?_
  · rw [freeCounter_inFlight, pendingCounters, freeCounter_pending]
    exact hland.held_inFlight
  · rw [pendingCounters, freeCounter_pending]
    exact hland.held_nodup
  · rw [pendingIds, freeCounter_pending]
    exact hland.ids_nodup

end Disciplined

/-- The discipline does not depend on balance and values. -/
theorem Disciplined.of_same {s t : State} {outstanding : List Int}
    (h : s.Disciplined outstanding) (hnext : t.nextCounter = s.nextCounter)
    (hfloor : t.floor = s.floor) (hreleased : t.released = s.released)
    (hinFlight : t.inFlight = s.inFlight) (hcounters : t.pendingCounters = s.pendingCounters)
    (hids : t.pendingIds = s.pendingIds) : t.Disciplined outstanding := by
  refine (h.ordered.of_same hnext hfloor hreleased hinFlight).disciplined ?_ ?_ ?_
  · rw [hinFlight, hcounters]
    exact h.held_inFlight
  · rw [hcounters]
    exact h.held_nodup
  · rw [hids]
    exact h.ids_nodup

theorem unwound_disciplined {r : Reservation} {s : State} {outstanding : List Int}
    (h : s.Disciplined (r.counter.toList ++ outstanding)) :
    (s.unwound r).Disciplined outstanding := by
  have hrefund : (s.refund r).Disciplined (r.counter.toList ++ outstanding) := by
    rw [refund_eq]
    exact h.of_same rfl rfl rfl rfl rfl rfl
  unfold unwound
  cases hr : r.counter with
  | none => simpa [hr] using hrefund
  | some c =>
      rw [hr] at hrefund
      exact hrefund.free_disciplined

/-- Giving back what was reserved last restores the state exactly: its counter was on offer before
and is again, and no other was taken. -/
theorem unwound_reserved {s : State} {outstanding : List Int} (h : s.Disciplined outstanding)
    (value : Int) :
    (s.reserved value).unwound { counter := some s.counter, value := value } = s := by
  have hreserved := h.ordered.reserved value
  have hin : ∀ c, some s.counter = some c → c ∈ (s.reserved value).inFlight := by
    rintro c ⟨⟩
    exact CounterSet.mem_insert.mpr (Or.inl rfl)
  refine (hreserved.unwound hin).eq_of_offers h.ordered ?_ ?_ ?_ ?_ ?_
  · intro c
    rw [hreserved.offers_unwound hin, h.ordered.offers_reserved]
    constructor
    · rintro (⟨hc, _⟩ | ⟨⟨⟩, _⟩)
      · exact hc
      · exact s.offers_counter
    · intro hc
      by_cases he : c = s.counter
      · exact Or.inr ⟨congrArg some he.symm, he ▸ h.floor_le_counter⟩
      · exact Or.inl ⟨hc, he⟩
  · exact unwound_floor _ _
  · intro c
    rw [mem_unwound_inFlight]
    simp only [reserved, CounterSet.mem_insert, ne_eq, Option.some.injEq]
    constructor
    · rintro ⟨rfl | hc, hne⟩
      · exact absurd rfl hne
      · exact hc
    · intro hc
      refine ⟨Or.inr hc, ?_⟩
      rintro rfl
      exact h.counter_free hc
  · rw [unwound_balance]
    simp [reserved, Reservation.charge]
  · exact unwound_pending _ _

theorem release_reserved {s : State} {outstanding : List Int} (h : s.Disciplined outstanding)
    (value : Int) :
    (s.reserved value).release { counter := some s.counter, value := value } = (.ok (), s) := by
  have hreserved := h.reserve_disciplined value
  have hin : ∀ c, some s.counter = some c → c ∈ (s.reserved value).inFlight := by
    rintro c ⟨⟩
    exact hreserved.held_inFlight _ List.mem_cons_self
  rw [release_eq hin, unwound_reserved h]

/-! ## Pending fragments -/

/-- The state in which a fragment is pending too. -/
def tracked (id : Text) (r : Option Reservation) (s : State) : State :=
  { s with pending := s.pending ++ [(id, r.getD { counter := none })] }

theorem isPending_iff {s : State} {id : Text} : s.isPending id = true ↔ id ∈ s.pendingIds := by
  simp [isPending]

theorem track_eq {s : State} {id : Text} (h : id ∉ s.pendingIds) (r : Option Reservation) :
    s.track id r = .ok (s.tracked id r) := by
  unfold track
  rw [if_neg (fun hp => h (isPending_iff.mp hp))]
  rfl

theorem track_pending {s : State} {id : Text} (h : id ∈ s.pendingIds) (r : Option Reservation) :
    s.track id r = .error (.invariant ("fragment " ++ id ++ " is already pending")) := by
  unfold track
  exact if_pos (isPending_iff.mpr h)

/-- The counter of a tracked fragment moves from the outstanding ones to the pending ones. -/
theorem held_tracked (id : Text) (r : Option Reservation) (s : State) (outstanding : List Int) :
    (outstanding ++ (s.tracked id r).pendingCounters).Perm
      (((r.bind (·.counter)).toList ++ outstanding) ++ s.pendingCounters) := by
  have hcounters : (s.tracked id r).pendingCounters =
      s.pendingCounters ++ (r.bind (·.counter)).toList := by
    unfold pendingCounters tracked
    rw [List.filterMap_append]
    cases r with
    | none => rfl
    | some r => cases hr : r.counter <;> simp [hr]
  rw [hcounters, List.append_assoc]
  have hswap : (s.pendingCounters ++ (r.bind (·.counter)).toList).Perm
      ((r.bind (·.counter)).toList ++ s.pendingCounters) := List.perm_append_comm
  refine (hswap.append_left _).trans ?_
  rw [← List.append_assoc]
  exact List.perm_append_comm.append_right _ |>.trans (by rw [List.append_assoc])

theorem tracked_disciplined {s : State} {id : Text} {r : Option Reservation}
    {outstanding : List Int}
    (h : s.Disciplined ((r.bind (·.counter)).toList ++ outstanding)) (hid : id ∉ s.pendingIds) :
    (s.tracked id r).Disciplined outstanding := by
  have hperm := held_tracked id r s outstanding
  refine (h.ordered.of_same (t := s.tracked id r) rfl rfl rfl rfl).disciplined
    (fun c hc => h.held_inFlight c (hperm.subset hc)) (hperm.nodup_iff.mpr h.held_nodup) ?_
  unfold pendingIds tracked
  rw [List.map_append]
  refine List.nodup_append.mpr ⟨h.ids_nodup, by simp, ?_⟩
  intro a ha b hb hab
  obtain rfl : b = id := by simpa using hb
  exact hid (hab ▸ ha)

end State

end BallotWallet.Wallet
