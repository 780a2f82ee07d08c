import BallotWallet.Proofs.Discipline
import Mathlib.Data.List.Nodup

/-!
# Settling and the discipline

A pending fragment that settles leaves the pending ones and what it held becomes outstanding; from
there its counter lands in a block, or it comes back. An account state of the node moves the floor
and the top, and never onto a counter in flight.
-/

namespace BallotWallet.Wallet.State

variable {s : State} {outstanding : List Int} {id : Text} {r : Reservation}

/-! ## Looking up -/

theorem reservationOf?_eq_none : s.reservationOf? id = none ↔ id ∉ s.pendingIds := by
  unfold reservationOf? pendingIds
  rw [List.lookup_eq_none_iff]
  constructor
  · intro h hid
    obtain ⟨p, hp, rfl⟩ := List.mem_map.mp hid
    exact absurd rfl (bne_iff_ne.mp (h p hp))
  · intro h p hp
    have hmem : p.1 ∈ s.pending.map (·.1) := List.mem_map_of_mem hp
    refine bne_iff_ne.mpr ?_
    rintro rfl
    exact h hmem

theorem mem_pending_of_lookup (h : s.reservationOf? id = some r) : (id, r) ∈ s.pending := by
  obtain ⟨before, after, hps, _⟩ := List.lookup_eq_some_iff.mp h
  rw [hps]
  exact List.mem_append_right _ List.mem_cons_self

theorem reservationOf?_eq_some (hids : s.pendingIds.Nodup) (h : (id, r) ∈ s.pending) :
    s.reservationOf? id = some r := by
  rcases Option.eq_none_or_eq_some (s.reservationOf? id) with hnone | ⟨found, hfound⟩
  · exact absurd (List.mem_map_of_mem h) (reservationOf?_eq_none.mp hnone)
  · obtain ⟨⟩ : (id, found) = (id, r) :=
      List.inj_on_of_nodup_map hids (mem_pending_of_lookup hfound) h rfl
    exact hfound

/-- With different identifiers, the entry found is the only one that is forgotten. -/
theorem perm_of_lookup {ps : List (Text × Reservation)} (hids : (ps.map (·.1)).Nodup)
    (h : ps.lookup id = some r) : ps.Perm ((id, r) :: ps.filter (·.1 != id)) := by
  induction ps with
  | nil => simp at h
  | cons p ps ih =>
      obtain ⟨i, q⟩ := p
      rw [List.map_cons, List.nodup_cons] at hids
      by_cases hi : id = i
      · subst hi
        obtain rfl : q = r := by simpa using h
        -- the identifier is not there a second time
        have hrest : ps.filter (·.1 != id) = ps := by
          refine List.filter_eq_self.mpr ?_
          intro p hp
          have : p.1 ∈ ps.map (·.1) := List.mem_map_of_mem hp
          simp only [bne_iff_ne, ne_eq]
          rintro rfl
          exact hids.1 this
        simp [hrest]
      · have hrest : ps.lookup id = some r := by
          rw [List.lookup_cons, beq_eq_false_iff_ne.mpr hi] at h
          exact h
        have hne : (i != id) = true := by simpa using Ne.symm hi
        rw [List.filter_cons, if_pos hne]
        exact ((ih hids.2 hrest).cons _).trans (List.Perm.swap _ _ _)

theorem mem_forget {p : Text × Reservation} :
    p ∈ (s.forget id).pending ↔ p ∈ s.pending ∧ p.1 ≠ id := by
  simp [forget]

theorem mem_forget_ids {i : Text} :
    i ∈ (s.forget id).pendingIds ↔ i ∈ s.pendingIds ∧ i ≠ id := by
  unfold pendingIds
  simp only [List.mem_map, mem_forget]
  constructor
  · rintro ⟨p, ⟨hp, hne⟩, rfl⟩
    exact ⟨⟨p, hp, rfl⟩, hne⟩
  · rintro ⟨⟨p, hp, rfl⟩, hne⟩
    exact ⟨p, ⟨hp, hne⟩, rfl⟩

theorem forget_absent (h : id ∉ s.pendingIds) : s.forget id = s := by
  have hall : s.pending.filter (·.1 != id) = s.pending := by
    refine List.filter_eq_self.mpr ?_
    intro p hp
    have hmem : p.1 ∈ s.pendingIds := List.mem_map_of_mem hp
    simp only [bne_iff_ne, ne_eq]
    rintro rfl
    exact h hmem
  unfold forget
  rw [hall]

/-- Different pending fragments hold different counters. -/
theorem Disciplined.counter_ne (h : s.Disciplined outstanding) {id' : Text} {r' : Reservation}
    (hr : s.reservationOf? id = some r) (hr' : s.reservationOf? id' = some r') (hne : id ≠ id')
    {n : Int} (hn : r.counter = some n) : r'.counter ≠ some n := by
  intro hn'
  have hperm := (perm_of_lookup h.ids_nodup hr).filterMap (·.2.counter)
  have hheld : s.pendingCounters.Nodup := (List.nodup_append.mp h.held_nodup).2.1
  have hnodup := hperm.nodup_iff.mp hheld
  simp only [List.filterMap_cons, hn] at hnodup
  have hother : (id', r') ∈ s.pending.filter (·.1 != id) :=
    mem_forget.mpr ⟨mem_pending_of_lookup hr', hne.symm⟩
  exact (List.nodup_cons.mp hnodup).1 (List.mem_filterMap.mpr ⟨_, hother, hn'⟩)

/-- The counter of a forgotten fragment moves from the pending ones to the outstanding ones. -/
theorem held_forget (hids : s.pendingIds.Nodup) (hr : s.reservationOf? id = some r)
    (outstanding : List Int) :
    ((r.counter.toList ++ outstanding) ++ (s.forget id).pendingCounters).Perm
      (outstanding ++ s.pendingCounters) := by
  have hperm := perm_of_lookup hids hr
  have hcounters : s.pendingCounters.Perm
      (r.counter.toList ++ (s.forget id).pendingCounters) := by
    refine (hperm.filterMap _).trans ?_
    rw [List.filterMap_cons]
    cases hc : r.counter <;> simp [pendingCounters, forget]
  refine (List.perm_append_comm.append_right _).trans ?_
  rw [List.append_assoc]
  exact (hcounters.symm).append_left _

/-- What a forgotten fragment held is outstanding. -/
theorem forget_disciplined (h : s.Disciplined outstanding)
    (hr : s.reservationOf? id = some r) :
    (s.forget id).Disciplined (r.counter.toList ++ outstanding) := by
  have hheld := held_forget h.ids_nodup hr outstanding
  constructor
  · exact h.floor_le
  · exact h.released_bounds
  · exact h.top_free
  · exact h.inFlight_lt
  · exact h.released_free
  · exact fun c hc => h.held_inFlight c (hheld.subset hc)
  · exact hheld.nodup_iff.mpr h.held_nodup
  · exact h.ids_nodup.sublist (List.Sublist.map _ List.filter_sublist)

/-! ## Settled in a block -/

/-- The state without the fragment, its counter out of flight. -/
theorem confirm_eq (hr : s.reservationOf? id = some r) :
    s.confirm id =
      { s.forget id with
        inFlight := r.counter.elim s.inFlight fun c => s.inFlight.erase c } := by
  unfold confirm
  rw [hr]
  dsimp only
  cases r.counter <;> rfl

theorem confirm_absent (h : id ∉ s.pendingIds) : s.confirm id = s := by
  unfold confirm
  rw [reservationOf?_eq_none.mpr h]

theorem confirm_disciplined (h : s.Disciplined outstanding) :
    (s.confirm id).Disciplined outstanding := by
  cases hr : s.reservationOf? id with
  | none =>
      rw [confirm_absent (reservationOf?_eq_none.mp hr)]
      exact h
  | some r =>
      have hforget := forget_disciplined h hr
      rw [confirm_eq hr]
      cases hc : r.counter with
      | none =>
          rw [hc] at hforget
          exact hforget
      | some c =>
          rw [hc] at hforget
          exact hforget.land_disciplined

theorem confirm_pending : (s.confirm id).pending = (s.forget id).pending := by
  cases hr : s.reservationOf? id with
  | none =>
      have habsent := reservationOf?_eq_none.mp hr
      rw [confirm_absent habsent, forget_absent habsent]
  | some r => rw [confirm_eq hr]

/-- Confirming touches the pending fragments and the counters in flight, nothing else. -/
theorem confirm_frame :
    (s.confirm id).nextCounter = s.nextCounter ∧ (s.confirm id).floor = s.floor ∧
      (s.confirm id).released = s.released ∧ (s.confirm id).balance = s.balance := by
  unfold confirm
  split
  · exact ⟨rfl, rfl, rfl, rfl⟩
  · dsimp only
    split <;> exact ⟨rfl, rfl, rfl, rfl⟩

/-! ## Rejected -/

theorem rollback_absent (h : id ∉ s.pendingIds) : s.rollback id = (.ok none, s) := by
  unfold rollback
  rw [reservationOf?_eq_none.mpr h]

/-- What a pending fragment reserved can always be given back. -/
theorem rollback_eq (h : s.Disciplined outstanding) (hr : s.reservationOf? id = some r) :
    s.rollback id = (.ok (some r), (s.forget id).unwound r) := by
  unfold rollback
  rw [hr]
  dsimp only
  rw [(forget_disciplined h hr).release_eq]
  rfl

theorem rollback_ok (h : s.Disciplined outstanding) :
    ∃ given, (s.rollback id).1 = .ok given := by
  cases hr : s.reservationOf? id with
  | none => exact ⟨none, by rw [rollback_absent (reservationOf?_eq_none.mp hr)]⟩
  | some r => exact ⟨some r, by rw [rollback_eq h hr]⟩

theorem rollback_disciplined (h : s.Disciplined outstanding) :
    (s.rollback id).2.Disciplined outstanding := by
  cases hr : s.reservationOf? id with
  | none =>
      rw [rollback_absent (reservationOf?_eq_none.mp hr)]
      exact h
  | some r =>
      rw [rollback_eq h hr]
      exact unwound_disciplined (forget_disciplined h hr)

theorem rollback_pending (h : s.Disciplined outstanding) :
    (s.rollback id).2.pending = (s.forget id).pending := by
  cases hr : s.reservationOf? id with
  | none =>
      have habsent := reservationOf?_eq_none.mp hr
      rw [rollback_absent habsent, forget_absent habsent]
  | some r => rw [rollback_eq h hr, unwound_pending]

/-! ## The truth of the node -/

variable {snapshot : AccountSnapshot}

theorem markApplied_counter (n : Int) (r : Reservation) :
    (markApplied n r).counter = r.counter := by
  unfold markApplied
  split
  · split <;> rfl
  · rfl

theorem markApplied_value (n : Int) (r : Reservation) : (markApplied n r).value = r.value := by
  unfold markApplied
  split
  · split <;> rfl
  · rfl

theorem refreshBalance_disciplined (h : s.Disciplined outstanding) :
    (s.refreshBalance snapshot).Disciplined outstanding := by
  refine h.of_same rfl rfl rfl rfl ?_ ?_
  · unfold pendingCounters refreshBalance
    rw [List.filterMap_map]
    exact List.filterMap_congr fun p _ => markApplied_counter _ p.2
  · unfold pendingIds refreshBalance
    rw [List.map_map]
    rfl

theorem refresh_pending (snapshot : AccountSnapshot) (s : State) :
    (s.refresh snapshot).pending =
      s.pending.map fun p => (p.1, markApplied snapshot.counter p.2) := by
  unfold refresh refreshCounters
  split
  · rfl
  · split
    · rfl
    · split <;> rfl

theorem refresh_counters (snapshot : AccountSnapshot) (s : State) :
    (s.refresh snapshot).pendingCounters = s.pendingCounters := by
  unfold pendingCounters
  rw [refresh_pending, List.filterMap_map]
  exact List.filterMap_congr fun p _ => markApplied_counter _ p.2

/-- The top is never below the counter of the node, and no counter is released. -/
theorem refresh_frame (snapshot : AccountSnapshot) (s : State) :
    (s.refresh snapshot).balance =
        snapshot.value -
          unapplied (s.pending.map fun p => (p.1, markApplied snapshot.counter p.2)) ∧
      snapshot.counter ≤ (s.refresh snapshot).nextCounter ∧
      ((s.refresh snapshot).floor = snapshot.counter ∨ (s.refresh snapshot).floor = s.floor) ∧
      ∀ c ∈ (s.refresh snapshot).released, c ∈ s.released := by
  unfold refresh refreshCounters
  split
  · exact ⟨rfl, Int.le_refl _, Or.inl rfl, by simp⟩
  · split
    · exact ⟨rfl, Int.le_refl _, Or.inl rfl, by simp⟩
    · rename_i hover
      split
      · exact ⟨rfl, Int.not_lt.mp hover, Or.inl rfl, fun c hc => (CounterSet.mem_filter.mp hc).1⟩
      · exact ⟨rfl, Int.not_lt.mp hover, Or.inr rfl, fun c hc => hc⟩

/-- With nothing pending, the node decides that no counter is in flight. -/
theorem refresh_inFlight_idle (hpending : s.pending = []) :
    (s.refresh snapshot).inFlight = .empty := by
  have hnone : (s.refreshBalance snapshot).pending.isEmpty = true := by
    simp [refreshBalance, hpending]
  unfold refresh refreshCounters
  rw [if_pos hnone]

theorem refresh_inFlight (hpending : s.pending ≠ []) :
    (s.refresh snapshot).inFlight = s.inFlight := by
  have hsome : (s.refreshBalance snapshot).pending.isEmpty = false := by
    simpa [refreshBalance] using hpending
  unfold refresh refreshCounters
  rw [hsome, if_neg Bool.false_ne_true]
  split
  · rfl
  · split <;> rfl

/-- An account state is taken over whatever it says. Nothing has to be outstanding before, and
nothing counts as outstanding after it. -/
theorem refresh_disciplined (h : s.Disciplined outstanding) (snapshot : AccountSnapshot) :
    (s.refresh snapshot).Disciplined [] := by
  have hs := h.none_outstanding
  have hcounters := refresh_counters snapshot s
  have hids : (s.refresh snapshot).pendingIds = s.pendingIds := by
    unfold pendingIds
    rw [refresh_pending, List.map_map]
    rfl
  refine (h.ordered.refresh snapshot).disciplined ?_ (hcounters ▸ hs.held_nodup)
    (hids ▸ h.ids_nodup)
  intro c hc
  rw [hcounters] at hc
  -- a counter is held by something pending, so the refresh leaves what is in flight alone
  have hpending : s.pending ≠ [] := by
    rintro hnone
    rw [pendingCounters, hnone] at hc
    cases hc
  rw [refresh_inFlight hpending]
  exact hs.held_inFlight c hc

end BallotWallet.Wallet.State
