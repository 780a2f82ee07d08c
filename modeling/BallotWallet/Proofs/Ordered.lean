import BallotWallet.Proofs.Counters
import Mathlib.Tactic.ByContra

/-!
# Counters in order

What holds of the counters of a wallet in whatever way it is used: the released ones lie from the
floor to the top, none of them is in flight, and the top has come down as far as it can. Taking a
counter keeps them in order, and so do giving back one that is in flight and an account state of
the node. Which counters are on offer then says all there is to say about the top and the released
ones.
-/

namespace BallotWallet.Wallet

/-- What a reservation takes from the reported balance: nothing if it is part of it already. -/
def Reservation.charge (r : Reservation) : Int :=
  if r.applied then 0 else r.value

namespace State

variable {s t : State} {c d : Int} {r : Reservation}

/-- The counters of a wallet are in order. -/
structure Ordered (s : State) : Prop where
  floor_le : s.floor ≤ s.nextCounter
  released_bounds : ∀ c ∈ s.released, s.floor ≤ c ∧ c < s.nextCounter
  top_free : s.nextCounter - 1 ∉ s.released
  inFlight_lt : ∀ c ∈ s.inFlight, c < s.nextCounter
  released_free : ∀ c ∈ s.released, c ∉ s.inFlight

theorem start_eq {counter balance : Int} (h : start counter balance = .ok s) :
    s = { nextCounter := counter, floor := counter, balance := balance } := by
  unfold start at h
  split at h
  · cases h
  · cases h
    rfl

theorem start_ordered {counter balance : Int} (h : start counter balance = .ok s) :
    s.Ordered := by
  rw [start_eq h]
  exact ⟨Int.le_refl _, by simp, by simp, by simp, by simp⟩

/-- The order does not depend on the balance and on what is pending. -/
theorem Ordered.of_same (h : s.Ordered) (hnext : t.nextCounter = s.nextCounter)
    (hfloor : t.floor = s.floor) (hreleased : t.released = s.released)
    (hinFlight : t.inFlight = s.inFlight) : t.Ordered := by
  constructor
  · rw [hfloor, hnext]
    exact h.floor_le
  · rw [hreleased, hfloor, hnext]
    exact h.released_bounds
  · rw [hreleased, hnext]
    exact h.top_free
  · rw [hinFlight, hnext]
    exact h.inFlight_lt
  · rw [hreleased, hinFlight]
    exact h.released_free

/-! ## Reserving -/

theorem takeCounter_fst (s : State) : s.takeCounter.1 = s.counter := by
  unfold takeCounter counter
  cases s.released.least? <;> rfl

theorem counter_mem_or_eq (s : State) :
    s.counter ∈ s.released ∨ s.counter = s.nextCounter ∧ ∀ c, c ∉ s.released := by
  unfold counter
  cases hl : s.released.least? with
  | none => exact Or.inr ⟨rfl, CounterSet.least?_eq_none.mp hl⟩
  | some c => exact Or.inl (CounterSet.least?_mem hl)

theorem counter_le_of_released (s : State) (h : c ∈ s.released) : s.counter ≤ c := by
  unfold counter
  cases hl : s.released.least? with
  | none => exact absurd h (CounterSet.least?_eq_none.mp hl c)
  | some d => exact CounterSet.least?_le hl h

/-- The state in which the next counter and a value are reserved. -/
def reserved (value : Int) (s : State) : State :=
  { s with
    nextCounter := max s.nextCounter (s.counter + 1)
    released := s.released.erase s.counter
    inFlight := s.inFlight.insert s.counter
    balance := s.balance - value }

namespace Ordered

theorem counter_le_next (h : s.Ordered) : s.counter ≤ s.nextCounter := by
  rcases s.counter_mem_or_eq with hc | ⟨hc, _⟩
  · exact Int.le_of_lt (h.released_bounds _ hc).2
  · exact Int.le_of_eq hc

theorem floor_le_counter (h : s.Ordered) : s.floor ≤ s.counter := by
  rcases s.counter_mem_or_eq with hc | ⟨hc, _⟩
  · exact (h.released_bounds _ hc).1
  · rw [hc]
    exact h.floor_le

/-- The next counter is not in flight: it is a released one, or it was never handed out. -/
theorem counter_free (h : s.Ordered) : s.counter ∉ s.inFlight := by
  intro hin
  rcases s.counter_mem_or_eq with hc | ⟨hc, _⟩
  · exact h.released_free _ hc hin
  · have := h.inFlight_lt _ hin
    omega

theorem takeCounter_eq (h : s.Ordered) :
    s.takeCounter.2 =
      { s with
        nextCounter := max s.nextCounter (s.counter + 1)
        released := s.released.erase s.counter } := by
  unfold takeCounter counter
  cases hl : s.released.least? with
  | none =>
      have hempty : s.released.erase s.nextCounter = s.released := by
        apply CounterSet.ext_mem
        intro c
        simp [CounterSet.least?_eq_none.mp hl c]
      have hmax : max s.nextCounter (s.nextCounter + 1) = s.nextCounter + 1 := by omega
      simp only [Option.getD_none, hempty, hmax]
  | some c =>
      have hlt := (h.released_bounds c (CounterSet.least?_mem hl)).2
      have hmax : max s.nextCounter (c + 1) = s.nextCounter := by omega
      simp only [Option.getD_some, hmax]

/-- Reserving never fails. -/
theorem reserve_eq (h : s.Ordered) (value : Int) :
    s.reserve value = (.ok { counter := some s.counter, value := value }, s.reserved value) := by
  have hfree := CounterSet.contains_eq_false h.counter_free
  have htake : s.takeCounter = (s.counter, s.takeCounter.2) :=
    Prod.ext s.takeCounter_fst rfl
  unfold reserve
  rw [htake, h.takeCounter_eq]
  simp only [hfree, Bool.false_eq_true, if_false]
  rfl

theorem reserved (h : s.Ordered) (value : Int) : (s.reserved value).Ordered := by
  have hfloor := h.floor_le_counter
  constructor
  · simp only [State.reserved]
    omega
  · intro c hc
    have hb := h.released_bounds c (CounterSet.mem_erase.mp hc).1
    simp only [State.reserved]
    omega
  · intro hc
    have hc := CounterSet.mem_erase.mp hc
    have hb := (h.released_bounds _ hc.1).2
    have htop := h.top_free
    simp only [State.reserved] at hc hb
    -- the top moves only if nothing was released
    by_cases hm : s.counter + 1 ≤ s.nextCounter
    · rw [Int.max_eq_left hm] at hc
      exact htop hc.1
    · omega
  · intro c hc
    simp only [State.reserved] at hc ⊢
    rcases CounterSet.mem_insert.mp hc with rfl | hc
    · omega
    · have := h.inFlight_lt c hc
      omega
  · intro c hc hin
    have hc := CounterSet.mem_erase.mp hc
    rcases CounterSet.mem_insert.mp hin with rfl | hin
    · exact hc.2 rfl
    · exact h.released_free c hc.1 hin

end Ordered

/-! ## Giving back -/

/-- What a counter that comes back leaves below the floor, the top and the released ones. -/
theorem freeCounter_frame (c : Int) (s : State) :
    (s.freeCounter c).floor = s.floor ∧ (s.freeCounter c).balance = s.balance ∧
      (s.freeCounter c).pending = s.pending ∧
      (s.freeCounter c).inFlight = s.inFlight.erase c := by
  unfold freeCounter
  dsimp only
  split <;> exact ⟨rfl, rfl, rfl, rfl⟩

@[simp] theorem freeCounter_floor (c : Int) (s : State) :
    (s.freeCounter c).floor = s.floor :=
  (freeCounter_frame c s).1

@[simp] theorem freeCounter_balance (c : Int) (s : State) :
    (s.freeCounter c).balance = s.balance :=
  (freeCounter_frame c s).2.1

@[simp] theorem freeCounter_pending (c : Int) (s : State) :
    (s.freeCounter c).pending = s.pending :=
  (freeCounter_frame c s).2.2.1

@[simp] theorem freeCounter_inFlight (c : Int) (s : State) :
    (s.freeCounter c).inFlight = s.inFlight.erase c :=
  (freeCounter_frame c s).2.2.2

/-- A counter below the floor is spent and does not come back. -/
theorem freeCounter_of_lt (h : c < s.floor) :
    s.freeCounter c = { s with inFlight := s.inFlight.erase c } := by
  unfold freeCounter
  exact if_pos h

theorem freeCounter_of_le (h : s.floor ≤ c) :
    s.freeCounter c =
      { s with
        inFlight := s.inFlight.erase c
        nextCounter := (lower (s.released.insert c).size s.nextCounter
          (s.released.insert c)).1
        released := (lower (s.released.insert c).size s.nextCounter
          (s.released.insert c)).2 } := by
  unfold freeCounter
  exact if_neg (by simpa using h)

theorem free_next_le (c : Int) (s : State) : (s.freeCounter c).nextCounter ≤ s.nextCounter := by
  by_cases hc : c < s.floor
  · exact Int.le_of_eq (by rw [freeCounter_of_lt hc])
  · rw [freeCounter_of_le (Int.not_lt.mp hc)]
    exact lower_le _ _ _

/-- What the top comes down over are counters that were free or have come back. -/
theorem swallowed_by_free (hd : (s.freeCounter c).nextCounter ≤ d) (hlt : d < s.nextCounter) :
    d = c ∧ s.floor ≤ c ∨ d ∈ s.released := by
  by_cases hc : c < s.floor
  · rw [freeCounter_of_lt hc] at hd
    exact absurd hlt (Int.not_lt.mpr hd)
  · have hle := Int.not_lt.mp hc
    rw [freeCounter_of_le hle] at hd
    rcases CounterSet.mem_insert.mp (mem_of_lower_le hd hlt) with rfl | hin
    · exact Or.inl ⟨rfl, hle⟩
    · exact Or.inr hin

namespace Ordered

theorem insert_lt (h : s.Ordered) (hc : c ∈ s.inFlight) :
    ∀ d ∈ s.released.insert c, d < s.nextCounter := by
  intro d hd
  rcases CounterSet.mem_insert.mp hd with rfl | hd
  · exact h.inFlight_lt d hc
  · exact (h.released_bounds d hd).2

/-- The released counters afterwards: those from before, and the one that came back unless it is
spent, as far as they are below the new top. -/
theorem mem_free_released (h : s.Ordered) (hc : c ∈ s.inFlight) :
    d ∈ (s.freeCounter c).released ↔
      (d = c ∧ s.floor ≤ c ∨ d ∈ s.released) ∧ d < (s.freeCounter c).nextCounter := by
  by_cases hlt : c < s.floor
  · rw [freeCounter_of_lt hlt]
    constructor
    · exact fun hd => ⟨Or.inr hd, (h.released_bounds d hd).2⟩
    · rintro ⟨⟨_, hle⟩ | hd, _⟩
      · omega
      · exact hd
  · have hle := Int.not_lt.mp hlt
    rw [freeCounter_of_le hle]
    simp only [mem_lower _ (h.insert_lt hc), CounterSet.mem_insert, hle, and_true]

theorem free_top (h : s.Ordered) (c : Int) :
    (s.freeCounter c).nextCounter - 1 ∉ (s.freeCounter c).released := by
  by_cases hc : c < s.floor
  · rw [freeCounter_of_lt hc]
    exact h.top_free
  · rw [freeCounter_of_le (Int.not_lt.mp hc)]
    exact lower_top _ _ _ (Nat.le_refl _)

/-- A counter is taken out of flight. -/
theorem land (h : s.Ordered) (c : Int) :
    ({ s with inFlight := s.inFlight.erase c } : State).Ordered := by
  constructor
  · exact h.floor_le
  · exact h.released_bounds
  · exact h.top_free
  · exact fun d hd => h.inFlight_lt d (CounterSet.mem_erase.mp hd).1
  · exact fun d hd hin => h.released_free d hd (CounterSet.mem_erase.mp hin).1

/-- A counter comes back: it is below the floor and spent, or it is free again and the top comes
down as far as counters are free. -/
theorem free (h : s.Ordered) (hc : c ∈ s.inFlight) : (s.freeCounter c).Ordered := by
  have hfloor := h.floor_le
  constructor
  · rw [freeCounter_floor]
    by_contra hlow
    have hlow := Int.not_le.mp hlow
    -- the top would have come down over a counter below the floor, and none of these is released
    have hbelow : s.floor - 1 < s.nextCounter := by omega
    rcases swallowed_by_free (Int.le_sub_one_of_lt hlow) hbelow with ⟨he, hle⟩ | hd
    · omega
    · have := (h.released_bounds _ hd).1
      omega
  · intro d hd
    have hd := (h.mem_free_released hc).mp hd
    refine ⟨?_, hd.2⟩
    rw [freeCounter_floor]
    rcases hd.1 with ⟨rfl, hle⟩ | hr
    · exact hle
    · exact (h.released_bounds d hr).1
  · exact h.free_top c
  · intro d hd
    rw [freeCounter_inFlight] at hd
    have hin := CounterSet.mem_erase.mp hd
    by_contra hge
    rcases swallowed_by_free (Int.not_lt.mp hge) (h.inFlight_lt d hin.1) with ⟨he, _⟩ | hr
    · exact hin.2 he
    · exact h.released_free d hr hin.1
  · intro d hd hin
    rw [freeCounter_inFlight] at hin
    have hin := CounterSet.mem_erase.mp hin
    rcases ((h.mem_free_released hc).mp hd).1 with ⟨he, _⟩ | hr
    · exact hin.2 he
    · exact h.released_free d hr hin.1

end Ordered

theorem refund_eq (r : Reservation) (s : State) :
    s.refund r = { s with balance := s.balance + if r.applied then 0 else r.value } := by
  unfold refund
  split <;> simp

/-- The state in which a reservation is undone. -/
def unwound (r : Reservation) (s : State) : State :=
  match r.counter with
  | none => s.refund r
  | some c => (s.refund r).freeCounter c

/-- A reservation whose counter is in flight can be given back. -/
theorem release_eq (h : ∀ c, r.counter = some c → c ∈ s.inFlight) :
    s.release r = (.ok (), s.unwound r) := by
  unfold release unwound
  cases hr : r.counter with
  | none => rfl
  | some c =>
      have hin : (s.refund r).inFlight.contains c = true := by
        rw [refund_eq]
        exact CounterSet.contains_iff.mpr (h c hr)
      simp only [hin, if_true]

theorem unwound_floor (r : Reservation) (s : State) : (s.unwound r).floor = s.floor := by
  unfold unwound
  split <;> simp [refund_eq]

theorem unwound_balance (r : Reservation) (s : State) :
    (s.unwound r).balance = s.balance + r.charge := by
  unfold unwound
  split <;> simp [refund_eq, Reservation.charge]

theorem unwound_pending (r : Reservation) (s : State) : (s.unwound r).pending = s.pending := by
  unfold unwound
  split <;> simp [refund_eq]

theorem mem_unwound_inFlight :
    c ∈ (s.unwound r).inFlight ↔ c ∈ s.inFlight ∧ r.counter ≠ some c := by
  unfold unwound
  cases hr : r.counter with
  | none => simp [refund_eq]
  | some d =>
      simp only [freeCounter_inFlight, CounterSet.mem_erase, refund_eq, ne_eq, Option.some.injEq]
      exact and_congr_right fun _ => not_congr eq_comm

theorem Ordered.refund (h : s.Ordered) (r : Reservation) : (s.refund r).Ordered := by
  rw [refund_eq]
  exact h.of_same rfl rfl rfl rfl

theorem Ordered.unwound (h : s.Ordered) (hin : ∀ c, r.counter = some c → c ∈ s.inFlight) :
    (s.unwound r).Ordered := by
  have hrefund := h.refund r
  unfold State.unwound
  cases hr : r.counter with
  | none => exact hrefund
  | some c => exact hrefund.free (by simpa [refund_eq] using hin c hr)

/-! ## The truth of the node -/

/-- An account state is taken over whatever it says. -/
theorem Ordered.refresh (h : s.Ordered) (snapshot : AccountSnapshot) :
    (s.refresh snapshot).Ordered := by
  have hs : (s.refreshBalance snapshot).Ordered := h.of_same rfl rfl rfl rfl
  unfold State.refresh
  generalize s.refreshBalance snapshot = t at hs
  unfold refreshCounters
  split
  · -- all counters start anew
    exact ⟨Int.le_refl _, by simp, by simp, by simp, by simp⟩
  · split
    · rename_i hover
      -- the node has moved past all counters, those in flight included
      refine ⟨Int.le_refl _, by simp, by simp, ?_, by simp⟩
      intro c hc
      exact Int.lt_trans (hs.inFlight_lt c hc) hover
    · split
      · rename_i hover _
        refine ⟨Int.not_lt.mp hover, ?_, ?_, hs.inFlight_lt, ?_⟩
        · intro c hc
          have hc := CounterSet.mem_filter.mp hc
          exact ⟨of_decide_eq_true hc.2, (hs.released_bounds c hc.1).2⟩
        · exact fun hc => hs.top_free (CounterSet.mem_filter.mp hc).1
        · exact fun c hc => hs.released_free c (CounterSet.mem_filter.mp hc).1
      · exact hs

/-! ## Counters on offer -/

/-- A counter that a reservation may take, now or after others: a released one, or one that was
never handed out. -/
def Offers (s : State) (c : Int) : Prop :=
  c ∈ s.released ∨ s.nextCounter ≤ c

theorem offers_counter (s : State) : s.Offers s.counter := by
  rcases s.counter_mem_or_eq with hc | ⟨hc, _⟩
  · exact Or.inl hc
  · exact Or.inr (Int.le_of_eq hc.symm)

namespace Ordered

/-- The next counter is the lowest one on offer. -/
theorem counter_le (h : s.Ordered) (hd : s.Offers d) : s.counter ≤ d := by
  rcases hd with hd | hd
  · exact s.counter_le_of_released hd
  · exact Int.le_trans h.counter_le_next hd

theorem offers_reserved (h : s.Ordered) (value : Int) :
    (s.reserved value).Offers d ↔ s.Offers d ∧ d ≠ s.counter := by
  have hle := h.counter_le_next
  unfold Offers
  simp only [State.reserved, CounterSet.mem_erase]
  constructor
  · rintro (⟨hd, hne⟩ | hd)
    · exact ⟨Or.inl hd, hne⟩
    · exact ⟨Or.inr (by omega), by omega⟩
  · rintro ⟨hd | hd, hne⟩
    · exact Or.inl ⟨hd, hne⟩
    · exact Or.inr (by omega)

/-- A counter that comes back is on offer again, unless it is spent. -/
theorem offers_free (h : s.Ordered) (hc : c ∈ s.inFlight) :
    (s.freeCounter c).Offers d ↔ s.Offers d ∨ d = c ∧ s.floor ≤ c := by
  unfold Offers
  rw [h.mem_free_released hc]
  constructor
  · rintro (⟨hd | hd, _⟩ | hd)
    · exact Or.inr hd
    · exact Or.inl (Or.inl hd)
    · by_cases hlt : d < s.nextCounter
      · exact (swallowed_by_free hd hlt).symm.imp_left Or.inl
      · exact Or.inl (Or.inr (Int.not_lt.mp hlt))
  · intro hd
    by_cases hlt : d < (s.freeCounter c).nextCounter
    · refine Or.inl ⟨?_, hlt⟩
      rcases hd with (hd | hd) | hd
      · exact Or.inr hd
      · exact absurd (Int.lt_of_lt_of_le hlt (free_next_le c s)) (Int.not_lt.mpr hd)
      · exact Or.inl hd
    · exact Or.inr (Int.not_lt.mp hlt)

theorem offers_unwound (h : s.Ordered) (hin : ∀ c, r.counter = some c → c ∈ s.inFlight) :
    (s.unwound r).Offers d ↔ s.Offers d ∨ r.counter = some d ∧ s.floor ≤ d := by
  have hrefund : (s.refund r).Offers d ↔ s.Offers d := by
    rw [refund_eq]
    exact Iff.rfl
  unfold State.unwound
  cases hr : r.counter with
  | none => simpa using hrefund
  | some c =>
      dsimp only
      rw [(h.refund r).offers_free (by simpa [refund_eq] using hin c hr), hrefund]
      refine or_congr_right ?_
      rw [Option.some.injEq, refund_eq]
      constructor
      · rintro ⟨rfl, hle⟩
        exact ⟨rfl, hle⟩
      · rintro ⟨rfl, hle⟩
        exact ⟨rfl, hle⟩

/-- The counter below the top is not on offer, so what is on offer bounds the top. -/
theorem next_le_of_offers (h : t.Ordered) (hoffers : ∀ c, s.Offers c → t.Offers c) :
    t.nextCounter ≤ s.nextCounter := by
  by_contra hlt
  have hlt := Int.not_le.mp hlt
  rcases hoffers (t.nextCounter - 1) (Or.inr (by omega)) with hc | hc
  · exact h.top_free hc
  · omega

theorem released_of_offers (h : s.Ordered) (hnext : s.nextCounter = t.nextCounter)
    (hoffers : ∀ c, s.Offers c → t.Offers c) (hc : c ∈ s.released) : c ∈ t.released := by
  have hlt := (h.released_bounds c hc).2
  rcases hoffers c (Or.inl hc) with hc | hc
  · exact hc
  · omega

/-- What is on offer determines the top and the released counters. -/
theorem eq_of_offers (hs : s.Ordered) (ht : t.Ordered) (hoffers : ∀ c, s.Offers c ↔ t.Offers c)
    (hfloor : s.floor = t.floor) (hinFlight : ∀ c, c ∈ s.inFlight ↔ c ∈ t.inFlight)
    (hbalance : s.balance = t.balance) (hpending : s.pending = t.pending) : s = t := by
  have hnext : s.nextCounter = t.nextCounter :=
    Int.le_antisymm (hs.next_le_of_offers fun c => (hoffers c).mpr)
      (ht.next_le_of_offers fun c => (hoffers c).mp)
  have hreleased : s.released = t.released := CounterSet.ext_mem fun c =>
    ⟨hs.released_of_offers hnext fun c => (hoffers c).mp,
      ht.released_of_offers hnext.symm fun c => (hoffers c).mpr⟩
  have hinFlight : s.inFlight = t.inFlight := CounterSet.ext_mem hinFlight
  cases s
  cases t
  simp_all

end Ordered

end State

end BallotWallet.Wallet
