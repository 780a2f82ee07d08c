import BallotWallet.Proofs.HonestNode
import BallotWallet.Proofs.Submitting
import Mathlib.Data.List.Pairwise

/-!
# Agreement with an honest node

A wallet agrees with an honest node if its counters and its balance reflect what the node did and
what it may still do. Agreement is kept by everything that either of them does: the wallet submits,
settles and fetches the state of the account, the node executes and rejects, in any order.
-/

namespace BallotWallet.Wallet

/-- A wallet agrees with a node whose account had a value at the start, when some fragments were
rolled back since and some value was lost to submissions that failed. -/
structure Agrees (start : Int) (node : Node) (rolledBack : List Text) (lost : Int) (s : State) :
    Prop where
  disciplined : s.Disciplined []
  ids_nodup : node.ids.Nodup
  floor_le : s.floor ≤ node.counter
  counter_le : node.counter ≤ s.nextCounter
  released_le : ∀ c ∈ s.released, node.counter ≤ c
  value_eq : node.value = start - node.cost (·.executed = true)
  balance_eq : s.balance = start - node.cost (·.id ∉ rolledBack) - lost
  executed_lt : ∀ e ∈ node.entries, e.executed = true → e.counter < node.counter
  unexecuted : ∀ e ∈ node.entries, ¬ e.executed = true → e.id ∉ rolledBack →
    node.counter ≤ e.counter ∧ (e.id, e.reservation) ∈ s.pending
  pending : ∀ p ∈ s.pending, ∃ e ∈ node.entries, e.id = p.1 ∧ p.1 ∉ rolledBack ∧
    p.2.counter = some e.counter ∧ p.2.value = e.cost ∧
      (p.2.applied = true → e.executed = true)
  rolled_known : ∀ id ∈ rolledBack, id ∈ node.ids
  rolled_rejected : ∀ e ∈ node.entries, e.id ∈ rolledBack → ∃ reason, e.status = .rejected reason
  distinct : node.entries.Pairwise fun e e' => e.counter = e'.counter → e.id ∈ rolledBack

namespace Agrees

variable {start lost : Int} {node : Node} {rolledBack : List Text} {s : State} {e : Entry}
  {id : Text}

/-! ## What agreement says -/

/-- What was executed is never rolled back. -/
theorem not_rolled_of_executed (h : Agrees start node rolledBack lost s)
    (he : e ∈ node.entries) (hexecuted : e.executed = true) : e.id ∉ rolledBack := by
  intro hrolled
  obtain ⟨reason, hstatus⟩ := h.rolled_rejected e he hrolled
  exact Entry.not_executed_of_rejected hstatus hexecuted

theorem mem_ids_of_pending (h : Agrees start node rolledBack lost s) (hid : id ∈ s.pendingIds) :
    id ∈ node.ids := by
  obtain ⟨p, hp, rfl⟩ := List.mem_map.mp hid
  obtain ⟨e, he, heq, _⟩ := h.pending p hp
  rw [← heq]
  exact List.mem_map_of_mem he

/-- Of the fragments that were not executed, the pending ones are those not rolled back. -/
theorem pending_iff (h : Agrees start node rolledBack lost s) (he : e ∈ node.entries)
    (hexecuted : ¬ e.executed = true) : e.id ∈ s.pendingIds ↔ e.id ∉ rolledBack := by
  constructor
  · intro hid
    obtain ⟨p, hp, heq⟩ := List.mem_map.mp hid
    obtain ⟨_, _, _, hnot, _⟩ := h.pending p hp
    rw [heq] at hnot
    exact hnot
  · intro hnot
    exact List.mem_map.mpr ⟨_, (h.unexecuted e he hexecuted hnot).2, rfl⟩

/-- What is not rolled back was executed or is pending. -/
theorem cost_split (h : Agrees start node rolledBack lost s) :
    node.cost (·.id ∉ rolledBack) =
      node.cost (·.executed = true) +
        node.cost fun e => ¬ e.executed = true ∧ e.id ∈ s.pendingIds := by
  unfold Node.cost
  rw [← List.sum_map_add]
  congr 1
  refine List.map_congr_left fun e he => ?_
  by_cases hexecuted : e.executed = true
  · have hnot := h.not_rolled_of_executed he hexecuted
    simp [hexecuted, hnot]
  · have hiff := h.pending_iff he hexecuted
    by_cases hrolled : e.id ∈ rolledBack
    · simp [hexecuted, hrolled, hiff]
    · simp [hexecuted, hrolled, hiff]

/-- The balance is the value at the node less what is pending and not executed. -/
theorem balance_eq_value (h : Agrees start node rolledBack lost s) :
    s.balance =
      node.value - (node.cost fun e => ¬ e.executed = true ∧ e.id ∈ s.pendingIds) - lost := by
  rw [h.balance_eq, h.value_eq, h.cost_split]
  omega

theorem mem_inFlight (h : Agrees start node rolledBack lost s) (he : e ∈ node.entries)
    (hexecuted : ¬ e.executed = true) (hrolled : e.id ∉ rolledBack) :
    e.counter ∈ s.inFlight := by
  refine h.disciplined.held_inFlight _ (List.mem_append_right _ ?_)
  exact List.mem_filterMap.mpr ⟨_, (h.unexecuted e he hexecuted hrolled).2, rfl⟩

/-- The next counter is one that the node has not got to. -/
theorem counter_le_next (h : Agrees start node rolledBack lost s) : node.counter ≤ s.counter := by
  rcases s.counter_mem_or_eq with hc | ⟨hc, _⟩
  · exact h.released_le _ hc
  · rw [hc]
    exact h.counter_le

/-- A fragment with the next counter was rolled back. -/
theorem rolled_of_counter (h : Agrees start node rolledBack lost s) (he : e ∈ node.entries)
    (hcounter : e.counter = s.counter) : e.id ∈ rolledBack := by
  by_contra hrolled
  by_cases hexecuted : e.executed = true
  · have hlt := h.executed_lt e he hexecuted
    have hle := h.counter_le_next
    omega
  · have hin := h.mem_inFlight he hexecuted hrolled
    rw [hcounter] at hin
    exact h.disciplined.counter_free hin

/-! ## The wallet submits -/

/-- A value that is reserved and never submitted is lost. -/
theorem reserved (h : Agrees start node rolledBack lost s) (value : Int) :
    Agrees start node rolledBack (lost + value) (s.reserved value) where
  disciplined := (h.disciplined.reserve_disciplined value).none_outstanding
  ids_nodup := h.ids_nodup
  floor_le := h.floor_le
  counter_le := Int.le_trans h.counter_le (Int.le_max_left _ _)
  released_le := fun c hc => h.released_le c (CounterSet.mem_erase.mp hc).1
  value_eq := h.value_eq
  balance_eq := by
    have hbalance := h.balance_eq
    simp only [State.reserved]
    omega
  executed_lt := h.executed_lt
  unexecuted := h.unexecuted
  pending := h.pending
  rolled_known := h.rolled_known
  rolled_rejected := h.rolled_rejected
  distinct := h.distinct

theorem reservedAll (h : Agrees start node rolledBack lost s) (values : List Int) :
    Agrees start node rolledBack (lost + values.sum) (s.reservedAll values) := by
  induction values generalizing lost s with
  | nil => simpa [State.reservedAll] using h
  | cons value values ih =>
      have hrest := ih (h.reserved value)
      rw [List.sum_cons, ← Int.add_assoc]
      exact hrest

/-- The node takes a fragment that was signed with the next counter, and the wallet tracks it. -/
theorem submitted (h : Agrees start node rolledBack lost s) (hid : id ∉ node.ids) (value : Int) :
    Agrees start (node.take { id := id, counter := s.counter, cost := value }) rolledBack lost
      ((s.reserved value).tracked id (some { counter := some s.counter, value := value })) := by
  -- only what the node has taken was ever rolled back
  have hrolled : id ∉ rolledBack := fun hmem => hid (h.rolled_known id hmem)
  have hnew : id ∉ (s.reserved value).pendingIds := fun hmem => hid (h.mem_ids_of_pending hmem)
  have hreserved := h.reserved value
  have hmem : ∀ {P : Entry → Prop}, (∀ e ∈ node.entries, P e) →
      P { id := id, counter := s.counter, cost := value } →
      ∀ e ∈ (node.take { id := id, counter := s.counter, cost := value }).entries, P e := by
    intro P hold hlast e he
    rcases List.mem_append.mp he with he | he
    · exact hold e he
    · obtain rfl := List.mem_singleton.mp he
      exact hlast
  constructor
  · exact State.tracked_disciplined (h.disciplined.reserve_disciplined value) hnew
  · rw [Node.take_ids]
    refine List.nodup_append.mpr ⟨h.ids_nodup, List.nodup_singleton _, ?_⟩
    rintro i hi _ hlast rfl
    obtain rfl := List.mem_singleton.mp hlast
    exact hid hi
  · exact hreserved.floor_le
  · exact hreserved.counter_le
  · exact hreserved.released_le
  · rw [Node.cost_take, if_neg (Entry.not_executed_of_pending rfl), Int.add_zero]
    exact h.value_eq
  · rw [Node.cost_take, if_pos hrolled]
    have hbalance := h.balance_eq
    simp only [State.tracked, State.reserved]
    omega
  · refine hmem h.executed_lt fun hexecuted => ?_
    exact absurd hexecuted (Entry.not_executed_of_pending rfl)
  · refine hmem (fun e he hexecuted hnot => ?_) fun _ _ => ?_
    · have hold := h.unexecuted e he hexecuted hnot
      exact ⟨hold.1, List.mem_append_left _ hold.2⟩
    · exact ⟨h.counter_le_next, List.mem_append_right _ List.mem_cons_self⟩
  · intro p hp
    rcases List.mem_append.mp hp with hp | hp
    · obtain ⟨e, he, hrest⟩ := h.pending p hp
      exact ⟨e, List.mem_append_left _ he, hrest⟩
    · obtain rfl := List.mem_singleton.mp hp
      refine ⟨_, List.mem_append_right _ List.mem_cons_self, rfl, hrolled, rfl, rfl, ?_⟩
      exact fun happlied => absurd happlied Bool.false_ne_true
  · intro i hi
    rw [Node.take_ids]
    exact List.mem_append_left _ (h.rolled_known i hi)
  · exact hmem h.rolled_rejected fun hmem => absurd hmem hrolled
  · refine List.pairwise_append.mpr ⟨h.distinct, List.pairwise_singleton _ _, ?_⟩
    intro e he _ hlast hcounter
    obtain rfl := List.mem_singleton.mp hlast
    exact h.rolled_of_counter he hcounter

/-! ## The node acts -/

/-- Of two fragments with the same counter, the one submitted first was rolled back. -/
theorem rolled_of_same_counter (h : Agrees start node rolledBack lost s) {x : Entry}
    (he : e ∈ node.entries) (hx : x ∈ node.entries) (hne : x.id ≠ e.id)
    (hcounter : x.counter = e.counter) : x.id ∈ rolledBack ∨ e.id ∈ rolledBack := by
  let R : Entry → Entry → Prop := fun a b =>
    a.counter = b.counter → a.id ∈ rolledBack ∨ b.id ∈ rolledBack
  have hsymm : Std.Symm R := ⟨fun a b hab heq => (hab heq.symm).symm⟩
  have hpairs : node.entries.Pairwise R := h.distinct.imp fun hab heq => Or.inl (hab heq)
  have hdiffer : x ≠ e := fun heq => hne (congrArg Entry.id heq)
  exact hpairs.forall hx he hdiffer hcounter

theorem not_rolled_of_pending (h : Agrees start node rolledBack lost s) (he : e ∈ node.entries)
    (hstatus : e.status = .pending) : e.id ∉ rolledBack := by
  intro hmem
  obtain ⟨reason, hrejected⟩ := h.rolled_rejected e he hmem
  rw [hstatus] at hrejected
  cases hrejected

/-- The node logs a status for a fragment that has none, and may move on in value and counter. -/
theorem logged (h : Agrees start node rolledBack lost s) (he : e ∈ node.entries)
    (hstatus : e.status = .pending) (status : FragmentStatus) {value counter : Int}
    (hforward : node.counter ≤ counter) (hnext : counter ≤ s.nextCounter)
    (hreleased : ∀ c ∈ s.released, counter ≤ c)
    (hvalue : value = start - (node.log e.id status).cost (·.executed = true))
    (hspent : (e.logged e.id status).executed = true → e.counter < counter)
    (hself : ¬ (e.logged e.id status).executed = true → counter ≤ e.counter)
    (hothers : ∀ x ∈ node.entries, x.id ≠ e.id → x.id ∉ rolledBack → ¬ x.executed = true →
      counter ≤ x.counter) :
    Agrees start { node.log e.id status with value := value, counter := counter } rolledBack lost
      s := by
  have hids : (node.log e.id status).ids = node.ids := Node.log_ids e.id status
  have hmem : ∀ {P : Entry → Prop}, (∀ x ∈ node.entries, P (x.logged e.id status)) →
      ∀ x ∈ (node.log e.id status).entries, P x := by
    intro P hall x hx
    obtain ⟨y, hy, rfl⟩ := List.mem_map.mp hx
    exact hall y hy
  -- either the fragment that is logged, or one that stays as it is
  have hcase : ∀ x ∈ node.entries, x = e ∨ x.id ≠ e.id ∧ x.logged e.id status = x := by
    intro x hx
    by_cases hid : x.id = e.id
    · exact Or.inl (Node.eq_of_id h.ids_nodup he hx hid)
    · exact Or.inr ⟨hid, Entry.logged_of_ne hid⟩
  constructor
  · exact h.disciplined
  · show (node.log e.id status).ids.Nodup
    rw [hids]
    exact h.ids_nodup
  · exact Int.le_trans h.floor_le hforward
  · exact hnext
  · exact hreleased
  · exact hvalue
  · show s.balance = start - (node.log e.id status).cost (·.id ∉ rolledBack) - lost
    rw [Node.cost_log]
    simp only [Entry.logged_id]
    exact h.balance_eq
  · refine hmem fun x hx => ?_
    rcases hcase x hx with rfl | ⟨_, hsame⟩
    · rw [Entry.logged_counter]
      exact hspent
    · rw [hsame]
      exact fun hexecuted => Int.lt_of_lt_of_le (h.executed_lt x hx hexecuted) hforward
  · refine hmem fun x hx => ?_
    rcases hcase x hx with rfl | ⟨hne, hsame⟩
    · rw [Entry.logged_counter, Entry.logged_id, Entry.logged_reservation]
      intro hnot hrolled
      have hold := h.unexecuted x hx (Entry.not_executed_of_pending hstatus) hrolled
      exact ⟨hself hnot, hold.2⟩
    · rw [hsame]
      intro hnot hrolled
      exact ⟨hothers x hx hne hrolled hnot, (h.unexecuted x hx hnot hrolled).2⟩
  · intro p hp
    obtain ⟨x, hx, hid, hrolled, hc, hv, happlied⟩ := h.pending p hp
    refine ⟨x.logged e.id status, List.mem_map_of_mem hx, ?_, hrolled, ?_, ?_, fun ha => ?_⟩
    · rw [Entry.logged_id]
      exact hid
    · rw [Entry.logged_counter]
      exact hc
    · rw [Entry.logged_cost]
      exact hv
    · rcases hcase x hx with rfl | ⟨_, hsame⟩
      · exact absurd (happlied ha) (Entry.not_executed_of_pending hstatus)
      · rw [hsame]
        exact happlied ha
  · show ∀ id ∈ rolledBack, id ∈ (node.log e.id status).ids
    rw [hids]
    exact h.rolled_known
  · refine hmem fun x hx => ?_
    rw [Entry.logged_id]
    intro hrolled
    rcases hcase x hx with rfl | ⟨_, hsame⟩
    · exact absurd hrolled (h.not_rolled_of_pending hx hstatus)
    · rw [hsame]
      exact h.rolled_rejected x hx hrolled
  · refine List.pairwise_map.mpr (h.distinct.imp ?_)
    intro x y hxy
    rw [Entry.logged_counter, Entry.logged_counter, Entry.logged_id]
    exact hxy

theorem executes (h : Agrees start node rolledBack lost s) (he : e ∈ node.entries)
    (hstatus : e.status = .pending) (hcounter : e.counter = node.counter)
    (date : Option BlockDate) (block : Text) :
    Agrees start (node.execute e date block) rolledBack lost s := by
  have hrolled := h.not_rolled_of_pending he hstatus
  -- the counter of the fragment is in flight, so the top is above it and it is not released
  have hin := h.mem_inFlight he (Entry.not_executed_of_pending hstatus) hrolled
  have hself : (e.logged e.id (.inABlock date block)).executed = true := by
    rw [Entry.logged_of_eq rfl]
    exact Entry.executed_of_inABlock rfl
  refine h.logged he hstatus (.inABlock date block) (by omega) ?_ ?_ ?_ (fun _ => by omega)
    (fun hnot => absurd hself hnot) ?_
  · have hlt := h.disciplined.inFlight_lt _ hin
    omega
  · intro c hc
    have hle := h.released_le c hc
    have hne : c ≠ e.counter := by
      rintro rfl
      exact h.disciplined.released_free _ hc hin
    omega
  · have hcost := Node.cost_execute h.ids_nodup he hstatus date block
    have hvalue := h.value_eq
    show node.value - e.cost = start - (node.execute e date block).cost (·.executed = true)
    omega
  · intro x hx hne hnot hexecuted
    have hle := (h.unexecuted x hx hexecuted hnot).1
    have hdiffer : x.counter ≠ e.counter := by
      intro heq
      rcases h.rolled_of_same_counter he hx hne heq with hmem | hmem
      · exact hnot hmem
      · exact hrolled hmem
    omega

theorem rejects (h : Agrees start node rolledBack lost s) (he : e ∈ node.entries)
    (hstatus : e.status = .pending) (reason : Text) :
    Agrees start (node.log e.id (.rejected reason)) rolledBack lost s := by
  have hexecuted := Entry.not_executed_of_pending hstatus
  have hold := h.unexecuted e he hexecuted (h.not_rolled_of_pending he hstatus)
  refine h.logged he hstatus (.rejected reason) (Int.le_refl _) h.counter_le h.released_le ?_ ?_
    (fun _ => hold.1) ?_
  · rw [Node.cost_reject h.ids_nodup he hstatus]
    exact h.value_eq
  · rw [Entry.logged_of_eq rfl]
    exact fun hnow => absurd hnow (Entry.not_executed_of_rejected rfl)
  · exact fun x hx _ hrolled hnot => (h.unexecuted x hx hnot hrolled).1

/-- Whatever the node does by itself, the wallet agrees with it. -/
theorem acts (h : Agrees start node rolledBack lost s) {node' : Node} (hacts : node.Acts node') :
    Agrees start node' rolledBack lost s := by
  cases hacts with
  | execute date block he hstatus hcounter => exact h.executes he hstatus hcounter date block
  | reject reason he hstatus => exact h.rejects he hstatus reason

/-! ## The wallet settles -/

/-- The wallet forgets a fragment that was executed. -/
theorem confirm (h : Agrees start node rolledBack lost s)
    (hid : ∀ e ∈ node.entries, e.id = id → e.executed = true) :
    Agrees start node rolledBack lost (s.confirm id) := by
  obtain ⟨hnext, hfloor, hreleased, hbalance⟩ := @State.confirm_frame s id
  constructor
  · exact State.confirm_disciplined h.disciplined
  · exact h.ids_nodup
  · rw [hfloor]
    exact h.floor_le
  · rw [hnext]
    exact h.counter_le
  · rw [hreleased]
    exact h.released_le
  · exact h.value_eq
  · rw [hbalance]
    exact h.balance_eq
  · exact h.executed_lt
  · intro e he hexecuted hrolled
    obtain ⟨hle, hpending⟩ := h.unexecuted e he hexecuted hrolled
    refine ⟨hle, ?_⟩
    rw [State.confirm_pending]
    exact State.mem_forget.mpr ⟨hpending, fun heq => hexecuted (hid e he heq)⟩
  · intro p hp
    rw [State.confirm_pending] at hp
    exact h.pending p (State.mem_forget.mp hp).1
  · exact h.rolled_known
  · exact h.rolled_rejected
  · exact h.distinct

/-- What a fragment that was not executed gives back: its cost, which was never applied, and its
counter, which the node has not got to. -/
theorem rollback_frame (h : Agrees start node rolledBack lost s) (he : e ∈ node.entries)
    (hexecuted : ¬ e.executed = true) (hrolled : e.id ∉ rolledBack) :
    (s.rollback e.id).2.floor = s.floor ∧ (s.rollback e.id).2.balance = s.balance + e.cost ∧
      node.counter ≤ (s.rollback e.id).2.nextCounter ∧
      ∀ c ∈ (s.rollback e.id).2.released, node.counter ≤ c := by
  obtain ⟨hle, hmem⟩ := h.unexecuted e he hexecuted hrolled
  have hr := State.reservationOf?_eq_some h.disciplined.ids_nodup hmem
  have hheld : ({ s.forget e.id with balance := s.balance + e.cost } : State).Disciplined
      [e.counter] :=
    (State.forget_disciplined h.disciplined hr).of_same rfl rfl rfl rfl rfl rfl
  have hstate : (s.rollback e.id).2 =
      ({ s.forget e.id with balance := s.balance + e.cost } : State).freeCounter e.counter := by
    rw [State.rollback_eq h.disciplined hr]
    rfl
  rw [hstate]
  exact ⟨State.freeCounter_floor _ _, State.freeCounter_balance _ _,
    hheld.le_free h.counter_le h.released_le hle⟩

/-- Without one fragment more, the cost of what was not rolled back is that much less. -/
theorem cost_rollback (h : Agrees start node rolledBack lost s) (he : e ∈ node.entries)
    (hrolled : e.id ∉ rolledBack) :
    node.cost (·.id ∉ rolledBack) = node.cost (·.id ∉ rolledBack ++ [e.id]) + e.cost := by
  refine Node.cost_eq_add h.ids_nodup he ?_ fun x _ => ?_
  · exact fun hnot => hnot (List.mem_append_right _ List.mem_cons_self)
  · rw [List.mem_append, List.mem_singleton, not_or]
    constructor
    · intro hx
      by_cases heq : x.id = e.id
      · exact Or.inr heq
      · exact Or.inl ⟨hx, heq⟩
    · rintro (⟨hx, _⟩ | heq)
      · exact hx
      · rw [heq]
        exact hrolled

/-- The wallet takes back what a rejected fragment reserved. -/
theorem rollback (h : Agrees start node rolledBack lost s) (hid : id ∈ s.pendingIds)
    (hrejected : ∀ e ∈ node.entries, e.id = id → ∃ reason, e.status = .rejected reason) :
    Agrees start node (rolledBack ++ [id]) lost (s.rollback id).2 := by
  obtain ⟨p, hp, rfl⟩ := List.mem_map.mp hid
  obtain ⟨e, he, heq, hrolled, _⟩ := h.pending p hp
  rw [← heq] at hrejected hrolled ⊢
  obtain ⟨reason, hstatus⟩ := hrejected e he rfl
  obtain ⟨hfloor, hbalance, hnext, hreleased⟩ :=
    h.rollback_frame he (Entry.not_executed_of_rejected hstatus) hrolled
  have hpending : (s.rollback e.id).2.pending = (s.forget e.id).pending :=
    State.rollback_pending h.disciplined
  have hsplit : ∀ {i : Text}, i ∉ rolledBack ++ [e.id] ↔ i ∉ rolledBack ∧ i ≠ e.id := by
    intro i
    rw [List.mem_append, List.mem_singleton, not_or]
  constructor
  · exact State.rollback_disciplined h.disciplined
  · exact h.ids_nodup
  · rw [hfloor]
    exact h.floor_le
  · exact hnext
  · exact hreleased
  · exact h.value_eq
  · have hcost := h.cost_rollback he hrolled
    have hbefore := h.balance_eq
    rw [hbalance]
    omega
  · exact h.executed_lt
  · intro x hx hnot hx'
    obtain ⟨hxrolled, hne⟩ := hsplit.mp hx'
    obtain ⟨hle, hmem⟩ := h.unexecuted x hx hnot hxrolled
    refine ⟨hle, ?_⟩
    rw [hpending]
    exact State.mem_forget.mpr ⟨hmem, hne⟩
  · intro q hq
    rw [hpending] at hq
    obtain ⟨hq, hne⟩ := State.mem_forget.mp hq
    obtain ⟨x, hx, hxid, hxrolled, hrest⟩ := h.pending q hq
    exact ⟨x, hx, hxid, hsplit.mpr ⟨hxrolled, hne⟩, hrest⟩
  · intro i hi
    rcases List.mem_append.mp hi with hi | hi
    · exact h.rolled_known i hi
    · obtain rfl := List.mem_singleton.mp hi
      exact List.mem_map_of_mem he
  · intro x hx hmem
    rcases List.mem_append.mp hmem with hmem | hmem
    · exact h.rolled_rejected x hx hmem
    · exact hrejected x hx (List.mem_singleton.mp hmem)
  · exact h.distinct.imp fun hxy hsame => List.mem_append_left _ (hxy hsame)

/-! ## The wallet fetches the account -/

/-- With nothing pending an account state decides everything. -/
theorem fetched {snapshot : AccountSnapshot} (h : s.pending = []) :
    Agrees snapshot.value ⟨snapshot.value, snapshot.counter, []⟩ [] 0 (s.refresh snapshot) := by
  have hstate : s.refresh snapshot = {
      nextCounter := snapshot.counter
      floor := snapshot.counter
      balance := snapshot.value } := by
    unfold State.refresh State.refreshCounters State.refreshBalance
    simp [h, State.unapplied]
  rw [hstate]
  constructor
  · exact ⟨Int.le_refl _, by simp, by simp, by simp, by simp, by simp [State.pendingCounters],
      by simp [State.pendingCounters], by simp [State.pendingIds]⟩
  · simp [Node.ids]
  · exact Int.le_refl _
  · exact Int.le_refl _
  · simp
  · simp [Node.cost]
  · simp [Node.cost]
  all_goals simp

/-- What was executed is marked as applied, and nothing else. -/
theorem applied_iff (h : Agrees start node rolledBack lost s) {r : Reservation}
    (he : e ∈ node.entries) (hrolled : e.id ∉ rolledBack) (hcounter : r.counter = some e.counter)
    (happlied : r.applied = true → e.executed = true) :
    (State.markApplied node.counter r).applied = true ↔ e.executed = true := by
  unfold State.markApplied
  rw [hcounter]
  dsimp only
  split
  · rename_i hlt
    refine ⟨fun _ => ?_, fun _ => rfl⟩
    by_contra hexecuted
    have hle := (h.unexecuted e he hexecuted hrolled).1
    omega
  · rename_i hge
    refine ⟨happlied, fun hexecuted => ?_⟩
    exact absurd (h.executed_lt e he hexecuted) hge

/-- The account state of the node takes away nothing that is pending, and what was lost is there
again. -/
theorem refresh (h : Agrees start node rolledBack lost s) {snapshot : AccountSnapshot}
    (hvalue : snapshot.value = node.value) (hcounter : snapshot.counter = node.counter) :
    Agrees start node rolledBack 0 (s.refresh snapshot) := by
  have hpending := State.refresh_pending snapshot s
  obtain ⟨hbalance, hnext, hfloor, hreleased⟩ := State.refresh_frame snapshot s
  have hids : (s.pending.map fun p => (p.1, State.markApplied snapshot.counter p.2)).map (·.1) =
      s.pendingIds := by
    rw [List.map_map]
    rfl
  have hmarked : ∀ p ∈ s.pending.map fun p => (p.1, State.markApplied snapshot.counter p.2),
      ∃ e ∈ node.entries, e.id = p.1 ∧ p.1 ∉ rolledBack ∧ p.2.counter = some e.counter ∧
        p.2.value = e.cost ∧ (p.2.applied = true ↔ e.executed = true) := by
    intro p hp
    obtain ⟨q, hq, rfl⟩ := List.mem_map.mp hp
    obtain ⟨e, he, hid, hrolled, hc, hv, happlied⟩ := h.pending q hq
    refine ⟨e, he, hid, hrolled, ?_, ?_, ?_⟩
    · rw [State.markApplied_counter]
      exact hc
    · rw [State.markApplied_value]
      exact hv
    · rw [hcounter]
      exact h.applied_iff he (hid ▸ hrolled) hc happlied
  constructor
  · exact State.refresh_disciplined h.disciplined snapshot
  · exact h.ids_nodup
  · rcases hfloor with hfloor | hfloor
    · exact Int.le_of_eq (hfloor.trans hcounter)
    · rw [hfloor]
      exact h.floor_le
  · rw [← hcounter]
    exact hnext
  · exact fun c hc => h.released_le c (hreleased c hc)
  · exact h.value_eq
  · have hunapplied := Node.unapplied_eq_cost h.ids_nodup (hids ▸ h.disciplined.ids_nodup)
      fun p hp => by
        obtain ⟨e, he, hid, _, _, hv, happlied⟩ := hmarked p hp
        exact ⟨e, he, hid, hv, happlied⟩
    rw [hids] at hunapplied
    rw [hbalance, hunapplied, hvalue, h.value_eq, h.cost_split]
    omega
  · exact h.executed_lt
  · intro e he hexecuted hrolled
    obtain ⟨hle, hmem⟩ := h.unexecuted e he hexecuted hrolled
    refine ⟨hle, ?_⟩
    -- the node has not got to this counter, so the reservation is not marked
    have hsame : State.markApplied snapshot.counter e.reservation = e.reservation := by
      unfold State.markApplied Entry.reservation
      rw [hcounter]
      exact if_neg (Int.not_lt.mpr hle)
    rw [hpending]
    exact List.mem_map.mpr ⟨_, hmem, by rw [hsame]⟩
  · intro p hp
    rw [hpending] at hp
    obtain ⟨e, he, hid, hrolled, hc, hv, happlied⟩ := hmarked p hp
    exact ⟨e, he, hid, hrolled, hc, hv, happlied.mp⟩
  · exact h.rolled_known
  · exact h.rolled_rejected
  · exact h.distinct

end Agrees

end BallotWallet.Wallet
