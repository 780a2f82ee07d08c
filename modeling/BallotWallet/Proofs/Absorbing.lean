import BallotWallet.Proofs.AnyOrder

/-!
# Account states one after another

An account state replaces what an older one has said. While fragments are pending, account states
only raise the top and the floor, and they mark what is below their counters; with nothing pending
they decide everything. Either way a newer one does all that an older one has done before it. So
of several account states that are fetched one after another the last one counts, as long as none
before it is ahead of it.
-/

namespace BallotWallet.Wallet

open BallotWallet.Action

namespace CounterSet

theorem filter_eq_self {p : Int → Bool} {s : CounterSet} (h : ∀ c ∈ s, p c = true) :
    s.filter p = s := by
  apply ext_mem
  intro c
  rw [mem_filter]
  exact and_iff_left_of_imp (h c)

theorem filter_eq_empty {p : Int → Bool} {s : CounterSet} (h : ∀ c ∈ s, p c = false) :
    s.filter p = empty := by
  apply ext_mem
  intro c
  simp only [mem_filter, mem_empty, iff_false]
  rintro ⟨hc, hp⟩
  rw [h c hc] at hp
  cases hp

theorem filter_filter_of_imp {p q : Int → Bool} (h : ∀ c, q c = true → p c = true)
    (s : CounterSet) : (s.filter p).filter q = s.filter q := by
  apply ext_mem
  intro c
  simp only [mem_filter]
  exact ⟨fun hc => ⟨hc.1.1, hc.2⟩, fun hc => ⟨⟨hc.1, h c hc.2⟩, hc.2⟩⟩

end CounterSet

namespace State

variable {s : State} {older newer snapshot : AccountSnapshot}

/-! ## One account state -/

/-- The counters raised to one of the node: those below it are spent. -/
def raised (n : Int) (s : State) : State :=
  { s with
    nextCounter := max s.nextCounter n
    floor := max s.floor n
    released := s.released.filter fun c => decide (n ≤ c) }

/-- While fragments are pending, an account state raises the counters. -/
theorem Ordered.refreshCounters_pending (h : s.Ordered) (hpending : s.pending.isEmpty = false)
    (snapshot : AccountSnapshot) : s.refreshCounters snapshot = s.raised snapshot.counter := by
  have hfloor := h.floor_le
  unfold refreshCounters raised
  rw [hpending, if_neg Bool.false_ne_true]
  by_cases hover : s.nextCounter < snapshot.counter
  · have hnone : s.released.filter (fun c => decide (snapshot.counter ≤ c)) = .empty := by
      apply CounterSet.filter_eq_empty
      intro c hc
      have := (h.released_bounds c hc).2
      exact decide_eq_false (by omega)
    rw [if_pos hover, hnone, Int.max_eq_right (by omega), Int.max_eq_right (by omega)]
  · rw [if_neg hover, Int.max_eq_left (Int.not_lt.mp hover)]
    by_cases hfar : s.floor < snapshot.counter
    · rw [if_pos hfar, Int.max_eq_right (Int.le_of_lt hfar)]
    · have hall : s.released.filter (fun c => decide (snapshot.counter ≤ c)) = s.released := by
        apply CounterSet.filter_eq_self
        intro c hc
        have := (h.released_bounds c hc).1
        exact decide_eq_true (by omega)
      rw [if_neg hfar, hall, Int.max_eq_left (Int.not_lt.mp hfar)]

/-- With nothing pending, an account state decides all counters. -/
theorem refreshCounters_idle (hidle : s.pending.isEmpty = true) (snapshot : AccountSnapshot) :
    s.refreshCounters snapshot =
      { s with
        nextCounter := snapshot.counter, floor := snapshot.counter
        released := .empty, inFlight := .empty } := by
  unfold refreshCounters
  rw [if_pos hidle]

/-! ## Two account states -/

theorem markApplied_absorbs {m n : Int} (h : m ≤ n) (r : Reservation) :
    markApplied n (markApplied m r) = markApplied n r := by
  obtain ⟨_ | c, value, applied⟩ := r
  · rfl
  · by_cases hm : c < m
    · have hn : c < n := Int.lt_of_lt_of_le hm h
      simp [markApplied, hm, hn]
    · simp [markApplied, hm]

theorem refreshBalance_absorbs (h : older.counter ≤ newer.counter) (s : State) :
    (s.refreshBalance older).refreshBalance newer = s.refreshBalance newer := by
  have hmarks : (s.pending.map fun p => (p.1, markApplied older.counter p.2)).map
      (fun p => (p.1, markApplied newer.counter p.2)) =
      s.pending.map fun p => (p.1, markApplied newer.counter p.2) := by
    rw [List.map_map]
    exact List.map_congr_left fun p _ => congrArg (p.1, ·) (markApplied_absorbs h p.2)
  unfold refreshBalance
  rw [hmarks]

theorem raised_absorbs {m n : Int} (h : m ≤ n) (s : State) :
    (s.raised m).raised n = s.raised n := by
  have hfilter := CounterSet.filter_filter_of_imp (p := fun c => decide (m ≤ c))
    (q := fun c => decide (n ≤ c))
    (fun c hc => decide_eq_true (Int.le_trans h (of_decide_eq_true hc))) s.released
  unfold raised
  dsimp only
  rw [hfilter, Int.max_assoc, Int.max_assoc, Int.max_eq_right h]

/-- Neither half of a refresh looks at what the other one changes. -/
theorem refreshBalance_refreshCounters (older newer : AccountSnapshot) (s : State) :
    (s.refreshCounters older).refreshBalance newer =
      (s.refreshBalance newer).refreshCounters older := by
  have hempty : (s.refreshBalance newer).pending.isEmpty = s.pending.isEmpty := List.isEmpty_map
  simp only [refreshCounters, apply_ite (refreshBalance newer), hempty]
  rfl

theorem Ordered.refreshCounters (h : s.Ordered) (snapshot : AccountSnapshot) :
    (s.refreshCounters snapshot).Ordered := by
  have hrefreshed : ((s.refreshBalance snapshot).refreshCounters snapshot).Ordered :=
    h.refresh snapshot
  rw [← refreshBalance_refreshCounters] at hrefreshed
  exact hrefreshed.of_same rfl rfl rfl rfl

theorem refreshCounters_pending_eq (snapshot : AccountSnapshot) (s : State) :
    (s.refreshCounters snapshot).pending = s.pending := by
  unfold refreshCounters
  split
  · rfl
  · split
    · rfl
    · split <;> rfl

theorem Ordered.refreshCounters_absorbs (h : s.Ordered) (hle : older.counter ≤ newer.counter) :
    (s.refreshCounters older).refreshCounters newer = s.refreshCounters newer := by
  have hsame : (s.refreshCounters older).pending.isEmpty = s.pending.isEmpty := by
    rw [refreshCounters_pending_eq]
  cases hpending : s.pending.isEmpty with
  | true =>
      rw [refreshCounters_idle (hsame.trans hpending), refreshCounters_idle hpending,
        refreshCounters_idle hpending]
  | false =>
      rw [(h.refreshCounters older).refreshCounters_pending (hsame.trans hpending),
        h.refreshCounters_pending hpending, h.refreshCounters_pending hpending,
        raised_absorbs hle]

/-- **A newer account state absorbs an older one.** -/
theorem Ordered.refresh_absorbs (h : s.Ordered) (hle : older.counter ≤ newer.counter) :
    (s.refresh older).refresh newer = s.refresh newer := by
  have hmarked : (s.refreshBalance newer).Ordered := h.of_same rfl rfl rfl rfl
  calc (s.refresh older).refresh newer
      = (((s.refreshBalance older).refreshCounters older).refreshBalance newer).refreshCounters
          newer := rfl
    _ = ((s.refreshBalance newer).refreshCounters older).refreshCounters newer := by
        rw [refreshBalance_refreshCounters, refreshBalance_absorbs hle]
    _ = s.refresh newer := hmarked.refreshCounters_absorbs hle

/-! ## Several account states -/

/-- The last one absorbs all that are not ahead of it, in whatever order they came. -/
theorem Ordered.foldl_refresh_absorbs {snapshots : List AccountSnapshot}
    {last : AccountSnapshot} (h : s.Ordered)
    (hle : ∀ snapshot ∈ snapshots, snapshot.counter ≤ last.counter) :
    (snapshots.foldl (fun s snapshot => s.refresh snapshot) s).refresh last = s.refresh last := by
  induction snapshots generalizing s with
  | nil => rfl
  | cons snapshot snapshots ih =>
      have hrest := ih (h.refresh snapshot) fun other hother =>
        hle other (List.mem_cons_of_mem _ hother)
      exact hrest.trans (h.refresh_absorbs (hle snapshot List.mem_cons_self))

end State

/-- Account states whose counters never fall from one to the next. -/
abbrev Rising (snapshots : List AccountSnapshot) : Prop :=
  snapshots.IsChain fun older newer => older.counter ≤ newer.counter

theorem Rising.le_last {snapshots : List AccountSnapshot} {last : AccountSnapshot}
    (h : Rising (snapshots ++ [last])) :
    ∀ snapshot ∈ snapshots, snapshot.counter ≤ last.counter := by
  have : Trans (fun a b : AccountSnapshot => a.counter ≤ b.counter)
      (fun a b : AccountSnapshot => a.counter ≤ b.counter)
      (fun a b : AccountSnapshot => a.counter ≤ b.counter) := ⟨Int.le_trans⟩
  have hpairs := List.isChain_iff_pairwise.mp h
  intro snapshot hmem
  exact (List.pairwise_append.mp hpairs).2.2 snapshot hmem last List.mem_cons_self

/-! ## In the books and in sessions -/

namespace Book

/-- Brings the state up to account states of the node, one after another. -/
def refreshEach : List AccountSnapshot → Action State Unit
  | [] => pure ()
  | snapshot :: snapshots => do
    refresh snapshot
    refreshEach snapshots

theorem effect_refreshEach (snapshots : List AccountSnapshot) (s : State) :
    (refreshEach snapshots).effect s =
      (.ok (), snapshots.foldl (fun s snapshot => s.refresh snapshot) s) := by
  induction snapshots generalizing s with
  | nil => rfl
  | cons snapshot snapshots ih =>
      unfold refreshEach
      rw [effect_bind_ok (effect_refresh snapshot s), ih]
      rfl

end Book

namespace Controller

variable {ω : Type} {c c' : Controller ω}

/-- Brings the wallet up to the account state that the node reports, a number of times in a row,
and yields what it reported. -/
def refreshTimes : Nat → Action (Controller ω) (List AccountSnapshot)
  | 0 => pure []
  | n + 1 => do
    let snapshot ← refreshState
    return snapshot :: (← refreshTimes n)

theorem wallet_of_refreshState {snapshot : AccountSnapshot}
    (h : refreshState.effect c = (.ok snapshot, c')) : c'.wallet = c.wallet.refresh snapshot := by
  obtain ⟨session, c₁, hsession, h⟩ := exists_of_effect_bind h
  obtain ⟨reported, c₂, hreported, h⟩ := exists_of_effect_bind h
  obtain ⟨_, c₃, hbook, h⟩ := exists_of_effect_bind h
  obtain ⟨world, hworld⟩ := asks_requireSession "refresh_state" c
  obtain ⟨world', hworld'⟩ := asks_accountState c₁
  rw [hsession] at hworld
  rw [hreported] at hworld'
  rw [effect_atDesk, Desk.effect_book, Book.effect_refresh] at hbook
  cases h
  cases hbook
  obtain rfl : c₁ = _ := hworld
  obtain rfl : c₂ = _ := hworld'
  rfl

theorem wallet_of_refreshTimes {n : Nat} {snapshots : List AccountSnapshot}
    (h : (refreshTimes n).effect c = (.ok snapshots, c')) :
    c'.wallet = snapshots.foldl (fun s snapshot => s.refresh snapshot) c.wallet := by
  induction n generalizing c snapshots with
  | zero =>
      cases h
      rfl
  | succ n ih =>
      obtain ⟨snapshot, c₁, hfirst, h⟩ := exists_of_effect_bind h
      obtain ⟨rest, c₂, hrest, h⟩ := exists_of_effect_bind h
      cases h
      rw [ih hrest, wallet_of_refreshState hfirst]
      rfl

end Controller

namespace Run

/-- **The newest account state counts.** However a wallet was used, an account state absorbs an
older one that was fetched just before it: the state is the same as if the older one had not been
fetched. So the same account state again changes nothing, and of account states with counters that
never fall the last one decides, in the books as in a session that fetches them. -/
theorem newest_counts {t : Run} (h : Used t) :
    (∀ older newer : AccountSnapshot, older.counter ≤ newer.counter →
      ∃ s, (Book.refreshEach [older, newer]).effect t.wallet = (.ok (), s) ∧
        (Book.refresh newer).effect t.wallet = (.ok (), s)) ∧
    (∀ snapshot, ∃ s, (Book.refresh snapshot).effect t.wallet = (.ok (), s) ∧
      (Book.refresh snapshot).effect s = (.ok (), s)) ∧
    (∀ snapshots last, Rising (snapshots ++ [last]) →
      ∃ s, (Book.refreshEach (snapshots ++ [last])).effect t.wallet = (.ok (), s) ∧
        (Book.refresh last).effect t.wallet = (.ok (), s)) ∧
    ∀ {ω : Type} (c c' : Controller ω) (n : Nat) snapshots last, c.wallet = t.wallet →
      (Controller.refreshTimes n).effect c = (.ok (snapshots ++ [last]), c') →
      Rising (snapshots ++ [last]) →
      (Book.refresh last).effect t.wallet = (.ok (), c'.wallet) := by
  have hordered := h.disciplined.ordered
  have hchain : ∀ snapshots last, Rising (snapshots ++ [last]) →
      (snapshots ++ [last]).foldl (fun s snapshot => s.refresh snapshot) t.wallet =
        t.wallet.refresh last := by
    intro snapshots last hrising
    rw [List.foldl_append]
    exact hordered.foldl_refresh_absorbs hrising.le_last
  refine ⟨?_, ?_, ?_, ?_⟩
  · intro older newer hle
    refine ⟨_, ?_, Book.effect_refresh newer _⟩
    rw [Book.effect_refreshEach, ← hordered.refresh_absorbs hle]
    rfl
  · intro snapshot
    refine ⟨_, Book.effect_refresh snapshot _, ?_⟩
    rw [Book.effect_refresh, hordered.refresh_absorbs (Int.le_refl _)]
  · intro snapshots last hrising
    refine ⟨_, ?_, Book.effect_refresh last _⟩
    rw [Book.effect_refreshEach, hchain snapshots last hrising]
  · intro ω c c' n snapshots last hwallet hfetched hrising
    rw [Controller.wallet_of_refreshTimes hfetched, hwallet, hchain snapshots last hrising]
    exact Book.effect_refresh last _

/-- A node that reports account states one after another. -/
def reporting : Ledger.Client (List AccountSnapshot) where
  text := "reporting"
  settings := pure {}
  accountState := fun _ => do
    match ← get with
    | [] => throw (.backend "no more reports" none "")
    | snapshot :: snapshots =>
      set snapshots
      return snapshot
  submit := fun _ => pure ""
  submitAll := fun _ => pure []
  fragmentLogs := pure []
  proposals := pure []
  voteStatuses := fun _ => pure []

/-- Reports that pass one fragment after another, and then all of them. -/
def threeReports : List AccountSnapshot :=
  [{ value := 70, counter := 7 }, { value := 70, counter := 7 }, { value := 5, counter := 11 }]

/-- A session with that node and with four pending fragments. -/
def reportedTo : Controller (List AccountSnapshot) where
  options := {}
  client := reporting
  surroundings := { now := fun _ => Binary64.zero false, sleep := fun _ world => world }
  session := some ⟨.ofMaterial default, {}⟩
  wallet := fourPending.wallet
  world := threeReports

/-- After the last report nothing is taken off the balance any more, and the counters go on from
there while the fragments stay. -/
theorem newest_counts_overtaken :
    Used fourPending ∧ Rising threeReports ∧
      ∃ c', (Controller.refreshTimes 3).effect reportedTo = (.ok threeReports, c') ∧
        (Book.refresh { value := 5, counter := 11 }).effect fourPending.wallet =
          (.ok (), c'.wallet) ∧
        c'.wallet.nextCounter = 11 ∧ c'.wallet.balance = 5 ∧
        c'.wallet.pendingIds = fourPending.wallet.pendingIds := by
  have hrising : Rising threeReports := by
    unfold Rising threeReports
    simp
  obtain ⟨_, _, _, hfetched⟩ := newest_counts fourPending_used
  have hthree : ∃ c', (Controller.refreshTimes 3).effect reportedTo = (.ok threeReports, c') :=
    ⟨_, rfl⟩
  obtain ⟨c', hthree⟩ := hthree
  have hwallet := hfetched reportedTo c' 3 [{ value := 70, counter := 7 },
    { value := 70, counter := 7 }] { value := 5, counter := 11 } rfl hthree hrising
  have hstate : c'.wallet = fourPending.wallet.refresh { value := 5, counter := 11 } := by
    rw [Book.effect_refresh] at hwallet
    exact (congrArg Prod.snd hwallet).symm
  refine ⟨fourPending_used, hrising, c', hthree, hwallet, ?_⟩
  rw [hstate]
  decide +kernel

end Run

end BallotWallet.Wallet
