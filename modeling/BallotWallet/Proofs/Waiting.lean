import BallotWallet.Proofs.AllOrNothing
import BallotWallet.Proofs.Polling

/-!
# Waiting

What a wait does, from its first poll to its end. The node answers the queries of a wait as it
likes, and the wait may be called off at any time; a script says both in advance. The wait polls
and sleeps in turn. It ends with the first poll after which nothing is pending, after which it has
been called off, or after which no sleep is left.
-/

namespace BallotWallet.Wallet

open BallotWallet.Action

namespace Settlement

section Rounds

variable {ω : Type} {client : Ledger.Client ω} {d : Desk ω} {outstanding : List Int}

/-- The desk after a poll. -/
def polledDesk (client : Ledger.Client ω) (d : Desk ω) : Desk ω :=
  ⟨d.wallet.polled (client.fragmentLogs.effect d.world).1,
    (client.fragmentLogs.effect d.world).2⟩

/-- A wait does not stop at a poll that the node refuses. -/
theorem effect_pollOrReport (h : d.wallet.Disciplined outstanding)
    (hpending : d.wallet.pending ≠ [])
    (hanswer : ∀ e, (client.fragmentLogs.effect d.world).1 = .error e → e.isBackend = true) :
    (pollOrReport client).effect d = (.ok (), polledDesk client d) := by
  have hpoll := effect_poll_answered client h hpending
  unfold pollOrReport polledDesk
  rw [effect_orOnFailure, effect_bind, hpoll]
  rcases hask : (client.fragmentLogs.effect d.world).1 with e | logs
  · have he := hanswer e hask
    simp only [Except.map, he, Bool.not_true, Bool.false_eq_true, if_false]
    rfl
  · rfl

/-- Any other failure of the query ends the wait, and the wallet stays as it is. -/
theorem effect_pollOrReport_broken (h : d.wallet.Disciplined outstanding)
    (hpending : d.wallet.pending ≠ []) {e : Failure}
    (hanswer : (client.fragmentLogs.effect d.world).1 = .error e) (he : e.isBackend = false) :
    (pollOrReport client).effect d = (.error e, polledDesk client d) := by
  have hpoll := effect_poll_answered client h hpending
  unfold pollOrReport polledDesk
  rw [effect_orOnFailure, effect_bind, hpoll, hanswer]
  simp only [Except.map, he, Bool.not_false, if_true]
  rfl

/-- A round that the node answers ends the wait, or sleeps and goes on. -/
theorem effect_round (surroundings : Surroundings ω) (patience : Patience ω) (isLast : Bool)
    (again : Action (Desk ω) Unit) (h : d.wallet.Disciplined outstanding)
    (hpending : d.wallet.pending ≠ [])
    (hanswer : ∀ e, (client.fragmentLogs.effect d.world).1 = .error e → e.isBackend = true) :
    (round client surroundings patience isLast again).effect d =
      if (polledDesk client d).wallet.pending = [] then (.ok (), polledDesk client d)
      else if isLast = true ∨ patience.cancelled (polledDesk client d).world = true then
        (.error (.pendingTooLong (polledDesk client d).wallet.pendingIds), polledDesk client d)
      else again.effect { polledDesk client d with
        world := surroundings.sleep patience.interval (polledDesk client d).world } := by
  unfold round
  rw [effect_bind_ok (effect_pollOrReport h hpending hanswer), effect_bind_ok (effect_get _)]
  simp only [List.isEmpty_iff, Bool.or_eq_true]
  split
  · rfl
  · split
    · rfl
    · exact effect_bind_ok (effect_set _ _)

/-- A query that fails in any other way ends the round it is in. -/
theorem effect_round_broken (surroundings : Surroundings ω) (patience : Patience ω) (isLast : Bool)
    (again : Action (Desk ω) Unit) (h : d.wallet.Disciplined outstanding)
    (hpending : d.wallet.pending ≠ []) {e : Failure}
    (hanswer : (client.fragmentLogs.effect d.world).1 = .error e) (he : e.isBackend = false) :
    (round client surroundings patience isLast again).effect d =
      (.error e, polledDesk client d) :=
  effect_bind_error (effect_pollOrReport_broken h hpending hanswer he)

/-- A round fails by itself, or hands on how the rest of the wait fails. -/
theorem round_failure (surroundings : Surroundings ω) (patience : Patience ω) {isLast : Bool}
    {again : Action (Desk ω) Unit} (h : d.wallet.Disciplined outstanding)
    (hpending : d.wallet.pending ≠ []) {e : Failure}
    (he : ((round client surroundings patience isLast again).effect d).1 = .error e) :
    (∃ ids, e = .pendingTooLong ids) ∨
      (∃ w, (client.fragmentLogs.effect w).1 = .error e ∧ e.isBackend = false) ∨
      isLast = false ∧ (polledDesk client d).wallet.pending ≠ [] ∧
        ∃ world, (again.effect { polledDesk client d with world := world }).1 = .error e := by
  by_cases hanswer : ∀ e, (client.fragmentLogs.effect d.world).1 = .error e → e.isBackend = true
  · rw [effect_round surroundings patience isLast again h hpending hanswer] at he
    split at he
    · cases he
    · rename_i hstill
      split at he
      · cases he
        exact .inl ⟨_, rfl⟩
      · rename_i hgoes
        rw [not_or, Bool.not_eq_true] at hgoes
        exact .inr (.inr ⟨hgoes.1, hstill, _, he⟩)
  · push Not at hanswer
    obtain ⟨found, hfound, hforeign⟩ := hanswer
    replace hforeign := Bool.eq_false_iff.mpr hforeign
    rw [effect_round_broken surroundings patience isLast again h hpending hfound hforeign] at he
    cases he
    exact .inr (.inl ⟨_, hfound, hforeign⟩)

theorem waitWith_failure (surroundings : Surroundings ω) (patience : Patience ω) (sleeps : Nat)
    (h : d.wallet.Disciplined outstanding) (hpending : d.wallet.pending ≠ []) {e : Failure}
    (he : ((waitWith client surroundings patience sleeps).effect d).1 = .error e) :
    (∃ ids, e = .pendingTooLong ids) ∨
      ∃ w, (client.fragmentLogs.effect w).1 = .error e ∧ e.isBackend = false := by
  induction sleeps generalizing d with
  | zero =>
      rcases round_failure surroundings patience h hpending he with hlong | hquery | ⟨hlast, _⟩
      · exact .inl hlong
      · exact .inr hquery
      · cases hlast
  | succ sleeps ih =>
      rcases round_failure surroundings patience h hpending he with
        hlong | hquery | ⟨_, hstill, world, hrest⟩
      · exact .inl hlong
      · exact .inr hquery
      · exact ih (d := { polledDesk client d with world := world })
          (State.polled_disciplined h _) hstill hrest

theorem effect_wait_idle (client : Ledger.Client ω) (surroundings : Surroundings ω)
    (patience : Patience ω) {d : Desk ω} (hnone : d.wallet.pending = []) :
    (wait client surroundings patience).effect d = (.ok (), d) := by
  unfold wait
  rw [effect_bind_ok (Desk.effect_state d)]
  simp [hnone]

theorem effect_wait (client : Ledger.Client ω) (surroundings : Surroundings ω)
    (patience : Patience ω) {d : Desk ω} (hpending : d.wallet.pending ≠ []) :
    (wait client surroundings patience).effect d =
      (waitWith client surroundings patience patience.budget.toNat).effect d := by
  have hsome : d.wallet.pending.isEmpty = false := List.isEmpty_eq_false_iff.mpr hpending
  unfold wait
  rw [effect_bind_ok (Desk.effect_state d)]
  simp only [hsome, Bool.false_eq_true, if_false]

/-- **How a wait fails.** It names what is still pending, or a query of the log has failed in a
way that is not the node's. -/
theorem wait_failure (surroundings : Surroundings ω) (patience : Patience ω)
    (h : d.wallet.Disciplined outstanding) {e : Failure}
    (he : ((wait client surroundings patience).effect d).1 = .error e) :
    (∃ ids, e = .pendingTooLong ids) ∨
      ∃ w, (client.fragmentLogs.effect w).1 = .error e ∧ e.isBackend = false := by
  by_cases hpending : d.wallet.pending = []
  · rw [effect_wait_idle client surroundings patience hpending] at he
    cases he
  · rw [effect_wait client surroundings patience hpending] at he
    exact waitWith_failure surroundings patience _ h hpending he

/-- A first query that fails in a way that is not the node's ends the wait. -/
theorem effect_wait_broken (client : Ledger.Client ω) (surroundings : Surroundings ω)
    (patience : Patience ω) (h : d.wallet.Disciplined outstanding)
    (hpending : d.wallet.pending ≠ []) {e : Failure}
    (hanswer : (client.fragmentLogs.effect d.world).1 = .error e) (he : e.isBackend = false) :
    (wait client surroundings patience).effect d = (.error e, polledDesk client d) := by
  rw [effect_wait client surroundings patience hpending]
  cases patience.budget.toNat <;>
    exact effect_round_broken surroundings patience _ _ h hpending hanswer he

end Rounds

/-! ## Scripts -/

/-- A client of a node that answers every query of the log alike. -/
def answering (answer : Except Failure FragmentLogs) : Ledger.Client Unit where
  text := "answering"
  settings := pure {}
  accountState _ := pure { value := 0, counter := 0 }
  submit _ := pure ""
  submitAll _ := pure []
  fragmentLogs := Action.ofExcept answer
  proposals := pure []
  voteStatuses _ := pure []

/-- The wallet after one poll at which the node gives an answer. -/
def pollOnce (answer : Except Failure FragmentLogs) (s : State) : State :=
  ((poll (answering answer)).effect ⟨s, ()⟩).2.wallet

/-- What a wallet does while it waits, as far as others can tell. -/
inductive Event where
  /-- A query of the fragment log. -/
  | query
  | sleep (seconds : Document)
  /-- Any other request to the node. -/
  | request

def Event.isQuery : Event → Bool
  | query => true
  | _ => false

/-- How many times the fragment log was queried. -/
def queries (events : List Event) : Nat :=
  events.countP Event.isQuery

/-- What comes up while a wallet waits. -/
structure Script where
  /-- The answers to the queries of the fragment log, in their order. -/
  answer : Nat → Except Failure FragmentLogs
  /-- Whether the wait has been called off by the time that a number of polls are over. -/
  calledOff : Nat → Bool
  /-- There is a log in every answer, or the node has failed. -/
  refuses : ∀ n e, answer n = .error e → e.isBackend = true

namespace Script

variable (script : Script)

/-- A request that is not in the script. -/
def unforeseen {α : Type} : Action (List Event) α :=
  Action.step fun events =>
    (.error (.backend "not in the script" none ""), events ++ [.request])

/-- A node that answers as the script says. The world is what has happened so far. -/
def client : Ledger.Client (List Event) where
  text := "scripted"
  settings := unforeseen
  accountState _ := unforeseen
  submit _ := unforeseen
  submitAll _ := unforeseen
  fragmentLogs := Action.step fun events =>
    (script.answer (queries events), events ++ [.query])
  proposals := unforeseen
  voteStatuses _ := unforeseen

def surroundings : Surroundings (List Event) where
  now _ := Binary64.zero false
  sleep seconds events := events ++ [.sleep seconds]

def patience (interval : Document) (budget : Int) : Patience (List Event) where
  interval := interval
  budget := budget
  cancelled events := script.calledOff (queries events)

/-- A wait of a wallet before which nothing has happened. -/
def run (interval : Document) (budget : Int) (s : State) :
    Except Failure Unit × Desk (List Event) :=
  (wait script.client surroundings (script.patience interval budget)).effect ⟨s, []⟩

/-- The wallet after a number of polls, one after another. -/
def afterPolls (s : State) : Nat → State
  | 0 => s
  | k + 1 => pollOnce (script.answer k) (afterPolls s k)

end Script

/-- What happens from one poll to another one, with sleeps between the polls. -/
def polls (interval : Document) : Nat → List Event
  | 0 => []
  | k + 1 => .query :: (List.replicate k [.sleep interval, .query]).flatten

/-- How a wait that has polled `m` times ends with its `n`-th poll, of `limit` at most. It goes on
as long as something is pending and nobody calls it off. -/
structure Script.Ends (script : Script) (s : State) (m limit n : Nat)
    (result : Except Failure Unit) : Prop where
  later : m < n
  within : n ≤ limit
  wentOn : ∀ j, m < j → j < n →
    (script.afterPolls s j).pending ≠ [] ∧ script.calledOff j = false
  returns_iff : result = .ok () ↔ (script.afterPolls s n).pending = []
  raises : result ≠ .ok () →
    result = .error (.pendingTooLong (script.afterPolls s n).pendingIds) ∧
      (n = limit ∨ script.calledOff n = true)

theorem pollOnce_eq {s : State} {outstanding : List Int} (h : s.Disciplined outstanding)
    (answer : Except Failure FragmentLogs) : pollOnce answer s = s.polled answer := by
  unfold pollOnce
  by_cases hpending : s.pending = []
  · have hids : s.pendingIds.isEmpty = true := by
      rw [State.pendingIds_isEmpty, hpending]
      rfl
    rw [effect_poll_idle _ hids]
    cases answer with
    | error e => rfl
    | ok logs =>
        unfold State.polled
        rw [List.isEmpty_iff.mp hids]
        rfl
  · rw [effect_poll_answered (d := ⟨s, ()⟩) (answering answer) h hpending]
    rfl

theorem queries_append (before after : List Event) :
    queries (before ++ after) = queries before + queries after :=
  List.countP_append

theorem polls_succ (interval : Document) {k : Nat} (hk : 1 ≤ k) :
    polls interval (k + 1) = .query :: .sleep interval :: polls interval k := by
  obtain ⟨j, rfl⟩ := Nat.exists_eq_add_of_le' hk
  simp [polls, List.replicate_succ]

namespace Script

variable {script : Script} {s : State} {outstanding : List Int}

theorem afterPolls_disciplined (script : Script) (h : s.Disciplined outstanding) (k : Nat) :
    (script.afterPolls s k).Disciplined outstanding := by
  induction k with
  | zero => exact h
  | succ k ih =>
      show (pollOnce _ _).Disciplined outstanding
      rw [pollOnce_eq ih]
      exact State.polled_disciplined ih _

/-- After `m` polls, one more round of the script: with its poll the wait ends, or it goes on. -/
theorem round_cases (interval : Document) (budget : Int) (isLast : Bool)
    (again : Action (Desk (List Event)) Unit) (h : s.Disciplined outstanding) {m limit : Nat}
    {events : List Event} (hpending : (script.afterPolls s m).pending ≠ [])
    (hevents : queries events = m) (hlimit : m < limit) (hlast : isLast = true → m + 1 = limit) :
    (∃ result,
      (round script.client surroundings (script.patience interval budget) isLast again).effect
          ⟨script.afterPolls s m, events⟩ =
        (result, ⟨script.afterPolls s (m + 1), events ++ [.query]⟩) ∧
      script.Ends s m limit (m + 1) result) ∨
    isLast = false ∧ (script.afterPolls s (m + 1)).pending ≠ [] ∧
      script.calledOff (m + 1) = false ∧
      (round script.client surroundings (script.patience interval budget) isLast again).effect
          ⟨script.afterPolls s m, events⟩ =
        again.effect ⟨script.afterPolls s (m + 1), events ++ [.query] ++ [.sleep interval]⟩ := by
  have hdisciplined := script.afterPolls_disciplined h m
  have hasked : script.client.fragmentLogs.effect events =
      (script.answer m, events ++ [.query]) := by
    rw [← hevents]
    rfl
  have hdesk : polledDesk script.client ⟨script.afterPolls s m, events⟩ =
      ⟨script.afterPolls s (m + 1), events ++ [.query]⟩ := by
    show _ = (⟨pollOnce _ _, _⟩ : Desk (List Event))
    unfold polledDesk
    rw [hasked, pollOnce_eq hdisciplined]
  have hcancelled : (script.patience interval budget).cancelled (events ++ [.query]) =
      script.calledOff (m + 1) := by
    refine congrArg script.calledOff ?_
    rw [queries_append, hevents]
    rfl
  have hanswer : ∀ e, (script.client.fragmentLogs.effect events).1 = .error e →
      e.isBackend = true := by
    rw [hasked]
    exact script.refuses m
  have hround := effect_round surroundings (script.patience interval budget) isLast again
    (d := ⟨script.afterPolls s m, events⟩) hdisciplined hpending hanswer
  rw [hdesk] at hround
  dsimp only at hround
  rw [hcancelled] at hround
  -- nothing lies between one poll and the next one
  have hbetween : ∀ j, m < j → j < m + 1 →
      (script.afterPolls s j).pending ≠ [] ∧ script.calledOff j = false := by
    intro j hj hj'
    omega
  by_cases hdone : (script.afterPolls s (m + 1)).pending = []
  · left
    rw [if_pos hdone] at hround
    refine ⟨.ok (), hround, Nat.lt_succ_self m, hlimit, hbetween, ?_, ?_⟩
    · exact iff_of_true rfl hdone
    · exact fun hraised => absurd rfl hraised
  · rw [if_neg hdone] at hround
    by_cases hstop : isLast = true ∨ script.calledOff (m + 1) = true
    · left
      rw [if_pos hstop] at hround
      refine ⟨_, hround, Nat.lt_succ_self m, hlimit, hbetween, ?_, ?_⟩
      · exact iff_of_false (by rintro ⟨⟩) hdone
      · exact fun _ => ⟨rfl, hstop.imp hlast id⟩
    · right
      rw [if_neg hstop] at hround
      rw [not_or, Bool.not_eq_true, Bool.not_eq_true] at hstop
      exact ⟨hstop.1, hdone, hstop.2, hround⟩

/-- A wait that goes on after its poll `m` ends as it does when it goes on after the next one. -/
theorem Ends.before {m limit n : Nat} {result : Except Failure Unit}
    (h : script.Ends s (m + 1) limit n result)
    (hpending : (script.afterPolls s (m + 1)).pending ≠ [])
    (hcalled : script.calledOff (m + 1) = false) : script.Ends s m limit n result where
  later := Nat.lt_of_succ_lt h.later
  within := h.within
  wentOn := by
    intro j hj hjn
    obtain rfl | hlt := Nat.eq_or_lt_of_le (Nat.succ_le_of_lt hj)
    · exact ⟨hpending, hcalled⟩
    · exact h.wentOn j hlt hjn
  returns_iff := h.returns_iff
  raises := h.raises

/-- **How a wait goes on.** After `m` polls that left something pending, with a number of sleeps
left, the wait ends with a later poll. -/
theorem waitWith_ends (script : Script) (interval : Document) (budget : Int)
    (h : s.Disciplined outstanding) (sleeps : Nat) {m limit : Nat} {events : List Event}
    (hpending : (script.afterPolls s m).pending ≠ []) (hevents : queries events = m)
    (hlimit : m + sleeps + 1 = limit) :
    ∃ n result,
      (waitWith script.client surroundings (script.patience interval budget) sleeps).effect
          ⟨script.afterPolls s m, events⟩ =
        (result, ⟨script.afterPolls s n, events ++ polls interval (n - m)⟩) ∧
      script.Ends s m limit n result := by
  induction sleeps generalizing m events with
  | zero =>
      have hlt : m < limit := by omega
      rcases round_cases interval budget true (pure ()) h hpending hevents hlt
        fun _ => hlimit with ⟨result, hround, hends⟩ | ⟨hlast, _⟩
      · refine ⟨m + 1, result, ?_, hends⟩
        rw [Nat.add_sub_cancel_left]
        exact hround
      · cases hlast
  | succ sleeps ih =>
      have hlt : m < limit := by omega
      rcases round_cases interval budget false
          (waitWith script.client surroundings (script.patience interval budget) sleeps)
          h hpending hevents hlt (by rintro ⟨⟩) with
        ⟨result, hround, hends⟩ | ⟨_, hstill, hcalled, hround⟩
      · refine ⟨m + 1, result, ?_, hends⟩
        rw [Nat.add_sub_cancel_left]
        exact hround
      · have hcount : queries (events ++ [.query] ++ [.sleep interval]) = m + 1 := by
          rw [queries_append, queries_append, hevents]
          rfl
        obtain ⟨n, result, hrest, hends⟩ := ih hstill hcount (by omega)
        refine ⟨n, result, ?_, hends.before hstill hcalled⟩
        have hlater := hends.later
        have hsteps : n - m = (n - (m + 1)) + 1 := by omega
        rw [hsteps, polls_succ interval (Nat.le_sub_of_add_le' hlater)]
        refine hround.trans (hrest.trans ?_)
        simp

end Script

/-- **Waiting.** In every session, whatever the node answers to the queries of the log, whatever
the budget and whenever the wait is called off: with nothing pending the wait does nothing.
Otherwise it ends with its `k`-th poll, having slept between its polls and done nothing else, and
the wallet is as `k` polls leave it. It returns if that poll has left nothing pending; if not, it
names what is still pending, and the budget is used up or the wait was called off. -/
theorem wait_ends_with_poll {ω : Type} {c : Controller ω} (hc : c.Reached) (script : Script)
    (interval : Document) (budget : Int) :
    (c.wallet.pending = [] → script.run interval budget c.wallet = (.ok (), ⟨c.wallet, []⟩)) ∧
    (c.wallet.pending ≠ [] → ∃ (k : Nat) (result : Except Failure Unit),
      1 ≤ k ∧ (k : Int) ≤ max budget 0 + 1 ∧
      script.run interval budget c.wallet =
        (result, ⟨script.afterPolls c.wallet k, polls interval k⟩) ∧
      script.Ends c.wallet 0 (budget.toNat + 1) k result) := by
  constructor
  · exact fun hnone => effect_wait_idle script.client _ _ (d := ⟨c.wallet, []⟩) hnone
  · intro hpending
    have hlimit : 0 + budget.toNat + 1 = budget.toNat + 1 := by rw [Nat.zero_add]
    obtain ⟨k, result, hwait, hends⟩ := script.waitWith_ends interval budget hc.disciplined
      budget.toNat (m := 0) hpending (rfl : queries [] = 0) hlimit
    have hwithin := hends.within
    refine ⟨k, result, hends.later, by omega, ?_, hends⟩
    exact (effect_wait script.client _ _ hpending).trans hwait

/-- The node has no log at first, and then one with a fragment in a block. -/
def lateLog : Script where
  answer
    | 0 => .error (.backend "logs unavailable" (some 503) "")
    | _ => .ok [{ id := Text.ofChars ['a'], status := .inABlock none "" }]
  calledOff _ := false
  refuses := by
    rintro (_ | n) e ⟨⟩
    rfl

/-- A session in which that fragment was submitted. -/
def oneSent : Controller Unit :=
  ((Operation.sendFragment [1]).perform.effect Submission.repeated).2

/-- The wait sleeps once, and its second poll finds the fragment. -/
theorem wait_ends_with_poll_second :
    oneSent.Reached ∧ oneSent.wallet.pendingIds = [Text.ofChars ['a']] ∧
      lateLog.run (.int 7) 5 oneSent.wallet =
        (.ok (), ⟨lateLog.afterPolls oneSent.wallet 2, [.query, .sleep (.int 7), .query]⟩) ∧
      (lateLog.afterPolls oneSent.wallet 2).pending = [] := by
  have hreached : oneSent.Reached := .operation _ (.fresh ⟨rfl, rfl⟩)
  have hpending : oneSent.wallet.pending ≠ [] := by decide
  have hfirst : (lateLog.afterPolls oneSent.wallet 1).pending ≠ [] := by decide
  have hsecond : (lateLog.afterPolls oneSent.wallet 2).pending = [] := by decide
  obtain ⟨k, result, hone, _, hrun, hends⟩ :=
    (wait_ends_with_poll hreached lateLog (.int 7) 5).2 hpending
  -- the first poll leaves the fragment pending, and nothing can follow the second one
  have hk : k = 2 := by
    by_contra hne
    obtain rfl | hlater : k = 1 ∨ 2 < k := by omega
    · have hraised := (hends.raises fun hok => hfirst (hends.returns_iff.mp hok)).2
      exact absurd hraised (by decide)
    · exact (hends.wentOn 2 (by omega) hlater).1 hsecond
  subst hk
  rw [hends.returns_iff.mpr hsecond] at hrun
  exact ⟨hreached, rfl, hrun, hsecond⟩

end Settlement

end BallotWallet.Wallet
