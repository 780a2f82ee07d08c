import BallotWallet.Proofs.Outcome
import BallotWallet.Wallet.Controller

/-!
# Sessions

Every operation of a controller does one of a few things to the wallet: it leaves the wallet
alone, submits what the caller hands over or what it builds itself, takes over an account state,
or settles pending fragments. From this follows what holds in the whole of a session.
-/

namespace BallotWallet.Wallet

open BallotWallet.Action

/-! ## Settling fragments -/

/-- A wallet settles fragments one after another, in blocks or by rejection. -/
inductive State.Settles (s : State) : State → Prop
  | refl : Settles s s
  | confirm {t : State} (id : Text) : Settles s t → Settles s (t.confirm id)
  | rollback {t : State} (id : Text) : Settles s t → Settles s (t.rollback id).2

namespace State.Settles

variable {s t : State}

theorem disciplined (h : s.Settles t) {outstanding : List Int}
    (hs : s.Disciplined outstanding) : t.Disciplined outstanding := by
  induction h with
  | refl => exact hs
  | confirm id _ ih => exact confirm_disciplined ih
  | rollback id _ ih => exact rollback_disciplined ih

/-- What is still pending was pending before, with the same reservation. -/
theorem mem_pending (h : s.Settles t) (hs : s.Disciplined []) {p : Text × Reservation}
    (hp : p ∈ t.pending) : p ∈ s.pending := by
  induction h with
  | refl => exact hp
  | confirm id _ ih =>
      rw [State.confirm_pending] at hp
      exact ih (State.mem_forget.mp hp).1
  | rollback id h ih =>
      rw [State.rollback_pending (h.disciplined hs)] at hp
      exact ih (State.mem_forget.mp hp).1

theorem foldl_confirm (h : s.Settles t) (ids : List Text) :
    s.Settles (ids.foldl (fun s id => s.confirm id) t) := by
  induction ids generalizing t with
  | nil => exact h
  | cons id ids ih => exact ih (h.confirm id)

end State.Settles

namespace Settlement

variable {ω : Type} {client : Ledger.Client ω} {surroundings : Surroundings ω}
  {P : Desk ω → Prop}

/-- What holds at a desk whatever a wait does there: it asks for the fragment log, settles
fragments and sleeps. -/
structure KeptByWaiting (client : Ledger.Client ω) (surroundings : Surroundings ω)
    (P : Desk ω → Prop) : Prop where
  ask : (Desk.request client.fragmentLogs).Keeps P
  confirm : ∀ id, (Desk.book (Book.confirm id)).Keeps P
  rollback : ∀ id, (Desk.book (Book.rollback id)).Keeps P
  sleep : ∀ interval d, P d → P { d with world := surroundings.sleep interval d.world }

theorem KeptByWaiting.settle (h : KeptByWaiting client surroundings P) (logs : FragmentLogs)
    (settled : Settled) (id : Text) :
    (settle logs settled id : Action (Desk ω) Settled).Keeps P := by
  unfold Settlement.settle
  split
  · exact keeps_bind (h.confirm id) fun _ => keeps_pure _
  · exact keeps_bind (h.rollback id) fun _ => keeps_bind (keeps_report _) fun _ => keeps_pure _
  · exact keeps_pure _

theorem KeptByWaiting.settleEach (h : KeptByWaiting client surroundings P) (logs : FragmentLogs)
    (settled : Settled) (ids : List Text) :
    (settleEach logs settled ids : Action (Desk ω) Settled).Keeps P := by
  induction ids generalizing settled with
  | nil => exact keeps_pure _
  | cons id ids ih =>
      unfold Settlement.settleEach
      exact keeps_bind (h.settle logs settled id) ih

theorem KeptByWaiting.poll (h : KeptByWaiting client surroundings P) :
    (poll client).Keeps P := by
  unfold Settlement.poll
  refine keeps_bind (fun _ h => h) fun wallet => ?_
  dsimp only
  split
  · exact keeps_pure _
  · refine keeps_bind h.ask fun logs => ?_
    refine keeps_bind (h.settleEach logs {} _) fun settled => ?_
    split
    · refine keeps_bind (fun _ h => h) fun after => ?_
      exact keeps_bind (keeps_report _) fun _ => keeps_pure _
    · exact keeps_pure _

theorem KeptByWaiting.round (h : KeptByWaiting client surroundings P) (patience : Patience ω)
    (isLast : Bool) {again : Action (Desk ω) Unit} (hagain : again.Keeps P) :
    (round client surroundings patience isLast again).Keeps P := by
  have hpoll : (pollOrReport client).Keeps P := by
    unfold pollOrReport
    refine keeps_orOnFailure (keeps_bind h.poll fun _ => keeps_pure _) fun e => ?_
    split
    · exact keeps_bind (keeps_throw e) fun _ => keeps_report _
    · exact keeps_report _
  unfold Settlement.round
  refine keeps_bind hpoll fun _ => ?_
  intro d hd
  rw [effect_bind_ok (effect_get d)]
  split
  · exact hd
  · split
    · exact hd
    · rw [effect_bind_ok (effect_set d _)]
      exact hagain _ (h.sleep patience.interval d hd)

theorem KeptByWaiting.waitWith (h : KeptByWaiting client surroundings P) (patience : Patience ω)
    (budget : Nat) : (waitWith client surroundings patience budget).Keeps P := by
  induction budget with
  | zero => exact h.round patience true (keeps_pure _)
  | succ budget ih => exact h.round patience false ih

theorem KeptByWaiting.wait (h : KeptByWaiting client surroundings P) (patience : Patience ω) :
    (wait client surroundings patience).Keeps P := by
  unfold Settlement.wait
  refine keeps_bind (fun _ h => h) fun wallet => ?_
  split
  · exact keeps_pure _
  · exact h.waitWith patience _

/-- The wallet has settled fragments since it was in a state. -/
def Since (s : State) (d : Desk ω) : Prop :=
  s.Settles d.wallet

theorem kept_since (s : State) (client : Ledger.Client ω) (surroundings : Surroundings ω) :
    KeptByWaiting client surroundings (Since s) where
  ask := fun _ h => h
  confirm := by
    intro id d h
    rw [Desk.effect_book, Book.effect_confirm]
    exact State.Settles.confirm id h
  rollback := by
    intro id d h
    rw [Desk.effect_book, Book.effect_rollback]
    exact State.Settles.rollback id h
  sleep := fun _ _ h => h

end Settlement

/-! ## Operations -/

namespace Controller

variable {ω α β : Type} {c : Controller ω} {session : Session}

/-- An action that may change the world and nothing else. -/
def Asks (a : Action (Controller ω) α) : Prop :=
  ∀ c, ∃ world, (a.effect c).2 = { c with world := world }

theorem asks_pure (x : α) : Asks (pure x : Action (Controller ω) α) :=
  fun c => ⟨c.world, rfl⟩

theorem asks_throw (e : Failure) : Asks (throw e : Action (Controller ω) α) :=
  fun c => ⟨c.world, rfl⟩

theorem asks_bind {a : Action (Controller ω) α} {f : α → Action (Controller ω) β}
    (ha : Asks a) (hf : ∀ x, Asks (f x)) : Asks (a >>= f) := by
  intro c
  obtain ⟨world, hworld⟩ := ha c
  rw [effect_bind]
  rcases h : a.effect c with ⟨⟨e⟩ | ⟨x⟩, c'⟩
  · rw [h] at hworld
    exact ⟨world, hworld⟩
  · rw [h] at hworld
    obtain rfl : c' = _ := hworld
    exact hf x _

theorem asks_ask (request : Ledger.Client ω → Action ω α) : Asks (ask request) :=
  fun _ => ⟨_, rfl⟩

theorem effect_requireSession (h : c.session = some session) (operation : String) :
    (requireSession operation).effect c = (.ok session, c) := by
  unfold requireSession
  rw [effect_bind_ok (effect_get c), h]
  rfl

theorem effect_requireSession_none (h : c.session = none) (operation : String) :
    (requireSession operation).effect c = (.error (.notInitialized operation), c) := by
  unfold requireSession
  rw [effect_bind_ok (effect_get c), h]
  rfl

theorem asks_requireSession (operation : String) :
    Asks (requireSession operation : Action (Controller ω) Session) := by
  intro c
  obtain h | ⟨session, h⟩ := Option.eq_none_or_eq_some c.session
  · exact ⟨c.world, congrArg Prod.snd (effect_requireSession_none h operation)⟩
  · exact ⟨c.world, congrArg Prod.snd (effect_requireSession h operation)⟩

theorem asks_proposals : Asks (proposals : Action (Controller ω) (List Proposal)) :=
  asks_bind (asks_requireSession _) fun _ => asks_ask _

theorem asks_accountState : Asks (accountState : Action (Controller ω) AccountSnapshot) :=
  asks_bind (asks_requireSession _) fun _ => asks_ask _

theorem asks_findProposal (id : Text) :
    Asks (findProposal id : Action (Controller ω) Proposal) := by
  unfold findProposal
  refine asks_bind (asks_requireSession _) fun _ => asks_bind asks_proposals fun ps => ?_
  split
  · exact asks_pure _
  · exact asks_throw _

theorem asks_resolveVotes (known : Option (List Proposal)) (votes : List (Named × Choice)) :
    Asks (resolveVotes known votes : Action (Controller ω) (List (Proposal × Choice))) := by
  induction votes generalizing known with
  | nil => exact asks_pure _
  | cons vote rest ih =>
      obtain ⟨proposal, choice⟩ := vote
      cases proposal with
      | proposal p => exact asks_bind (ih known) fun _ => asks_pure _
      | id t =>
          unfold resolveVotes
          -- the proposals are asked for unless they are known already
          cases known with
          | none =>
              refine asks_bind asks_proposals fun ps => ?_
              dsimp only
              split
              · exact asks_throw _
              · exact asks_bind (ih _) fun _ => asks_pure _
          | some ps =>
              refine asks_bind (asks_pure ps) fun ps => ?_
              dsimp only
              split
              · exact asks_throw _
              · exact asks_bind (ih _) fun _ => asks_pure _

/-- What the operations of the session have in common. -/
def officeOf (c : Controller ω) (session : Session) : Office ω :=
  ⟨session.identity, session.settings, c.client, c.surroundings⟩

theorem effect_atDesk (a : Action (Desk ω) α) (c : Controller ω) :
    (atDesk a).effect c =
      ((a.effect c.desk).1, { c with
        wallet := (a.effect c.desk).2.wallet
        world := (a.effect c.desk).2.world }) :=
  rfl

end Controller

/-- An operation of a controller that acts on the wallet. -/
inductive Operation (ω : Type) where
  | transfer (destination : Text) (value : Int) (window : Option ValidUntil)
  | vote (proposal : Controller.Named) (choice : Choice) (window : Option ValidUntil)
  | voteFor (votePlan : Text) (index : Int) (choice : Choice) (window : Option ValidUntil)
  | votesBatch (votes : List (Controller.Named × Choice)) (window : Option ValidUntil)
  | sendFragment (fragment : Bytes)
  | sendFragments (fragments : List Bytes)
  | refreshState
  | confirmTransaction (id : Text)
  | removePendingTransaction (id : Text)
  | confirmAllTransactions
  | waitForPending (interval : Option Document) (budget : Option Int) (cancelled : ω → Bool)
  | switchClient (client : Ledger.Client ω)

namespace Operation

variable {ω : Type}

/-- Carries an operation out and yields the identifiers of the fragments that it submitted. -/
def perform : Operation ω → Action (Controller ω) (List Text)
  | transfer destination value window =>
    ([·]) <$> Controller.transfer destination value window
  | vote proposal choice window => ([·]) <$> Controller.vote proposal choice window
  | voteFor votePlan index choice window =>
    ([·]) <$> Controller.voteFor votePlan index choice window
  | votesBatch votes window => Controller.votesBatch votes window
  | sendFragment fragment => ([·]) <$> Controller.sendFragment fragment
  | sendFragments fragments => Controller.sendFragments fragments
  | refreshState => (fun _ => []) <$> Controller.refreshState
  | confirmTransaction id => (fun _ => []) <$> Controller.confirmTransaction id
  | removePendingTransaction id => (fun _ => []) <$> Controller.removePendingTransaction id
  | confirmAllTransactions => (fun _ => []) <$> Controller.confirmAllTransactions
  | waitForPending interval budget cancelled =>
    (fun _ => []) <$> Controller.waitForPending interval budget cancelled
  | switchClient client => (fun _ => []) <$> Controller.switchClient client

/-- Whether the operation builds the transactions that it submits. -/
def builds : Operation ω → Bool
  | transfer .. | vote .. | voteFor .. | votesBatch .. => true
  | _ => false

end Operation

namespace Controller

variable {ω α : Type} {c : Controller ω} {session : Session}

/-- What an operation does to a controller. The world may change before a submission, as the node
may be asked for proposals first. -/
inductive Transition (c : Controller ω) (op : Operation ω) :
    Except Failure (List Text) → Controller ω → Prop
  | quiet {result : Except Failure (List Text)} (world : ω) :
      (∀ ids, result = .ok ids → ids = []) → Transition c op result { c with world := world }
  | switched {client : Ledger.Client ω} :
      op = .switchClient client → Transition c op (.ok []) { c with client := client }
  | built {session : Session} {world : ω} {result : Except Failure (List Text)} {d : Desk ω} :
      op.builds = true → c.session = some session →
      Submission.Outcome (c.officeOf session) ⟨c.wallet, world⟩ result d →
      Transition c op result { c with wallet := d.wallet, world := d.world }
  | raw {fragments : List Bytes} {rs : List (Option Reservation)}
      {request : Action ω (List Text)} {result : Except Failure (List Text)} {wallet : State} :
      op.builds = false → Submission.Request c.client fragments request →
      rs.length ≤ fragments.length → rs.filterMap id = [] →
      Submission.Ended c.wallet c.wallet fragments.length rs (request.effect c.world).1 result
        wallet →
      Transition c op result { c with wallet := wallet, world := (request.effect c.world).2 }
  | refreshed (snapshot : AccountSnapshot) (world : ω) :
      op = .refreshState → (accountState.effect c).1 = .ok snapshot →
      Transition c op (.ok []) { c with wallet := c.wallet.refresh snapshot, world := world }
  | settled {result : Except Failure (List Text)} {wallet : State} (world : ω) :
      (∀ ids, result = .ok ids → ids = []) → c.wallet.Settles wallet →
      Transition c op result { c with wallet := wallet, world := world }

/-- An operation that needs a session fails without one. -/
theorem transition_in_session {op : Operation ω} {operation : String}
    {f : Session → Action (Controller ω) (List Text)}
    (hf : ∀ session, c.session = some session →
      Transition c op ((f session).effect c).1 ((f session).effect c).2) :
    Transition c op ((requireSession operation >>= f).effect c).1
      ((requireSession operation >>= f).effect c).2 := by
  obtain h | ⟨session, h⟩ := Option.eq_none_or_eq_some c.session
  · rw [effect_bind_error (effect_requireSession_none h operation)]
    exact .quiet _ (by rintro _ ⟨⟩)
  · rw [effect_bind_ok (effect_requireSession h operation)]
    exact hf session h

/-- What comes after a question to the node. -/
theorem transition_after_asking {op : Operation ω} {a : Action (Controller ω) α} (ha : Asks a)
    {f : α → Action (Controller ω) (List Text)}
    (hf : ∀ x world, Transition c op ((f x).effect { c with world := world }).1
      ((f x).effect { c with world := world }).2) :
    Transition c op ((a >>= f).effect c).1 ((a >>= f).effect c).2 := by
  obtain ⟨world, hworld⟩ := ha c
  rw [effect_bind]
  rcases h : a.effect c with ⟨⟨e⟩ | ⟨x⟩, c'⟩
  · rw [h] at hworld
    obtain rfl : c' = _ := hworld
    exact .quiet _ (by rintro _ ⟨⟩)
  · rw [h] at hworld
    obtain rfl : c' = _ := hworld
    exact hf x world

theorem map_bind {β γ : Type} (g : β → γ) (a : Action (Controller ω) α)
    (f : α → Action (Controller ω) β) :
    (g <$> (a >>= f)).effect c = (a >>= fun x => g <$> f x).effect c := by
  rw [effect_map, effect_bind, effect_bind]
  rcases a.effect c with ⟨⟨e⟩ | ⟨x⟩, c'⟩
  · rfl
  · exact (effect_map g (f x) c').symm

/-- What a vote in a session does, whatever was asked before it. -/
theorem cast_transition {op : Operation ω} (hop : op.builds = true)
    (hsession : c.session = some session) (h : c.wallet.Disciplined []) (proposal : Proposal)
    (choice : Choice) (window : Option ValidUntil) (world : ω) :
    Transition c op
      ((([·]) <$> cast session proposal choice window).effect { c with world := world }).1
      ((([·]) <$> cast session proposal choice window).effect { c with world := world }).2 := by
  have hout := Submission.vote_outcome (d := ⟨c.wallet, world⟩) h (c.officeOf session) proposal
    choice (window.or c.options.validUntil)
  rw [effect_map]
  exact .built hop hsession hout

theorem map_atDesk {β : Type} (g : α → β) (a : Action (Desk ω) α) (c : Controller ω) :
    (g <$> atDesk a).effect c = (atDesk (g <$> a)).effect c := by
  rw [effect_map, effect_atDesk, effect_atDesk, effect_map]

/-- What submitting without a reservation does. -/
theorem raw_transition {op : Operation ω} (hop : op.builds = false) {fragments : List Bytes}
    {rs : List (Option Reservation)} {request : Action ω (List Text)}
    {a : Action (Desk ω) (List Text)} (hrequest : Submission.Request c.client fragments request)
    (hlen : rs.length ≤ fragments.length) (hnone : rs.filterMap id = [])
    (hended : Submission.Ended c.wallet c.wallet fragments.length rs (request.effect c.world).1
      (a.effect c.desk).1 (a.effect c.desk).2.wallet)
    (hworld : (a.effect c.desk).2.world = (request.effect c.world).2) :
    Transition c op ((atDesk a).effect c).1 ((atDesk a).effect c).2 := by
  rw [effect_atDesk, hworld]
  exact .raw hop hrequest hlen hnone hended

theorem map_nil_ok {r : Except Failure α} {ids : List Text}
    (h : r.map (fun _ => ([] : List Text)) = .ok ids) : ids = [] := by
  cases r with
  | error e => cases h
  | ok x =>
      cases h
      rfl

/-- What settling at the desk does. -/
theorem settled_transition (op : Operation ω) {a : Action (Desk ω) α}
    (ha : a.Keeps (Settlement.Since c.wallet)) :
    Transition c op (((fun _ => ([] : List Text)) <$> atDesk a).effect c).1
      (((fun _ => ([] : List Text)) <$> atDesk a).effect c).2 := by
  rw [effect_map]
  exact .settled _ (fun _ h => map_nil_ok h) (ha c.desk .refl)

theorem vote_transition (h : c.wallet.Disciplined []) (proposal : Named) (choice : Choice)
    (window : Option ValidUntil) :
    Transition c (.vote proposal choice window)
      ((Operation.vote proposal choice window).perform.effect c).1
      ((Operation.vote proposal choice window).perform.effect c).2 := by
  unfold Operation.perform Controller.vote
  rw [map_bind]
  refine transition_in_session fun session hsession => ?_
  cases proposal with
  | id t =>
      dsimp only
      rw [map_bind]
      exact transition_after_asking (asks_findProposal t)
        fun p world => cast_transition rfl hsession h p choice window world
  | proposal p => exact cast_transition rfl hsession h p choice window c.world

theorem sendFragment_transition (c : Controller ω) (fragment : Bytes) :
    Transition c (.sendFragment fragment) ((Operation.sendFragment fragment).perform.effect c).1
      ((Operation.sendFragment fragment).perform.effect c).2 := by
  have hended := Submission.send_ended c.client c.desk fragment (r := none) rfl
  unfold Operation.perform Controller.sendFragment
  rw [map_bind]
  refine transition_in_session fun session _ => ?_
  rw [map_bind, effect_bind_ok (effect_get c), map_atDesk]
  refine raw_transition rfl (.one fragment) (Nat.zero_le _) (rfl : [].filterMap id = []) ?_ ?_
  · rw [effect_map, effect_map]
    exact hended.1
  · rw [effect_map, effect_map]
    exact hended.2

/-- The node is asked for the account state, and the wallet takes it over if there is an answer. -/
theorem refreshState_transition (c : Controller ω) :
    Transition c .refreshState (Operation.refreshState.perform.effect c).1
      (Operation.refreshState.perform.effect c).2 := by
  unfold Operation.perform Controller.refreshState
  rw [map_bind]
  refine transition_in_session fun session _ => ?_
  rw [map_bind]
  -- whether the node answers or not, only the world has changed by then
  obtain ⟨world, hworld⟩ := asks_accountState c
  rw [effect_bind]
  rcases hask : accountState.effect c with ⟨⟨e⟩ | ⟨snapshot⟩, c'⟩
  · rw [hask] at hworld
    obtain rfl : c' = _ := hworld
    exact .quiet _ (by rintro _ ⟨⟩)
  · rw [hask] at hworld
    obtain rfl : c' = _ := hworld
    have hbook := Book.effect_refresh snapshot c.wallet
    dsimp only
    rw [map_bind, effect_bind_ok (by rw [effect_atDesk, Desk.effect_book, desk, hbook])]
    exact .refreshed snapshot world rfl (congrArg Prod.fst hask)

theorem removePending_transition (c : Controller ω) (id : Text) :
    Transition c (.removePendingTransaction id)
      ((Operation.removePendingTransaction id).perform.effect c).1
      ((Operation.removePendingTransaction id).perform.effect c).2 := by
  have hkeeps : (Desk.book (Book.rollback id) : Action (Desk ω) _).Keeps
      (Settlement.Since c.wallet) := by
    intro d hd
    rw [Desk.effect_book, Book.effect_rollback]
    exact State.Settles.rollback id hd
  unfold Operation.perform Controller.removePendingTransaction
  rw [map_bind]
  refine transition_in_session fun session _ => ?_
  rw [map_bind]
  have hsettled := settled_transition (.removePendingTransaction id) hkeeps
  rw [effect_bind]
  rcases hroll : (atDesk (Desk.book (Book.rollback id))).effect c with ⟨⟨e⟩ | ⟨r⟩, c'⟩
  · rw [effect_map, hroll] at hsettled
    exact hsettled
  · rw [effect_map, hroll] at hsettled
    exact hsettled

theorem effect_switchClient (client : Ledger.Client ω) (c : Controller ω) :
    (switchClient client).effect c = (.ok (), { c with client := client }) := by
  unfold switchClient
  rw [effect_bind_ok (effect_get c)]
  dsimp only
  split <;> rfl

theorem switchClient_transition (c : Controller ω) (client : Ledger.Client ω) :
    Transition c (.switchClient client) ((Operation.switchClient client).perform.effect c).1
      ((Operation.switchClient client).perform.effect c).2 := by
  unfold Operation.perform
  rw [effect_map, effect_switchClient]
  exact .switched rfl

/-- **What operations do.** In a session whose wallet keeps the counter discipline, every
operation makes one of the transitions, whatever the node answers. -/
theorem perform_transition (h : c.wallet.Disciplined []) (op : Operation ω) :
    Transition c op (op.perform.effect c).1 (op.perform.effect c).2 := by
  cases op with
  | transfer destination value window =>
      unfold Operation.perform Controller.transfer
      rw [map_bind]
      refine transition_in_session fun session hsession => ?_
      have hout := Submission.transfer_outcome (d := c.desk) h (c.officeOf session) destination
        value (window.or c.options.validUntil)
      rw [effect_map]
      exact .built rfl hsession hout
  | vote proposal choice window => exact vote_transition h proposal choice window
  | voteFor votePlan index choice window =>
      unfold Operation.perform Controller.voteFor
      rw [map_bind]
      refine transition_in_session fun session hsession => ?_
      rw [map_bind]
      refine transition_after_asking asks_proposals fun ps world => ?_
      split
      · exact cast_transition rfl hsession h _ choice window world
      · exact .quiet _ (by rintro _ ⟨⟩)
  | votesBatch votes window =>
      refine transition_in_session fun session hsession => ?_
      refine transition_after_asking (asks_resolveVotes none votes) fun items world => ?_
      have hout := Submission.voteBatch_outcome (d := ⟨c.wallet, world⟩) h (c.officeOf session)
        items (window.or c.options.validUntil)
      exact .built rfl hsession hout
  | sendFragment fragment => exact sendFragment_transition c fragment
  | sendFragments fragments =>
      have hended := Submission.sendMany_ended c.client c.desk fragments (Or.inl rfl) rfl
      refine transition_in_session fun session _ => ?_
      exact raw_transition rfl (.many fragments) (Nat.zero_le _) rfl hended.1 hended.2
  | refreshState => exact refreshState_transition c
  | confirmTransaction id =>
      unfold Operation.perform Controller.confirmTransaction
      rw [map_bind]
      refine transition_in_session fun session _ => settled_transition _ fun d hd => ?_
      rw [Desk.effect_book, Book.effect_confirm]
      exact State.Settles.confirm id hd
  | removePendingTransaction id => exact removePending_transition c id
  | confirmAllTransactions =>
      unfold Operation.perform Controller.confirmAllTransactions
      rw [map_bind]
      refine transition_in_session fun session _ => settled_transition _ fun d hd => ?_
      rw [Desk.effect_book, Book.effect_confirmAll]
      exact State.Settles.foldl_confirm hd _
  | waitForPending interval budget cancelled =>
      unfold Operation.perform Controller.waitForPending
      rw [map_bind]
      refine transition_in_session fun session _ => ?_
      rw [map_bind, effect_bind_ok (effect_get c)]
      exact settled_transition _ ((Settlement.kept_since c.wallet _ _).wait _)
  | switchClient client => exact switchClient_transition c client

/-! ## In a session -/

theorem Transition.disciplined {op : Operation ω} {result : Except Failure (List Text)}
    {c' : Controller ω} (h : Transition c op result c') (hc : c.wallet.Disciplined []) :
    c'.wallet.Disciplined [] := by
  cases h with
  | quiet world hids => exact hc
  | switched hop => exact hc
  | built hop hsession hout => exact hout.disciplined hc
  | raw hop hrequest hlen hnone hended =>
      refine hended.disciplined hc ?_ hlen
      rw [hnone]
      exact hc
  | refreshed snapshot world => exact State.refresh_disciplined hc snapshot
  | settled world hids hsettles => exact hsettles.disciplined hc

/-- A session that has just begun. -/
structure IsFresh (c : Controller ω) : Prop where
  begun : c.session.isSome = true
  blank : c.wallet = {}

theorem isFresh_of_startSession {identity : Key.Identity} {c' : Controller ω}
    (h : (startSession identity).effect c = (.ok (), c')) : c'.IsFresh := by
  obtain ⟨settings, c₁, _, h⟩ := exists_of_effect_bind h
  obtain ⟨_, c₂, hmodify, h⟩ := exists_of_effect_bind h
  rw [effect_modify] at hmodify
  cases hmodify
  cases h
  exact ⟨rfl, rfl⟩

/-- Recovering a wallet begins a session. -/
theorem isFresh_of_recover {source : Key.Source} {identity : Key.Identity} {c' : Controller ω}
    (h : (recover source).effect c = (.ok identity, c')) : c'.IsFresh := by
  obtain ⟨found, c₁, _, h⟩ := exists_of_effect_bind h
  obtain ⟨_, c₂, hstart, h⟩ := exists_of_effect_bind h
  cases h
  exact isFresh_of_startSession hstart

/-- Generating a wallet begins a session. -/
theorem isFresh_of_generate {count : Int} {entropy : Bytes} {phrase : Text} {c' : Controller ω}
    (h : (generate count entropy).effect c = (.ok phrase, c')) : c'.IsFresh := by
  obtain ⟨words, c₁, _, h⟩ := exists_of_effect_bind h
  obtain ⟨identity, c₂, _, h⟩ := exists_of_effect_bind h
  obtain ⟨_, c₃, hstart, h⟩ := exists_of_effect_bind h
  obtain ⟨_, c₄, hmodify, h⟩ := exists_of_effect_bind h
  have hfresh := isFresh_of_startSession hstart
  rw [effect_modify] at hmodify
  cases hmodify
  cases h
  exact ⟨hfresh.begun, hfresh.blank⟩

/-- What a session comes to by operations of the controller. The world moves on by itself, too. -/
inductive Reached : Controller ω → Prop
  | fresh {c : Controller ω} : c.IsFresh → Reached c
  | operation {c : Controller ω} (op : Operation ω) :
      Reached c → Reached (op.perform.effect c).2
  | world {c : Controller ω} (world : ω) : Reached c → Reached { c with world := world }

/-- Every wallet that a session comes to keeps the counter discipline. -/
theorem Reached.disciplined (h : Reached c) : c.wallet.Disciplined [] := by
  induction h with
  | fresh hfresh =>
      rw [hfresh.blank]
      exact State.fresh_disciplined
  | operation op _ ih => exact (perform_transition ih op).disciplined ih
  | world world _ ih => exact ih

end Controller

end BallotWallet.Wallet
