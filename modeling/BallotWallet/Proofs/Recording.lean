import BallotWallet.Proofs.Starting

/-!
# What a node is asked for

A node is recorded with all that it is asked for. In a session an operation asks only for what
belongs to the session: the state of its account, what can be voted on, the fragment log while it
waits; and it submits nothing but the fragments it is given, or those it signs with the identity
of the session and the counters that the wallet has next.
-/

namespace BallotWallet

/-- What a ledger node may be asked for. -/
inductive Ledger.Question where
  | settings
  | accountState (account : Text)
  | submit (fragment : Bytes)
  | submitAll (fragments : List Bytes)
  | fragmentLogs
  | proposals
  | voteStatuses (account : Text)

namespace Wallet

open BallotWallet.Action

variable {ω α β : Type}

/-! ## Asking the node -/

namespace Controller

variable {session : Session} {c : Controller ω}

/-- A question that a session puts to the node. -/
theorem effect_ask_in_session (hsession : c.session = some session) (name : String)
    (request : Session → Ledger.Client ω → Action ω α) :
    (requireSession name >>= fun session => ask (request session)).effect c =
      (((request session c.client).effect c.world).1,
        { c with world := ((request session c.client).effect c.world).2 }) := by
  rw [effect_bind_ok (effect_requireSession hsession _), effect_ask]

/-- The node is asked for the account of the session. -/
theorem effect_accountState (hsession : c.session = some session) :
    accountState.effect c =
      (((c.client.accountState session.identity.accountId).effect c.world).1,
        { c with world :=
          ((c.client.accountState session.identity.accountId).effect c.world).2 }) :=
  effect_ask_in_session hsession _ fun session client =>
    client.accountState session.identity.accountId

/-- The node is asked for the votes of the account of the session. -/
theorem effect_activeVotes (hsession : c.session = some session) :
    activeVotes.effect c =
      (((c.client.voteStatuses session.identity.accountId).effect c.world).1,
        { c with world :=
          ((c.client.voteStatuses session.identity.accountId).effect c.world).2 }) :=
  effect_ask_in_session hsession _ fun session client =>
    client.voteStatuses session.identity.accountId

theorem effect_proposals (hsession : c.session = some session) :
    proposals.effect c = ((c.client.proposals.effect c.world).1,
      { c with world := (c.client.proposals.effect c.world).2 }) :=
  effect_ask_in_session hsession _ fun _ client => client.proposals

theorem effect_fragmentLogs (hsession : c.session = some session) :
    fragmentLogs.effect c = ((c.client.fragmentLogs.effect c.world).1,
      { c with world := (c.client.fragmentLogs.effect c.world).2 }) :=
  effect_ask_in_session hsession _ fun _ client => client.fragmentLogs

/-- The first proposal with an identifier. -/
def firstWithId? (id : Text) (ps : List Proposal) : Option Proposal :=
  ps.find? (·.id == id)

theorem effect_findProposal (hsession : c.session = some session) (id : Text) :
    (findProposal id).effect c =
      ((c.client.proposals.effect c.world).1.bind fun ps =>
          (firstWithId? id ps).elim (.error (.unknownProposal id)) .ok,
        { c with world := (c.client.proposals.effect c.world).2 }) := by
  unfold findProposal
  rw [effect_bind_ok (effect_requireSession hsession _), effect_bind, effect_proposals hsession]
  rcases (c.client.proposals.effect c.world).1 with e | ps
  · rfl
  · dsimp only [Except.bind, firstWithId?]
    split
    · rename_i p hfound
      rw [hfound]
      rfl
    · rename_i hnone
      rw [hnone]
      rfl

end Controller

/-! ## Recording a node -/

/-- A world, and what the node was asked for in it, the latest question first. -/
structure Recorded (ω : Type) where
  world : ω
  questions : List Ledger.Question

namespace Recorded

/-- An action on the world that asks the node for something. -/
def record (question : Ledger.Question) (a : Action ω α) : Action (Recorded ω) α :=
  a.zoom Recorded.world fun world w => { world := world, questions := question :: w.questions }

/-- The client of a recorded node, which answers as it does without being recorded. -/
def client (node : Ledger.Client ω) : Ledger.Client (Recorded ω) where
  text := node.text
  settings := record .settings node.settings
  accountState := fun account => record (.accountState account) (node.accountState account)
  submit := fun fragment => record (.submit fragment) (node.submit fragment)
  submitAll := fun fragments => record (.submitAll fragments) (node.submitAll fragments)
  fragmentLogs := record .fragmentLogs node.fragmentLogs
  proposals := record .proposals node.proposals
  voteStatuses := fun account => record (.voteStatuses account) (node.voteStatuses account)

/-- What a wallet finds in a recorded world. -/
def surroundings (surroundings : Surroundings ω) : Surroundings (Recorded ω) where
  now := fun w => surroundings.now w.world
  sleep := fun interval w => { w with world := surroundings.sleep interval w.world }

end Recorded

/-- The node was asked for some more, all of which is allowed. -/
def AskedSince (P : Ledger.Question → Prop) (past questions : List Ledger.Question) : Prop :=
  ∃ new, questions = new ++ past ∧ ∀ question ∈ new, P question

namespace AskedSince

variable {P : Ledger.Question → Prop} {past questions : List Ledger.Question}

theorem refl (P : Ledger.Question → Prop) (past : List Ledger.Question) :
    AskedSince P past past :=
  ⟨[], rfl, fun _ h => (List.not_mem_nil h).elim⟩

theorem cons (h : AskedSince P past questions) {question : Ledger.Question}
    (hquestion : P question) : AskedSince P past (question :: questions) := by
  obtain ⟨new, rfl, hnew⟩ := h
  refine ⟨question :: new, rfl, ?_⟩
  intro asked hasked
  rcases List.mem_cons.mp hasked with rfl | hasked
  · exact hquestion
  · exact hnew asked hasked

end AskedSince

/-! ## What operations may ask for -/

namespace Office

variable {office : Office ω} {txs : List Transaction} {rs : List Reservation}

theorem account_of_builds (h : List.Forall₂ office.Builds txs rs) :
    ∀ tx ∈ txs, tx.account = .text office.identity.accountId := by
  induction h with
  | nil =>
      intro tx htx
      cases htx
  | cons hhead _ ih =>
      intro tx htx
      rcases List.mem_cons.mp htx with rfl | htx
      · cases hhead <;> rfl
      · exact ih tx htx

end Office

/-- Transactions of the session's account with the counters that the wallet reserves next for what
they cost. -/
structure SignedNext (session : Session) (s : State) (txs : List Transaction) : Prop where
  account : ∀ tx ∈ txs, tx.account = .text session.identity.accountId
  counters : txs.map (some ·.counter) =
    (s.reservations (txs.map (·.cost))).map (·.counter)

/-- What an operation may ask the node for, in a session with a wallet. -/
inductive Operation.Asks (session : Session) (s : State) (op : Operation ω) :
    Ledger.Question → Prop
  | account : op = .refreshState → Asks session s op (.accountState session.identity.accountId)
  | proposals : op.builds = true → Asks session s op .proposals
  | logs {interval : Option Document} {budget : Option Int} {cancelled : ω → Bool} :
      op = .waitForPending interval budget cancelled → Asks session s op .fragmentLogs
  | given {fragment : Bytes} : op = .sendFragment fragment → Asks session s op (.submit fragment)
  | givenAll {fragments : List Bytes} : op = .sendFragments fragments →
      Asks session s op (.submitAll fragments)
  | signed {tx : Transaction} : op.builds = true → SignedNext session s [tx] →
      Asks session s op (.submit (tx.signedBy session.identity).bytes)
  | signedAll {txs : List Transaction} : op.builds = true → SignedNext session s txs →
      Asks session s op (.submitAll (txs.map fun tx => (tx.signedBy session.identity).bytes))

namespace Controller

variable {session : Session} {c : Controller (Recorded ω)} {node : Ledger.Client ω}
  {P : Ledger.Question → Prop} {past : List Ledger.Question}

theorem signedNext_of_builds {office : Office ω} (hidentity : office.identity = session.identity)
    {txs : List Transaction} {s : State} {values : List Int}
    (h : List.Forall₂ office.Builds txs (s.reservations values)) :
    SignedNext session s txs := by
  have haccount := Office.account_of_builds h
  have hcosts := Office.costs_of_builds h
  rw [State.reservations_values] at hcosts
  rw [hidentity] at haccount
  refine ⟨haccount, ?_⟩
  rw [hcosts]
  exact Office.counters_of_builds h

/-- A call that builds its transactions submits what is signed in the session. -/
theorem asked_of_outcome {op : Operation (Recorded ω)} (hop : op.builds = true)
    (hnode : c.client = Recorded.client node) {world : Recorded ω}
    (hworld : AskedSince (op.Asks session c.wallet) past world.questions)
    {result : Except Failure (List Text)} {d : Desk (Recorded ω)}
    (h : Submission.Outcome (c.officeOf session) ⟨c.wallet, world⟩ result d) :
    AskedSince (op.Asks session c.wallet) past d.world.questions := by
  cases h with
  | failed e => exact hworld
  | nothing => exact hworld
  | lost he values => exact hworld
  | @handed values txs request _ _ hbuilds hw hrequest hended =>
      have hsigned : SignedNext session c.wallet txs := signedNext_of_builds rfl hbuilds
      have hclient : (c.officeOf session).client = Recorded.client node := hnode
      rw [hclient] at hrequest
      generalize hfragments : txs.map (fun tx =>
        (tx.signedBy (c.officeOf session).identity).bytes) = fragments at hrequest
      cases hrequest with
      | one fragment =>
          obtain ⟨tx, rfl, rfl⟩ := List.map_eq_singleton_iff.mp hfragments
          rw [effect_map]
          exact hworld.cons (.signed hop hsigned)
      | many =>
          subst hfragments
          exact hworld.cons (.signedAll hop hsigned)

/-! ## Asking before a vote -/

/-- A controller whose recorded node was asked only for what is allowed. -/
structure Inquiring (node : Ledger.Client ω) (P : Ledger.Question → Prop)
    (past : List Ledger.Question) (c : Controller (Recorded ω)) : Prop where
  client : c.client = Recorded.client node
  asked : AskedSince P past c.world.questions

theorem requireSession_keeps {Q : Controller ω → Prop} (operation : String) :
    (requireSession operation).Keeps Q := by
  intro c hc
  obtain h | ⟨session, h⟩ := Option.eq_none_or_eq_some c.session
  · rw [effect_requireSession_none h]
    exact hc
  · rw [effect_requireSession h]
    exact hc

theorem proposals_inquire (hP : P .proposals) :
    (proposals : Action (Controller (Recorded ω)) (List Proposal)).Keeps
      (Inquiring node P past) := by
  unfold proposals
  refine keeps_bind (requireSession_keeps _) fun _ => ?_
  intro c hc
  rw [effect_ask, hc.client]
  exact ⟨rfl, hc.asked.cons hP⟩

theorem findProposal_inquire (hP : P .proposals) (id : Text) :
    (findProposal id : Action (Controller (Recorded ω)) Proposal).Keeps
      (Inquiring node P past) := by
  unfold findProposal
  refine keeps_bind (requireSession_keeps _) fun _ => ?_
  refine keeps_bind (proposals_inquire hP) fun ps => ?_
  split
  · exact keeps_pure _
  · exact keeps_throw _

theorem resolveVotes_inquire (hP : P .proposals) (known : Option (List Proposal))
    (votes : List (Named × Choice)) :
    (resolveVotes known votes :
      Action (Controller (Recorded ω)) (List (Proposal × Choice))).Keeps
      (Inquiring node P past) := by
  induction votes generalizing known with
  | nil => exact keeps_pure _
  | cons vote rest ih =>
      obtain ⟨proposal, choice⟩ := vote
      cases proposal with
      | proposal p => exact keeps_bind (ih known) fun _ => keeps_pure _
      | id t =>
          unfold resolveVotes
          -- the proposals are asked for unless they are known already
          cases known with
          | none =>
              refine keeps_bind (proposals_inquire hP) fun ps => ?_
              dsimp only
              split
              · exact keeps_throw _
              · exact keeps_bind (ih _) fun _ => keeps_pure _
          | some ps =>
              refine keeps_bind (keeps_pure ps) fun ps => ?_
              dsimp only
              split
              · exact keeps_throw _
              · exact keeps_bind (ih _) fun _ => keeps_pure _

/-- What comes after a question to the node. -/
theorem asked_after {a : Action (Controller (Recorded ω)) α} (hasks : Controller.Asks a)
    (ha : a.Keeps (Inquiring node P past)) (hc : Inquiring node P past c)
    {f : α → Action (Controller (Recorded ω)) β}
    (hf : ∀ x world, AskedSince P past world.questions →
      AskedSince P past ((f x).effect { c with world := world }).2.world.questions) :
    AskedSince P past ((a >>= f).effect c).2.world.questions := by
  obtain ⟨world, hworld⟩ := hasks c
  have hkept := ha c hc
  rw [effect_bind]
  rcases h : a.effect c with ⟨⟨e⟩ | ⟨x⟩, c'⟩
  · rw [h] at hkept
    exact hkept.asked
  · rw [h] at hworld hkept
    obtain rfl : c' = _ := hworld
    exact hf x world hkept.asked

/-! ## In a session -/

/-- Bookkeeping asks the node for nothing. -/
theorem book_keeps (a : Action State α) :
    (atDesk (Desk.book a) : Action (Controller (Recorded ω)) α).Keeps
      fun c => AskedSince P past c.world.questions :=
  fun _ h => h

/-- While it waits, a wallet asks for nothing but the fragment log. -/
theorem kept_asked (node : Ledger.Client ω) (surroundings : Surroundings ω)
    (hP : P .fragmentLogs) :
    Settlement.KeptByWaiting (Recorded.client node) (Recorded.surroundings surroundings)
      fun d => AskedSince P past d.world.questions where
  ask := fun _ h => h.cons hP
  confirm := fun _ _ h => h
  rollback := fun _ _ h => h
  sleep := fun _ _ h => h

theorem cast_asked {op : Operation (Recorded ω)} (hop : op.builds = true)
    (hnode : c.client = Recorded.client node) (h : c.wallet.Disciplined []) (proposal : Proposal)
    (choice : Choice) (window : Option ValidUntil) {world : Recorded ω}
    (hworld : AskedSince (op.Asks session c.wallet) past world.questions) :
    AskedSince (op.Asks session c.wallet) past
      ((cast session proposal choice window).effect { c with world := world }).2.world.questions :=
  asked_of_outcome hop hnode hworld (Submission.vote_outcome (d := ⟨c.wallet, world⟩) h
    (c.officeOf session) proposal choice (window.or c.options.validUntil))

/-- **What an operation asks for.** In a session, an operation asks the node only for what belongs
to it. -/
theorem perform_asked (hsession : c.session = some session) (h : c.wallet.Disciplined [])
    (hnode : c.client = Recorded.client node) {surroundings : Surroundings ω}
    (hsurroundings : c.surroundings = Recorded.surroundings surroundings)
    (op : Operation (Recorded ω)) :
    AskedSince (op.Asks session c.wallet) c.world.questions
      (op.perform.effect c).2.world.questions := by
  have hstart := AskedSince.refl (op.Asks session c.wallet) c.world.questions
  have hinquiring : Inquiring node (op.Asks session c.wallet) c.world.questions c :=
    ⟨hnode, hstart⟩
  cases op with
  | transfer destination value window =>
      unfold Operation.perform Controller.transfer
      rw [effect_map, effect_bind_ok (effect_requireSession hsession _)]
      exact asked_of_outcome rfl hnode hstart (Submission.transfer_outcome (d := c.desk) h
        (c.officeOf session) destination value (window.or c.options.validUntil))
  | vote proposal choice window =>
      unfold Operation.perform Controller.vote
      rw [effect_map, effect_bind_ok (effect_requireSession hsession _)]
      cases proposal with
      | id t =>
          exact asked_after (asks_findProposal t) (findProposal_inquire (.proposals rfl) t)
            hinquiring fun p world hworld => cast_asked rfl hnode h p choice window hworld
      | proposal p => exact cast_asked rfl hnode h p choice window hstart
  | voteFor votePlan index choice window =>
      unfold Operation.perform Controller.voteFor
      rw [effect_map, effect_bind_ok (effect_requireSession hsession _)]
      refine asked_after asks_proposals (proposals_inquire (.proposals rfl)) hinquiring
        fun ps world hworld => ?_
      split
      · exact cast_asked rfl hnode h _ choice window hworld
      · exact hworld
  | votesBatch votes window =>
      unfold Operation.perform Controller.votesBatch
      rw [effect_bind_ok (effect_requireSession hsession _)]
      refine asked_after (asks_resolveVotes none votes)
        (resolveVotes_inquire (.proposals rfl) none votes) hinquiring fun items world hworld => ?_
      exact asked_of_outcome rfl hnode hworld (Submission.voteBatch_outcome
        (d := ⟨c.wallet, world⟩) h (c.officeOf session) items (window.or c.options.validUntil))
  | sendFragment fragment =>
      unfold Operation.perform Controller.sendFragment
      rw [effect_map, effect_bind_ok (effect_requireSession hsession _),
        effect_bind_ok (effect_get c), effect_atDesk]
      dsimp only
      rw [(Submission.send_ended c.client c.desk fragment (r := none) rfl).2, hnode]
      exact hstart.cons (.given rfl)
  | sendFragments fragments =>
      unfold Operation.perform Controller.sendFragments
      rw [effect_bind_ok (effect_requireSession hsession _), effect_bind_ok (effect_get c),
        effect_atDesk]
      dsimp only
      rw [(Submission.sendMany_ended c.client c.desk fragments (Or.inl rfl) rfl).2, hnode]
      exact hstart.cons (.givenAll rfl)
  | refreshState =>
      have hasked := hstart.cons (Operation.Asks.account rfl)
      unfold Operation.perform Controller.refreshState
      rw [effect_map, effect_bind_ok (effect_requireSession hsession _), effect_bind,
        effect_accountState hsession, hnode]
      rcases (((Recorded.client node).accountState
        session.identity.accountId).effect c.world).1 with e | snapshot
      · exact hasked
      · exact keeps_bind (book_keeps (Book.refresh snapshot)) (fun _ => keeps_pure snapshot) _
          hasked
  | confirmTransaction id =>
      unfold Operation.perform Controller.confirmTransaction
      rw [effect_map, effect_bind_ok (effect_requireSession hsession _)]
      exact hstart
  | removePendingTransaction id =>
      unfold Operation.perform Controller.removePendingTransaction
      rw [effect_map, effect_bind_ok (effect_requireSession hsession _)]
      exact keeps_bind (book_keeps (Book.rollback id)) (fun _ => keeps_pure ()) c hstart
  | confirmAllTransactions =>
      unfold Operation.perform Controller.confirmAllTransactions
      rw [effect_map, effect_bind_ok (effect_requireSession hsession _)]
      exact hstart
  | waitForPending interval budget cancelled =>
      unfold Operation.perform Controller.waitForPending
      rw [effect_map, effect_bind_ok (effect_requireSession hsession _),
        effect_bind_ok (effect_get c), effect_atDesk, hnode, hsurroundings]
      exact (kept_asked node surroundings (.logs rfl)).wait _ c.desk hstart
  | switchClient client =>
      unfold Operation.perform
      rw [effect_map, effect_switchClient]
      exact hstart

end Controller

end Wallet

end BallotWallet
