import BallotWallet.Proofs.Beginning
import BallotWallet.Proofs.Generating
import BallotWallet.Proofs.Lifetime
import BallotWallet.Proofs.Recording

/-!
# Eras

A session that begins is the beginning of an era. What is done in it goes by its session and by
the wallet that it began with: the node is asked for the account of the session, fragments are
signed by its identity with the counters of the wallet, and only fragments that were submitted in
the era are settled. Before the first era everything that needs a session is refused.
-/

namespace BallotWallet.Wallet

open BallotWallet.Action

variable {ω : Type}

/-! ## What needs a session -/

namespace Controller

variable {session : Session} {c : Controller ω} {α : Type}

/-- An action that begins with asking for the session. -/
def Needs (operation : String) (a : Action (Controller ω) α) : Prop :=
  ∃ f : Session → Action (Controller ω) α, ∀ c,
    a.effect c = (requireSession operation >>= f).effect c

theorem Needs.effect_unbegun {operation : String} {a : Action (Controller ω) α}
    (ha : Needs operation a) (h : c.session = none) :
    a.effect c = (.error (.notInitialized operation), c) := by
  obtain ⟨f, hf⟩ := ha
  rw [hf, effect_bind_error (effect_requireSession_none h operation)]

theorem needs_map {β : Type} {operation : String} (g : α → β)
    (f : Session → Action (Controller ω) α) :
    Needs operation (g <$> (requireSession operation >>= f)) :=
  ⟨_, fun _ => map_bind g _ f⟩

end Controller

/-- The name of an operation, if it needs a session. -/
def Operation.name : Operation ω → Option String
  | transfer .. => some "transfer"
  | vote .. => some "vote"
  | voteFor .. => some "vote_for"
  | votesBatch .. => some "votes_batch"
  | sendFragment _ => some "send_fragment"
  | sendFragments _ => some "send_fragments"
  | refreshState => some "refresh_state"
  | confirmTransaction _ => some "confirm_transaction"
  | removePendingTransaction _ => some "remove_pending_transaction"
  | confirmAllTransactions => some "confirm_all_transactions"
  | waitForPending .. => some "wait_for_pending_transactions"
  | switchClient _ => none

theorem Operation.needs {op : Operation ω} {name : String} (h : op.name = some name) :
    Controller.Needs name op.perform := by
  cases op with
  | votesBatch votes window =>
      obtain rfl := Option.some.inj h
      exact ⟨_, fun _ => rfl⟩
  | sendFragments fragments =>
      obtain rfl := Option.some.inj h
      exact ⟨_, fun _ => rfl⟩
  | switchClient client => cases h
  | _ =>
      obtain rfl := Option.some.inj h
      exact Controller.needs_map _ _

/-- What a user may ask a controller for. -/
inductive Inquiry where
  | identity
  | accountId
  | accountAddress (asked : Option Bool)
  | settings
  | accountState
  | totalValue
  | spendingCounter
  | proposals
  | activeVotes
  | findProposal (id : Text)
  | pendingTransactions
  | fragmentLogs

namespace Inquiry

def perform : Inquiry → Action (Controller ω) Unit
  | identity => (fun _ => ()) <$> Controller.identity
  | accountId => (fun _ => ()) <$> Controller.accountId
  | accountAddress asked => (fun _ => ()) <$> Controller.accountAddress asked
  | settings => (fun _ => ()) <$> Controller.settings
  | accountState => (fun _ => ()) <$> Controller.accountState
  | totalValue => (fun _ => ()) <$> Controller.totalValue
  | spendingCounter => (fun _ => ()) <$> Controller.spendingCounter
  | proposals => (fun _ => ()) <$> Controller.proposals
  | activeVotes => (fun _ => ()) <$> Controller.activeVotes
  | findProposal id => (fun _ => ()) <$> Controller.findProposal id
  | pendingTransactions => (fun _ => ()) <$> Controller.pendingTransactions
  | fragmentLogs => (fun _ => ()) <$> Controller.fragmentLogs

def name : Inquiry → String
  | identity => "identity"
  | accountId => "account_id"
  | accountAddress _ => "account_address"
  | settings => "settings"
  | accountState => "get_account_state"
  | totalValue => "total_value"
  | spendingCounter => "spending_counter"
  | proposals => "get_proposals"
  | activeVotes => "active_votes"
  | findProposal _ => "find_proposal"
  | pendingTransactions => "pending_transactions"
  | fragmentLogs => "fragment_logs"

/-- What the node is asked for an inquiry in a session. -/
def question? (session : Session) : Inquiry → Option Ledger.Question
  | accountState => some (.accountState session.identity.accountId)
  | activeVotes => some (.voteStatuses session.identity.accountId)
  | proposals | findProposal _ => some .proposals
  | fragmentLogs => some .fragmentLogs
  | _ => none

theorem needs (q : Inquiry) :
    Controller.Needs q.name (q.perform : Action (Controller ω) Unit) := by
  cases q <;> exact Controller.needs_map _ _

/-- In a session, an inquiry asks the node for one thing at most, and changes nothing else. -/
theorem asked {session : Session} {c : Controller (Recorded ω)} {node : Ledger.Client ω}
    (hsession : c.session = some session) (hnode : c.client = Recorded.client node)
    (q : Inquiry) :
    ∃ world, (q.perform.effect c).2 = { c with world := world } ∧
      world.questions = (q.question? session).toList ++ c.world.questions := by
  have hmap : ∀ {α : Type} (a : Action (Controller (Recorded ω)) α),
      (((fun _ => ()) <$> a).effect c).2 = (a.effect c).2 := by
    intro α a
    rw [effect_map]
  cases q with
  | accountState =>
      have hask := congrArg Prod.snd (Controller.effect_accountState hsession)
      exact ⟨_, (hmap _).trans hask, by rw [hnode]; rfl⟩
  | activeVotes =>
      have hask := congrArg Prod.snd (Controller.effect_activeVotes hsession)
      exact ⟨_, (hmap _).trans hask, by rw [hnode]; rfl⟩
  | proposals =>
      have hask := congrArg Prod.snd (Controller.effect_proposals hsession)
      exact ⟨_, (hmap _).trans hask, by rw [hnode]; rfl⟩
  | findProposal id =>
      have hask := congrArg Prod.snd (Controller.effect_findProposal hsession id)
      exact ⟨_, (hmap _).trans hask, by rw [hnode]; rfl⟩
  | fragmentLogs =>
      have hask := congrArg Prod.snd (Controller.effect_fragmentLogs hsession)
      exact ⟨_, (hmap _).trans hask, by rw [hnode]; rfl⟩
  | _ =>
      -- the others are answered from the session and the wallet
      exact ⟨c.world, (hmap _).trans (congrArg Prod.snd
        (effect_bind_ok (Controller.effect_requireSession hsession _))), rfl⟩

end Inquiry

/-! ## Histories -/

/-- What began with a session: the session, the phrase if one was generated for it, and the
identifiers of what was submitted in it. -/
structure Era where
  session : Session
  phrase : Option String
  ids : List Text := []

/-- An era in which a submission has ended. -/
def Era.submitted (era : Era) : Except Failure (List Text) → Era
  | .ok ids => { era with ids := era.ids ++ ids }
  | .error _ => era

@[simp] theorem Era.submitted_session (era : Era) (result : Except Failure (List Text)) :
    (era.submitted result).session = era.session := by
  cases result <;> rfl

@[simp] theorem Era.submitted_phrase (era : Era) (result : Except Failure (List Text)) :
    (era.submitted result).phrase = era.phrase := by
  cases result <;> rfl

theorem Era.mem_submitted {era : Era} {result : Except Failure (List Text)} {id : Text} :
    id ∈ (era.submitted result).ids ↔ id ∈ era.ids ∨ ∃ ids, result = .ok ids ∧ id ∈ ids := by
  cases result <;> simp [Era.submitted]

/-- Another ledger client must be that of a recorded node, too. -/
def Operation.IsRecorded : Operation (Recorded ω) → Prop
  | switchClient client => ∃ node, client = Recorded.client node
  | _ => True

/-- What a controller comes to by anything that is done with it while its node is recorded, and
what began with the last attempt that succeeded. The world moves on by itself, too. -/
inductive History : Controller (Recorded ω) → Option Era → Prop
  | made {options : Options} {node : Ledger.Client ω} {surroundings : Surroundings ω} {world : ω}
      {c : Controller (Recorded ω)} :
      Controller.new options (Recorded.client node) (Recorded.surroundings surroundings)
        ⟨world, []⟩ = .ok c →
      History c none
  | began {c : Controller (Recorded ω)} {era : Option Era} (start : Start)
      {identity : Key.Identity} {phrase : Option String} {settings : ChainSettings}
      {world : Recorded ω} :
      History c era → start.yields c.options = .ok (identity, phrase) →
      c.client.settings.effect c.world = (.ok settings, world) →
      History (start.perform.effect c).2 (some ⟨⟨identity, settings⟩, phrase, []⟩)
  | refused {c : Controller (Recorded ω)} {era : Option Era} (start : Start) {e : Failure} :
      History c era → (start.perform.effect c).1 = .error e →
      History (start.perform.effect c).2 era
  | operation {c : Controller (Recorded ω)} {era : Option Era} (op : Operation (Recorded ω)) :
      History c era → op.IsRecorded →
      History (op.perform.effect c).2 (era.map (·.submitted (op.perform.effect c).1))
  | inquiry {c : Controller (Recorded ω)} {era : Option Era} (q : Inquiry) :
      History c era → History (q.perform.effect c).2 era
  | world {c : Controller (Recorded ω)} {era : Option Era} (world : ω) :
      History c era → History { c with world := { c.world with world := world } } era

namespace State

theorem entries_ids (ids : List Text) (rs : List (Option Reservation)) :
    (entries ids rs).map (·.1) = ids := by
  induction ids generalizing rs with
  | nil => rfl
  | cons id ids ih => exact congrArg (List.cons id) (ih rs.tail)

theorem submitted_pendingIds (ids : List Text) (rs : List (Option Reservation)) (s : State) :
    (s.submitted ids rs).pendingIds = s.pendingIds ++ ids := by
  unfold submitted pendingIds
  rw [List.map_append, entries_ids]

end State

theorem Submission.Ended.mem_pendingIds {before s wallet : State} {count : Nat}
    {rs : List (Option Reservation)} {answer result : Except Failure (List Text)}
    (h : Submission.Ended before s count rs answer result wallet)
    (hsame : s.pendingIds = before.pendingIds) {id : Text} (hid : id ∈ wallet.pendingIds) :
    id ∈ before.pendingIds ∨ ∃ ids, result = .ok ids ∧ id ∈ ids := by
  cases h with
  | @accepted ids hanswer hfresh =>
      rw [State.submitted_pendingIds, hsame] at hid
      rcases List.mem_append.mp hid with hold | hnew
      · exact .inl hold
      · exact .inr ⟨ids, rfl, hnew⟩
  | refused he hnot => exact .inl hid
  | broken he hanswer => exact .inl (hsame ▸ hid)

/-- What is pending after an operation was pending before it, or it was submitted by it. -/
theorem Controller.Transition.mem_pendingIds {c c' : Controller ω} {op : Operation ω}
    {result : Except Failure (List Text)} (h : c.Transition op result c')
    (hc : c.wallet.Disciplined []) {id : Text} (hid : id ∈ c'.wallet.pendingIds) :
    id ∈ c.wallet.pendingIds ∨ ∃ ids, result = .ok ids ∧ id ∈ ids := by
  cases h with
  | quiet world hids => exact .inl hid
  | switched hop => exact .inl hid
  | built hop hsession hout =>
      cases hout with
      | failed e => exact .inl hid
      | nothing => exact .inl hid
      | lost he values => exact .inl (State.reservedAll_pendingIds values c.wallet ▸ hid)
      | @handed values _ _ _ _ hbuilds hw hrequest hended =>
          exact hended.mem_pendingIds (State.reservedAll_pendingIds values c.wallet) hid
  | raw hop hrequest hlen hnone hended => exact hended.mem_pendingIds rfl hid
  | refreshed snapshot world =>
      left
      unfold State.pendingIds at hid ⊢
      rw [State.refresh_pending, List.map_map] at hid
      exact hid
  | settled world hids hsettles =>
      left
      obtain ⟨p, hp, rfl⟩ := List.mem_map.mp hid
      exact List.mem_map_of_mem (hsettles.mem_pending hc hp)

/-- What an operation leaves alone. Only switching brings another ledger client. -/
theorem Controller.Transition.frame {c c' : Controller ω} {op : Operation ω}
    {result : Except Failure (List Text)} (h : c.Transition op result c') :
    c'.session = c.session ∧ c'.mnemonic = c.mnemonic ∧ c'.surroundings = c.surroundings ∧
      (c'.client = c.client ∨ op = .switchClient c'.client) := by
  cases h with
  | switched hop => exact ⟨rfl, rfl, rfl, .inr hop⟩
  | quiet _ _ => exact ⟨rfl, rfl, rfl, .inl rfl⟩
  | built _ _ _ => exact ⟨rfl, rfl, rfl, .inl rfl⟩
  | raw _ _ _ _ _ => exact ⟨rfl, rfl, rfl, .inl rfl⟩
  | refreshed _ _ => exact ⟨rfl, rfl, rfl, .inl rfl⟩
  | settled _ _ _ => exact ⟨rfl, rfl, rfl, .inl rfl⟩

/-- Nothing is submitted without a session. -/
theorem Operation.session_of_submitted {c : Controller ω} {op : Operation ω} {ids : List Text}
    (h : (op.perform.effect c).1 = .ok ids) {id : Text} (hid : id ∈ ids) :
    c.session ≠ none := by
  intro hnone
  cases hname : op.name with
  | some name =>
      rw [(needs hname).effect_unbegun hnone] at h
      cases h
  | none =>
      cases op with
      | switchClient client =>
          unfold perform at h
          rw [effect_map, Controller.effect_switchClient] at h
          obtain rfl := Except.ok.inj h
          cases hid
      | _ => cases hname

/-- What holds of a controller throughout its history. -/
structure History.Keeps (c : Controller (Recorded ω)) (era : Option Era) : Prop where
  client : ∃ node, c.client = Recorded.client node
  surroundings : ∃ surroundings, c.surroundings = Recorded.surroundings surroundings
  disciplined : c.wallet.Disciplined []
  session : c.session = era.map (·.session)
  mnemonic : c.mnemonic = era.bind (·.phrase)
  pending : ∀ id ∈ c.wallet.pendingIds, ∃ e, era = some e ∧ id ∈ e.ids

namespace History

variable {c : Controller (Recorded ω)} {era : Option Era}

/-- What only changes the world keeps the rest. -/
theorem Keeps.of_world (h : Keeps c era) (world : Recorded ω) :
    Keeps { c with world := world } era :=
  ⟨h.client, h.surroundings, h.disciplined, h.session, h.mnemonic, h.pending⟩

theorem keeps_made {options : Options} {node : Ledger.Client ω} {surroundings : Surroundings ω}
    {world : ω}
    (h : Controller.new options (Recorded.client node) (Recorded.surroundings surroundings)
      ⟨world, []⟩ = .ok c) : Keeps c none := by
  obtain ⟨kind, _, hmade⟩ := exists_of_bind_ok h
  cases hmade
  exact ⟨⟨node, rfl⟩, ⟨surroundings, rfl⟩, State.fresh_disciplined, rfl, rfl,
    fun _ hid => (List.not_mem_nil hid).elim⟩

theorem Keeps.operation (h : Keeps c era) {op : Operation (Recorded ω)} (hop : op.IsRecorded) :
    Keeps (op.perform.effect c).2 (era.map (·.submitted (op.perform.effect c).1)) := by
  have htransition := Controller.perform_transition h.disciplined op
  obtain ⟨hsession, hmnemonic, hsurroundings, hclient⟩ := htransition.frame
  constructor
  case client =>
    rcases hclient with hsame | hswitch
    · exact hsame ▸ h.client
    · rw [hswitch] at hop
      exact hop
  case surroundings => exact hsurroundings ▸ h.surroundings
  case disciplined => exact htransition.disciplined h.disciplined
  case session =>
    rw [hsession, h.session]
    cases era <;> simp
  case mnemonic =>
    rw [hmnemonic, h.mnemonic]
    cases era <;> simp
  case pending =>
    intro id hid
    have hsubmitted := htransition.mem_pendingIds h.disciplined hid
    cases era with
    | some e =>
        refine ⟨_, rfl, Era.mem_submitted.mpr (hsubmitted.imp_left fun hold => ?_)⟩
        obtain ⟨_, he, hmem⟩ := h.pending id hold
        exact Option.some.inj he ▸ hmem
    | none =>
        rcases hsubmitted with hold | ⟨ids, hids, hnew⟩
        · obtain ⟨_, he, _⟩ := h.pending id hold
          cases he
        · -- nothing is submitted without a session
          exact absurd h.session (Operation.session_of_submitted hids hnew)

theorem Keeps.inquiry (h : Keeps c era) (q : Inquiry) : Keeps (q.perform.effect c).2 era := by
  obtain ⟨node, hnode⟩ := h.client
  obtain hnone | ⟨session, hsession⟩ := Option.eq_none_or_eq_some c.session
  · rw [q.needs.effect_unbegun hnone]
    exact h
  · obtain ⟨world, hworld, _⟩ := q.asked hsession hnode
    rw [hworld]
    exact h.of_world world

theorem keeps (h : History c era) : Keeps c era := by
  induction h with
  | made hmade => exact keeps_made hmade
  | began start _ hyields hanswer ih =>
      rw [Start.effect_perform_begun hyields hanswer]
      exact ⟨ih.client, ih.surroundings, State.fresh_disciplined, rfl, rfl,
        fun _ hid => (List.not_mem_nil hid).elim⟩
  | refused start _ hrefused ih =>
      obtain ⟨world, hworld⟩ := (start.whole _).refused _ hrefused
      rw [hworld]
      exact ih.of_world world
  | operation op _ hop ih => exact ih.operation hop
  | inquiry q _ ih => exact ih.inquiry q
  | world world _ ih => exact ih.of_world _

end History

/-! ## After a session has begun -/

/-- What holds in an era: all that is done goes by its session and by the wallet that it began
with. -/
structure Era.Holds (era : Era) (c : Controller (Recorded ω)) : Prop where
  mnemonic : c.mnemonic = era.phrase
  /-- The account, its counter and its balance are told from the session and the wallet. -/
  accountId : Controller.accountId.effect c = (.ok (era.session.identity.accountId : Text), c)
  counter : Controller.spendingCounter.effect c = (.ok c.wallet.counter, c)
  balance : Controller.totalValue.effect c = (.ok c.wallet.balance, c)
  /-- The node is asked for the account of the session, -/
  inquiries : ∀ q : Inquiry, (q.perform.effect c).2.world.questions =
    (q.question? era.session).toList ++ c.world.questions
  /-- handed fragments that the identity of the session has signed for the wallet, -/
  operations : ∀ op : Operation (Recorded ω),
    AskedSince (op.Asks era.session c.wallet) c.world.questions
      (op.perform.effect c).2.world.questions
  /-- and polled for what is pending in the wallet, -/
  waits : ∀ interval budget cancelled,
    c.wallet.Settles ((Controller.waitForPending interval budget cancelled).effect c).2.wallet
  /-- all of which was submitted in the era. -/
  pending : ∀ id ∈ c.wallet.pendingIds, id ∈ era.ids

theorem History.holds {c : Controller (Recorded ω)} {era : Era} (h : History c (some era)) :
    era.Holds c := by
  obtain ⟨⟨node, hnode⟩, ⟨surroundings, hsurroundings⟩, hdisciplined, hsession, hmnemonic,
    hpending⟩ := h.keeps
  refine ⟨hmnemonic, Controller.effect_accountId hsession, ?_, ?_, ?_, ?_, ?_, ?_⟩
  · exact effect_bind_ok (Controller.effect_requireSession hsession _)
  · exact effect_bind_ok (Controller.effect_requireSession hsession _)
  · intro q
    obtain ⟨world, hworld, hquestions⟩ := q.asked hsession hnode
    rw [hworld]
    exact hquestions
  · intro op
    exact Controller.perform_asked hsession hdisciplined hnode hsurroundings op
  · intro interval budget cancelled
    have hwait := (Settlement.kept_since c.wallet c.client c.surroundings).wait
      { interval := interval.getD c.options.pollInterval
        budget := budget.getD c.options.retryBudget
        cancelled := cancelled } c.desk .refl
    unfold Controller.waitForPending
    rw [effect_bind_ok (Controller.effect_requireSession hsession _),
      effect_bind_ok (effect_get c)]
    exact hwait
  · intro id hid
    obtain ⟨_, he, hmem⟩ := hpending id hid
    exact Option.some.inj he ▸ hmem

/-- **Beginning a session is all or nothing.** After anything that may be done with a controller,
whatever the node answers: an attempt to begin a session fails and changes nothing, or it
succeeds and replaces everything. What is done from then on goes by the new session and its
wallet; before the first success all that needs a session is refused by its name, and the node is
not asked. -/
theorem History.begins_whole {c : Controller (Recorded ω)} {era : Option Era}
    (h : History c era) :
    (∀ start : Start, start.Whole c) ∧
      (∀ e, era = some e → e.Holds c) ∧
      (era = none →
        (∀ (op : Operation (Recorded ω)) name, op.name = some name →
          op.perform.effect c = (.error (.notInitialized name), c)) ∧
        ∀ q : Inquiry, q.perform.effect c = (.error (.notInitialized q.name), c)) := by
  refine ⟨fun start => start.whole c, ?_, ?_⟩
  · rintro e rfl
    exact h.holds
  · rintro rfl
    have hnone : c.session = none := h.keeps.session
    exact ⟨fun op name hname => (Operation.needs hname).effect_unbegun hnone,
      fun q => q.needs.effect_unbegun hnone⟩

/-- A controller whose recorded node gives the same identifier to all fragments. -/
def untouched : Controller (Recorded Unit) where
  options := {}
  client := Recorded.client Submission.repeating
  surroundings := Recorded.surroundings Controller.unmoved.surroundings
  world := ⟨(), []⟩

/-- Before a wallet is recovered from the key file nothing can be transferred. Afterwards the
account is the one of the key file, and an attempt to recover from no words at all fails without a
question to the node. -/
theorem History.begins_whole_keyFile :
    (∃ c : Controller (Recorded Unit), History c none ∧
      (Operation.transfer "b" 10 none).perform.effect c =
        (.error (.notInitialized "transfer"), c)) ∧
    ∃ (c : Controller (Recorded Unit)) (era : Era), History c (some era) ∧
      Controller.accountId.effect c =
        (.ok ((Key.Identity.ofMaterial Controller.keyFileMaterial).accountId : Text), c) ∧
      (Start.recoverFromPhrase "" "" none none).perform.effect c =
        (.error (.wordCount 0 [12, 15, 18, 21, 24]), c) := by
  have hmade : History untouched none := .made
    (show Controller.new {} (Recorded.client Submission.repeating)
      (Recorded.surroundings Controller.unmoved.surroundings) ⟨(), []⟩ = .ok untouched from rfl)
  have hyields : (Start.recover Controller.keyFile).yields untouched.options =
      .ok (.ofMaterial Controller.keyFileMaterial, none) := by
    show Controller.keyFile.identity.bind (fun identity => .ok (identity, none)) = _
    rw [Controller.keyFile_identity]
    rfl
  have hbegan := History.began (.recover Controller.keyFile) hmade hyields rfl
  refine ⟨⟨_, hmade, (hmade.begins_whole.2.2 rfl).1 _ _ rfl⟩, _, _, hbegan, ?_, ?_⟩
  · exact (hbegan.begins_whole.2.1 _ rfl).accountId
  · exact (hbegan.begins_whole.1 _).underived _ rfl

end BallotWallet.Wallet
