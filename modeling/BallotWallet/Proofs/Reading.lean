import BallotWallet.Proofs.Answers
import BallotWallet.Proofs.Asking
import BallotWallet.Proofs.Waiting

/-!
# Reading from a node

What becomes of a request to read, for every outcome of sending it. The client understands the
answer, or fails as the node has failed, unless the answer is one of those that it is not prepared
for. Those are listed here with the failures that come of them. A wait for pending fragments is
broken by them, and by nothing else.
-/

namespace BallotWallet.Ledger

open BallotWallet.Action

/-- A failure that is not the node's is one that was not expected. -/
theorem Rest.understood_foreign {α : Type} {what : String} {expected : Failure → Bool}
    {r : Except Failure α} {e : Failure} (he : e.isBackend = false) :
    understood what expected r = .error e ↔ r = .error e ∧ expected e = false := by
  unfold understood
  cases r with
  | ok x => simp
  | error found =>
      dsimp only
      cases hexpected : expected found with
      | false =>
          refine ⟨?_, And.left⟩
          rintro ⟨⟩
          exact ⟨rfl, hexpected⟩
      | true =>
          constructor
          · rintro ⟨⟩
            cases he
          · rintro ⟨⟨⟩, hno⟩
            rw [hno] at hexpected
            cases hexpected

/-! ## Queries -/

/-- What a node can be asked to read. -/
inductive Query where
  | settings
  | accountState (account : Text)
  | fragmentLogs
  | proposals
  | voteStatuses (account : Text)

namespace Query

/-- What the answer describes. -/
abbrev Answer : Query → Type
  | settings => ChainSettings
  | accountState _ => AccountSnapshot
  | fragmentLogs => FragmentLogs
  | proposals => List Proposal
  | voteStatuses _ => List VoteStatus

/-- The request that a client makes. -/
def ask {ω : Type} (client : Client ω) : (q : Query) → Action ω q.Answer
  | settings => client.settings
  | accountState account => client.accountState account
  | fragmentLogs => client.fragmentLogs
  | proposals => client.proposals
  | voteStatuses account => client.voteStatuses account

def path : Query → Text
  | settings => "/api/v0/settings"
  | accountState account => "/api/v0/account/" ++ account
  | fragmentLogs => "/api/v0/fragment/logs"
  | proposals => "/api/v0/proposals"
  | voteStatuses account => "/api/v1/votes/plan/account-votes/" ++ account

/-- What is asked for, as it is named if the answer is malformed. -/
def what : Query → String
  | settings => "settings document"
  | accountState _ => "account state"
  | fragmentLogs => "fragment log"
  | proposals => "proposal list"
  | voteStatuses _ => "vote status list"

/-- The failures that tell that the answer was malformed. -/
def expected : Query → Failure → Bool
  | fragmentLogs => Rest.isLogMisfit
  | _ => Rest.isMisfit

/-- What a document describes. -/
def read : (q : Query) → Document → Except Failure q.Answer
  | settings => ChainSettings.ofDocument
  | accountState _ => AccountSnapshot.ofDocument
  | fragmentLogs => Rest.readLogs
  | proposals => Rest.readAll Proposal.ofDocument
  | voteStatuses _ => Rest.readAll VoteStatus.ofDocument

/-- The request that is sent to a node over HTTP. -/
def request (rest : Rest) (q : Query) : Request :=
  ⟨.get, rest.url .get q.path, rest.timeout, .none⟩

/-- What comes of a query with an outcome. -/
def result (rest : Rest) (q : Query) : Except Text Reply → Except Failure q.Answer :=
  rest.answered .get q.path ("GET " ++ q.path ++ " returned invalid JSON") fun _ d =>
    Rest.understood q.what q.expected (q.read d)

/-- The failures to read a document that no query expects, and the documents that they come
from. -/
inductive Strays : Query → Document → Failure → Prop
  /-- A number that should be whole is infinite. -/
  | infinite {q : Query} {d : Document} : q ≠ fragmentLogs → d.HasInfinite → Strays q d .overflow
  /-- The chain started too late to be told in seconds. -/
  | start {d : Document} : ChainSettings.StartsBeyond d → Strays settings d .overflow
  /-- The counters of the account have names. -/
  | counters {account : Text} {d : Document} :
      AccountSnapshot.NamesCounters d → Strays (accountState account) d .missingKey
  /-- The status of a fragment has details without form. -/
  | details {d : Document} : Rest.LogsLoosely d → Strays fragmentLogs d .noMember

/-- The outcomes that a query is not prepared for, and the failures that come of them. -/
def Baffles (q : Query) : Except Text Reply → Failure → Prop :=
  Ledger.Baffles fun d e => q.read d = .error e ∧ q.Strays d e

variable {ω : Type} {transport : Transport ω} (rest : Rest) (q : Query)

theorem effect_ask {outcome : Except Text Reply} {w w' : ω}
    (h : (transport.send (q.request rest)).effect w = (.ok outcome, w')) :
    (q.ask (rest.client transport)).effect w = (q.result rest outcome, w') := by
  have hask : q.ask (rest.client transport) = (do
      let d ← rest.askDocument transport q.path
      Rest.understood q.what q.expected (q.read d)) := by
    cases q <;> rfl
  rw [hask]
  unfold Rest.askDocument
  rw [effect_bind_assoc]
  exact rest.effect_answered _ _ h

theorem failsWithin_read (d : Document) :
    FailsWithin (fun e => q.expected e = true ∨ q.Strays d e) (q.read d) := by
  have hmisread : q ≠ fragmentLogs → ∀ e, Misread d e → Rest.isMisfit e = true ∨ q.Strays d e := by
    rintro hq e (hmisfit | ⟨rfl, hinfinite⟩)
    · exact .inl hmisfit
    · exact .inr (.infinite hq hinfinite)
  cases q with
  | settings =>
      refine .mono (ChainSettings.failsWithin_ofDocument d) ?_
      rintro e (he | ⟨rfl, hstart⟩)
      · exact hmisread (by rintro ⟨⟩) e he
      · exact .inr (.start hstart)
  | accountState account =>
      refine .mono (AccountSnapshot.failsWithin_ofDocument d) ?_
      rintro e (he | ⟨rfl, hcounters⟩)
      · exact hmisread (by rintro ⟨⟩) e he
      · exact .inr (.counters hcounters)
  | fragmentLogs =>
      refine .mono (Rest.failsWithin_readLogs d) ?_
      rintro e (he | ⟨rfl, hloose⟩)
      · exact .inl he
      · exact .inr (.details hloose)
  | proposals =>
      exact .mono (Rest.failsWithin_readAll Proposal.failsWithin_ofDocument d)
        (hmisread (by rintro ⟨⟩))
  | voteStatuses account =>
      exact .mono (Rest.failsWithin_readAll VoteStatus.failsWithin_ofDocument d)
        (hmisread (by rintro ⟨⟩))

/-- A stray failure stays what it is. -/
theorem Strays.foreign {q : Query} {d : Document} {e : Failure} (h : q.Strays d e) :
    q.expected e = false ∧ e.isBackend = false := by
  cases h with
  | infinite hq _ =>
      refine ⟨?_, rfl⟩
      cases q with
      | fragmentLogs => exact absurd rfl hq
      | _ => rfl
  | start => exact ⟨rfl, rfl⟩
  | counters => exact ⟨rfl, rfl⟩
  | details => exact ⟨rfl, rfl⟩

theorem Baffles.foreign {q : Query} {outcome : Except Text Reply} {e : Failure}
    (h : q.Baffles outcome e) : e.isBackend = false :=
  Ledger.Baffles.foreign h fun _ _ hstrays => hstrays.2.foreign.2

/-- **How a query fails.** It fails in a way that is not the node's just if the outcome is one
that it is not prepared for. -/
theorem result_foreign {outcome : Except Text Reply} {e : Failure} (he : e.isBackend = false) :
    q.result rest outcome = .error e ↔ q.Baffles outcome e := by
  refine rest.answered_foreign _ _ _ (fun _ d e he => ?_) he
  rw [Rest.understood_foreign he]
  refine and_congr_right fun hread => ⟨fun hexpected => ?_, fun hstrays => hstrays.foreign.1⟩
  rcases q.failsWithin_read d e hread with hyes | hstrays
  · rw [hexpected] at hyes
    cases hyes
  · exact hstrays

/-- **Reading.** A query yields an answer or fails as the node has failed, whatever the outcome
of sending it, unless the outcome is one of those that it is not prepared for; with each of these
it fails in another way. So in every session a wait for pending fragments can only run out of
patience, unless some query of the log meets such an outcome; with the first query it breaks. -/
theorem fails_as_node_unless_baffled (hdelivers : transport.Delivers) :
    (∀ (q : Query) (w : ω), ∃ outcome w',
      (transport.send (q.request rest)).effect w = (.ok outcome, w') ∧
      ((∀ e, ¬q.Baffles outcome e) →
        (∃ answer, (q.ask (rest.client transport)).effect w = (.ok answer, w')) ∨
          ∃ e, (q.ask (rest.client transport)).effect w = (.error e, w') ∧ e.isBackend = true) ∧
      ∀ e, q.Baffles outcome e →
        (q.ask (rest.client transport)).effect w = (.error e, w') ∧ e.isBackend = false) ∧
    ∀ c : Wallet.Controller ω, c.Reached → ∀ (surroundings : Wallet.Surroundings ω)
      (patience : Wallet.Settlement.Patience ω) (w : ω),
      ((∀ w outcome w', (transport.send (fragmentLogs.request rest)).effect w = (.ok outcome, w') →
          ∀ e, ¬fragmentLogs.Baffles outcome e) →
        ∀ e, ((Wallet.Settlement.wait (rest.client transport) surroundings patience).effect
          ⟨c.wallet, w⟩).1 = .error e → ∃ ids, e = .pendingTooLong ids) ∧
      ∀ outcome w' e,
        (transport.send (fragmentLogs.request rest)).effect w = (.ok outcome, w') →
        fragmentLogs.Baffles outcome e → c.wallet.pending ≠ [] →
        (Wallet.Settlement.wait (rest.client transport) surroundings patience).effect
          ⟨c.wallet, w⟩ = (.error e, ⟨c.wallet, w'⟩) := by
  refine ⟨fun q w => ?_, fun c hc surroundings patience w => ⟨?_, ?_⟩⟩
  · obtain ⟨outcome, w', hsend⟩ := hdelivers (q.request rest) w
    have hask := effect_ask rest q hsend
    refine ⟨outcome, w', hsend, fun hprepared => ?_, fun e hbaffles => ?_⟩
    · rw [hask]
      rcases hresult : q.result rest outcome with e | answer
      · cases he : e.isBackend with
        | true => exact .inr ⟨e, rfl, he⟩
        | false => exact absurd ((result_foreign rest q he).mp hresult) (hprepared e)
      · exact .inl ⟨answer, rfl⟩
    · rw [hask, (result_foreign rest q hbaffles.foreign).mpr hbaffles]
      exact ⟨rfl, hbaffles.foreign⟩
  · intro hprepared e he
    rcases Wallet.Settlement.wait_failure surroundings patience hc.disciplined he with
      hlong | ⟨asked, hasked, hforeign⟩
    · exact hlong
    · obtain ⟨outcome, w', hsend⟩ := hdelivers (fragmentLogs.request rest) asked
      have hresult : fragmentLogs.result rest outcome = .error e :=
        (congrArg Prod.fst (effect_ask rest fragmentLogs hsend)).symm.trans hasked
      exact absurd ((result_foreign rest fragmentLogs hforeign).mp hresult)
        (hprepared asked outcome w' hsend e)
  · intro outcome w' e hsend hbaffles hpending
    have hask : (rest.client transport).fragmentLogs.effect w = (.error e, w') := by
      refine (effect_ask rest fragmentLogs hsend).trans ?_
      rw [(result_foreign rest fragmentLogs hbaffles.foreign).mpr hbaffles]
    have hbroken := Wallet.Settlement.effect_wait_broken (d := ⟨c.wallet, w⟩)
      (rest.client transport) surroundings patience hc.disciplined hpending
      (congrArg Prod.fst hask) hbaffles.foreign
    rw [hbroken]
    unfold Wallet.Settlement.polledDesk
    rw [hask]
    rfl

/-- An infinite vote is no failure of the node. -/
example :
    (voteStatuses "a").Baffles (.ok (goodReply "[\x7b\"votes\": [Infinity]\x7d]")) .overflow :=
  (result_foreign node _ rfl).mp (by decide +kernel)

/-- A log that rejects a fragment for a number. -/
def looseReply : Reply :=
  goodReply "[\x7b\"fragment_id\": \"f\", \"status\": \x7b\"Rejected\": 5\x7d\x7d]"

/-- The log breaks the wait for another fragment, which stays pending. -/
theorem fails_as_node_unless_baffled_loose :
    (replying looseReply).Delivers ∧ Wallet.Settlement.oneSent.Reached ∧
      (fragmentLogs.ask (node.client (replying looseReply))).effect () =
        (.error .noMember, ()) ∧
      (Wallet.Settlement.wait (node.client (replying looseReply))
        Wallet.Submission.repeated.surroundings {}).effect ⟨Wallet.Settlement.oneSent.wallet, ()⟩ =
        (.error .noMember, ⟨Wallet.Settlement.oneSent.wallet, ()⟩) := by
  have hdelivers := replying_delivers looseReply
  have hreached : Wallet.Settlement.oneSent.Reached := .operation _ (.fresh ⟨rfl, rfl⟩)
  have hpending : Wallet.Settlement.oneSent.wallet.pending ≠ [] := by decide
  have hresult : fragmentLogs.result node (.ok looseReply) = .error .noMember := by
    decide +kernel
  have hbaffles := (result_foreign node fragmentLogs rfl).mp hresult
  obtain ⟨hquery, hwait⟩ := fails_as_node_unless_baffled node hdelivers
  refine ⟨hdelivers, hreached, ?_, ?_⟩
  · obtain ⟨outcome, w', hsend, _, hbroken⟩ := hquery fragmentLogs ()
    cases hsend
    exact (hbroken _ hbaffles).1
  · exact (hwait _ hreached _ _ ()).2 _ _ _ rfl hbaffles hpending

end Query

end BallotWallet.Ledger
