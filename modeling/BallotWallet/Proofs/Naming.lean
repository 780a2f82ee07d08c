import BallotWallet.Proofs.OneByOne
import BallotWallet.Proofs.Recording

/-!
# Proposals named by an identifier

A user may name a proposal by its identifier. A single vote takes the first proposal that the node
publishes with it, a batch takes the last one. Both cast the same ballot if the two proposals are
the same item of a vote plan and give the same value to the choice.
-/

namespace BallotWallet

/-- Two proposals on which a choice is the same vote, or the same failure. -/
inductive Ballot.CastAlike (choice : Choice) (p q : Proposal) : Prop
  | cast {n : Int} : Ballot.cast p choice = .ok ⟨p, n⟩ → Ballot.cast q choice = .ok ⟨q, n⟩ →
      p.votePlan = q.votePlan → p.index = q.index → CastAlike choice p q
  | failed {e : Failure} : Ballot.cast p choice = .error e → Ballot.cast q choice = .error e →
      CastAlike choice p q

theorem Ballot.proposal_of_cast {p : Proposal} {choice : Choice} {ballot : Ballot}
    (h : Ballot.cast p choice = .ok ballot) : ballot.proposal = p := by
  have hchoice : ∀ n, Ballot.ofChoice p n = .ok ballot → ballot.proposal = p := by
    intro n hn
    unfold Ballot.ofChoice at hn
    split at hn
    · obtain rfl := Except.ok.inj hn
      rfl
    · cases hn
  cases choice with
  | number n => exact hchoice n h
  | label t =>
      obtain ⟨n, _, h⟩ := exists_of_bind_ok h
      exact hchoice n h

namespace Wallet

open BallotWallet.Action

variable {ω : Type}

theorem map_singleton_ok {result : Except Failure Text} {id : Text}
    (h : result.map ([·]) = .ok [id]) : result = .ok id := by
  cases result with
  | error e => cases h
  | ok found =>
      cases h
      rfl

theorem map_singleton_error {result : Except Failure Text} {e : Failure}
    (h : result.map (fun id => [id]) = .error e) : result = .error e := by
  cases result with
  | error found =>
      cases h
      rfl
  | ok id => cases h

/-- A node that accepts whatever fragment it is handed, under an identifier that is not pending. -/
structure Welcomes (node : Ledger.Client ω) (s : State) : Prop where
  submit : ∀ fragment w, ∃ id,
    ((node.submit fragment).effect w).1 = .ok id ∧ id ∉ s.pendingIds
  submitAll : ∀ fragment w, ∃ id,
    ((node.submitAll [fragment]).effect w).1 = .ok [id] ∧ id ∉ s.pendingIds

namespace Submission

variable {office : Office ω} {window : Option ValidUntil} {d : Desk ω} {outstanding : List Int}
  {proposal : Proposal} {choice : Choice} {ballot : Ballot} {validUntil : BlockDate}

/-- The signed vote that a voter asks for. -/
def signedVote (office : Office ω) (window : Option ValidUntil) (d : Desk ω)
    (proposal : Proposal) (choice : Choice) : Except Failure Fragment := do
  let ballot ← Ballot.cast proposal choice
  let validUntil ← resolved office window d
  Fragment.sign (office.voteOf ballot d.wallet.counter validUntil) office.identity

/-- The ways in which a vote comes to be signed, or not. -/
inductive Signs (office : Office ω) (window : Option ValidUntil) (d : Desk ω)
    (proposal : Proposal) (choice : Choice) : Except Failure Fragment → Prop
  | uncast {e : Failure} : Ballot.cast proposal choice = .error e →
      Signs office window d proposal choice (.error e)
  | unresolved {ballot : Ballot} {e : Failure} : Ballot.cast proposal choice = .ok ballot →
      resolved office window d = .error e → Signs office window d proposal choice (.error e)
  | unwritable {ballot : Ballot} {validUntil : BlockDate} :
      Ballot.cast proposal choice = .ok ballot → resolved office window d = .ok validUntil →
      (office.voteOf ballot d.wallet.counter validUntil).isWritable = false →
      Signs office window d proposal choice (.error .badValue)
  | signed {ballot : Ballot} {validUntil : BlockDate} :
      Ballot.cast proposal choice = .ok ballot → resolved office window d = .ok validUntil →
      (office.voteOf ballot d.wallet.counter validUntil).isWritable = true →
      Signs office window d proposal choice
        (.ok ((office.voteOf ballot d.wallet.counter validUntil).signedBy office.identity))

theorem signs_signedVote (office : Office ω) (window : Option ValidUntil) (d : Desk ω)
    (proposal : Proposal) (choice : Choice) :
    Signs office window d proposal choice (signedVote office window d proposal choice) := by
  show Signs office window d proposal choice ((Ballot.cast proposal choice).bind fun ballot =>
    (resolved office window d).bind fun validUntil =>
      Fragment.sign (office.voteOf ballot d.wallet.counter validUntil) office.identity)
  rcases hcast : Ballot.cast proposal choice with e | ballot
  · exact .uncast hcast
  · rcases hresolve : resolved office window d with e | validUntil
    · exact .unresolved hcast hresolve
    · dsimp only [Except.bind]
      cases hw : (office.voteOf ballot d.wallet.counter validUntil).isWritable with
      | false =>
          rw [Fragment.sign_of_unwritable hw]
          exact .unwritable hcast hresolve hw
      | true =>
          rw [Fragment.sign_of_writable hw]
          exact .signed hcast hresolve hw

/-- Proposals that take a choice alike lead to the same signed vote. -/
theorem signedVote_eq {p q : Proposal} (h : Ballot.CastAlike choice p q) :
    signedVote office window d p choice = signedVote office window d q choice := by
  cases h with
  | failed hp hq =>
      unfold signedVote
      rw [hp, hq]
  | @cast n hp hq hplan hindex =>
      have hvote : ∀ counter validUntil,
          office.voteOf ⟨p, n⟩ counter validUntil = office.voteOf ⟨q, n⟩ counter validUntil := by
        intro counter validUntil
        unfold Office.voteOf
        rw [hplan, hindex]
      unfold signedVote
      rw [hp, hq]
      show (resolved office window d).bind (fun validUntil => Fragment.sign _ _) = _
      simp only [hvote]
      rfl

/-- What comes of a vote at a node that accepts it: a call with its fragment alone, or the failure
to sign it and no call at all. -/
inductive Delivered (calls : List (List Bytes)) :
    Except Failure Fragment → Except Failure (List Text) → List (List Bytes) → Prop
  | handed (fragment : Fragment) (id : Text) :
      Delivered calls (.ok fragment) (.ok [id]) ([fragment.bytes] :: calls)
  | failed (e : Failure) : Delivered calls (.error e) (.error e) calls

theorem Delivered.of_ok {calls calls' : List (List Bytes)} {fragment : Fragment}
    {result : Except Failure (List Text)} (h : Delivered calls (.ok fragment) result calls') :
    ∃ id, result = .ok [id] ∧ calls' = [fragment.bytes] :: calls := by
  cases h with
  | handed _ id => exact ⟨id, rfl, rfl⟩

theorem Delivered.of_error {calls calls' : List (List Bytes)} {e : Failure}
    {result : Except Failure (List Text)} (h : Delivered calls (.error e) result calls') :
    result = .error e ∧ calls' = calls := by
  cases h with
  | failed => exact ⟨rfl, rfl⟩

variable {node : Ledger.Client ω}

theorem vote_delivered {office : Office (Watched ω)} (d : Desk (Watched ω))
    (h : d.wallet.Disciplined outstanding)
    (hnode : office.client = Watched.client node) (hwelcomes : Welcomes node d.wallet)
    (proposal : Proposal) (choice : Choice) (window : Option ValidUntil) :
    Delivered d.world.calls (signedVote office window d proposal choice)
      (((vote office proposal choice window).effect d).1.map ([·]))
      ((vote office proposal choice window).effect d).2.world.calls := by
  have hsigns := signs_signedVote office window d proposal choice
  generalize signedVote office window d proposal choice = vote at hsigns ⊢
  cases hsigns with
  | uncast hcast =>
      rw [effect_vote_uncast hcast]
      exact .failed _
  | unresolved hcast hresolve =>
      rw [effect_vote_unresolved hcast hresolve]
      exact .failed _
  | unwritable hcast hresolve hw =>
      rw [effect_vote_unwritable h hcast hresolve hw]
      exact .failed _
  | @signed ballot validUntil hcast hresolve hw =>
      let fragment := (office.voteOf ballot d.wallet.counter validUntil).signedBy office.identity
      obtain ⟨id, hanswer, hid⟩ := hwelcomes.submit fragment.bytes d.world.world
      have hanswer : ((office.client.submit fragment.bytes).effect d.world).1 = .ok id := by
        rw [hnode]
        exact hanswer
      rw [effect_vote_accepted h hcast hresolve hw rfl hanswer hid, hnode]
      exact .handed fragment id

theorem voteBatch_delivered {office : Office (Watched ω)} (d : Desk (Watched ω))
    (h : d.wallet.Disciplined outstanding)
    (hnode : office.client = Watched.client node) (hwelcomes : Welcomes node d.wallet)
    (proposal : Proposal) (choice : Choice) (window : Option ValidUntil) :
    Delivered d.world.calls (signedVote office window d proposal choice)
      ((voteBatch office [(proposal, choice)] window).effect d).1
      ((voteBatch office [(proposal, choice)] window).effect d).2.world.calls := by
  -- a batch of one vote casts the ballot that the vote casts
  have hballots : ballots [(proposal, choice)] = (Ballot.cast proposal choice).map ([·]) := by
    show (Ballot.cast proposal choice).bind _ = _
    cases Ballot.cast proposal choice <;> rfl
  have hsigns := signs_signedVote office window d proposal choice
  generalize signedVote office window d proposal choice = vote at hsigns ⊢
  cases hsigns with
  | uncast hcast =>
      rw [hcast] at hballots
      rw [effect_voteBatch_uncast hballots]
      exact .failed _
  | unresolved hcast hresolve =>
      rw [hcast] at hballots
      rw [effect_voteBatch_unresolved hballots (List.cons_ne_nil _ _) hresolve]
      exact .failed _
  | unwritable hcast hresolve hw =>
      rw [hcast] at hballots
      obtain ⟨n, _, heffect⟩ := effect_voteBatch_unwritable h hballots hresolve
        ⟨_, List.mem_cons_self, hw⟩
      rw [heffect]
      exact .failed _
  | @signed ballot validUntil hcast hresolve hw =>
      rw [hcast] at hballots
      let fragment := (office.voteOf ballot d.wallet.counter validUntil).signedBy office.identity
      obtain ⟨id, hanswer, hid⟩ := hwelcomes.submitAll fragment.bytes d.world.world
      have hfresh : d.wallet.Fresh 1 [id] :=
        ⟨rfl, List.nodup_singleton id, by simpa using hid⟩
      have hanswer : ((office.client.submitAll [fragment.bytes]).effect d.world).1 =
          .ok [id] := by
        rw [hnode]
        exact hanswer
      have hall : ∀ tx ∈ office.votesOf validUntil [ballot] d.wallet, tx.isWritable = true := by
        intro tx htx
        obtain rfl := List.mem_singleton.mp htx
        exact hw
      rw [effect_voteBatch_accepted h hballots (List.cons_ne_nil _ _) hresolve hall hanswer hfresh,
        hnode]
      exact .handed fragment id

end Submission

namespace Controller

open Submission

variable {session : Session} {named : Text} {choice : Choice} {window : Option ValidUntil}

/-- The signed vote on the proposal that `pick` finds among those that the node publishes. -/
def signedVoteOn (c : Controller ω) (session : Session)
    (pick : Text → List Proposal → Option Proposal) (named : Text) (choice : Choice)
    (window : Option ValidUntil) : Except Failure Fragment := do
  let ps ← (c.client.proposals.effect c.world).1
  (pick named ps).elim (.error (.unknownProposal named)) fun proposal =>
    signedVote (c.officeOf session) (window.or c.options.validUntil)
      ⟨c.wallet, (c.client.proposals.effect c.world).2⟩ proposal choice

variable {c : Controller ω}

theorem signedVoteOn_unanswered {e : Failure}
    (hask : (c.client.proposals.effect c.world).1 = .error e)
    (pick : Text → List Proposal → Option Proposal) :
    c.signedVoteOn session pick named choice window = .error e := by
  unfold signedVoteOn
  rw [hask]
  rfl

theorem signedVoteOn_missing {ps : List Proposal}
    (hask : (c.client.proposals.effect c.world).1 = .ok ps)
    {pick : Text → List Proposal → Option Proposal} (hpick : pick named ps = none) :
    c.signedVoteOn session pick named choice window = .error (.unknownProposal named) := by
  unfold signedVoteOn
  rw [hask]
  show (pick named ps).elim _ _ = _
  rw [hpick]
  rfl

theorem signedVoteOn_found {ps : List Proposal}
    (hask : (c.client.proposals.effect c.world).1 = .ok ps)
    {pick : Text → List Proposal → Option Proposal} {p : Proposal}
    (hpick : pick named ps = some p) :
    c.signedVoteOn session pick named choice window =
      signedVote (c.officeOf session) (window.or c.options.validUntil)
        ⟨c.wallet, (c.client.proposals.effect c.world).2⟩ p choice := by
  unfold signedVoteOn
  rw [hask]
  show (pick named ps).elim _ _ = _
  rw [hpick]
  rfl

/-- One vote on a proposal that is named by its identifier. -/
theorem effect_resolveVotes (hsession : c.session = some session) (id : Text) (choice : Choice) :
    (resolveVotes none [(.id id, choice)]).effect c =
      ((c.client.proposals.effect c.world).1.bind fun ps =>
          (lastWithId? id ps).elim (.error (.unknownProposal id)) fun p => .ok [(p, choice)],
        { c with world := (c.client.proposals.effect c.world).2 }) := by
  unfold resolveVotes
  dsimp only
  rw [effect_bind, effect_proposals hsession]
  rcases (c.client.proposals.effect c.world).1 with e | ps
  · rfl
  · show _ = ((lastWithId? id ps).elim _ _, _)
    dsimp only
    rcases lastWithId? id ps with _ | p <;> rfl

variable {c : Controller (Watched ω)} {node : Ledger.Client ω}

/-- What comes of a vote on the proposal that is found, if what is done with it delivers. -/
theorem delivered_of_found {α : Type} (hnode : c.client = Watched.client node)
    {pick : Text → List Proposal → Option Proposal} {find : Action (Controller (Watched ω)) α}
    {item : Proposal → α}
    (hfind : find.effect c =
      ((c.client.proposals.effect c.world).1.bind fun ps =>
          (pick named ps).elim (.error (.unknownProposal named)) fun p => .ok (item p),
        { c with world := (c.client.proposals.effect c.world).2 }))
    {act : α → Action (Controller (Watched ω)) (List Text)}
    (hact : ∀ p (d : Desk (Watched ω)), d = ⟨c.wallet, (c.client.proposals.effect c.world).2⟩ →
      Delivered d.world.calls
        (signedVote (c.officeOf session) (window.or c.options.validUntil) d p choice)
        ((act (item p)).effect { c with world := d.world }).1
        ((act (item p)).effect { c with world := d.world }).2.world.calls) :
    Delivered c.world.calls (c.signedVoteOn session pick named choice window)
      ((find >>= act).effect c).1 ((find >>= act).effect c).2.world.calls := by
  have hcalls : (c.client.proposals.effect c.world).2.calls = c.world.calls := by
    rw [hnode]
    rfl
  rw [effect_bind, hfind, ← hcalls]
  rcases hask : (c.client.proposals.effect c.world).1 with e | ps
  · rw [signedVoteOn_unanswered hask]
    exact .failed e
  · dsimp only [Except.bind]
    rcases hpick : pick named ps with _ | p
    · rw [signedVoteOn_missing hask hpick]
      exact .failed _
    · rw [signedVoteOn_found hask hpick]
      exact hact p _ rfl

/-- **A vote goes to the first proposal with the identifier.** -/
theorem vote_first (hsession : c.session = some session) (h : c.wallet.Disciplined [])
    (hnode : c.client = Watched.client node) (hwelcomes : Welcomes node c.wallet) (named : Text)
    (choice : Choice) (window : Option ValidUntil) :
    Delivered c.world.calls (c.signedVoteOn session firstWithId? named choice window)
      (((vote (.id named) choice window).effect c).1.map ([·]))
      ((vote (.id named) choice window).effect c).2.world.calls := by
  have hvote : (([·]) <$> vote (.id named) choice window).effect c =
      (findProposal named >>= fun p => ([·]) <$> cast session p choice window).effect c := by
    unfold vote
    rw [map_bind, effect_bind_ok (effect_requireSession hsession _)]
    exact map_bind _ _ _
  rw [effect_map] at hvote
  have hdelivered : Delivered c.world.calls
      (c.signedVoteOn session firstWithId? named choice window)
      ((findProposal named >>= fun p => ([·]) <$> cast session p choice window).effect c).1
      ((findProposal named >>= fun p => ([·]) <$> cast session p choice window).effect
        c).2.world.calls := by
    refine delivered_of_found hnode (effect_findProposal hsession named) ?_
    rintro p d rfl
    rw [effect_map]
    exact vote_delivered ⟨c.wallet, _⟩ h (show (c.officeOf session).client = _ from hnode)
      hwelcomes p choice (window.or c.options.validUntil)
  rw [← hvote] at hdelivered
  exact hdelivered

/-- **A batch takes the last proposal with the identifier.** -/
theorem votesBatch_last (hsession : c.session = some session) (h : c.wallet.Disciplined [])
    (hnode : c.client = Watched.client node) (hwelcomes : Welcomes node c.wallet) (named : Text)
    (choice : Choice) (window : Option ValidUntil) :
    Delivered c.world.calls (c.signedVoteOn session lastWithId? named choice window)
      ((votesBatch [(.id named, choice)] window).effect c).1
      ((votesBatch [(.id named, choice)] window).effect c).2.world.calls := by
  unfold votesBatch
  rw [effect_bind_ok (effect_requireSession hsession _)]
  refine delivered_of_found hnode (effect_resolveVotes hsession named choice) ?_
  rintro p d rfl
  exact voteBatch_delivered ⟨c.wallet, _⟩ h (show (c.officeOf session).client = _ from hnode)
    hwelcomes p choice (window.or c.options.validUntil)

/-! ## Singly and in a batch -/

theorem lastWithId?_eq_none_iff {id : Text} {ps : List Proposal} :
    lastWithId? id ps = none ↔ firstWithId? id ps = none := by
  simp [lastWithId?, firstWithId?]

/-- The first and the last proposal that the node publishes with an identifier take a choice
alike. -/
def NamesAlike (c : Controller ω) (named : Text) (choice : Choice) : Prop :=
  ∀ ps p q, (c.client.proposals.effect c.world).1 = .ok ps → firstWithId? named ps = some p →
    lastWithId? named ps = some q → Ballot.CastAlike choice p q

theorem signedVoteOn_eq {c : Controller ω} (h : c.NamesAlike named choice) :
    c.signedVoteOn session firstWithId? named choice window =
      c.signedVoteOn session lastWithId? named choice window := by
  rcases hask : (c.client.proposals.effect c.world).1 with e | ps
  · rw [signedVoteOn_unanswered hask, signedVoteOn_unanswered hask]
  · rcases hfirst : firstWithId? named ps with _ | p
    · have hlast := lastWithId?_eq_none_iff.mpr hfirst
      rw [signedVoteOn_missing hask hfirst, signedVoteOn_missing hask hlast]
    · rcases hlast : lastWithId? named ps with _ | q
      · rw [lastWithId?_eq_none_iff.mp hlast] at hfirst
        cases hfirst
      · rw [signedVoteOn_found hask hfirst, signedVoteOn_found hask hlast]
        exact signedVote_eq (h ps p q hask hfirst hlast)

/-- A fragment is a vote for a choice on the first proposal with an identifier. -/
structure VotesOn (c : Controller ω) (named : Text) (choice : Choice) (fragment : Fragment)
    (p : Proposal) (n : Int) : Prop where
  published : ∃ ps, (c.client.proposals.effect c.world).1 = .ok ps ∧
    firstWithId? named ps = some p
  cast : Ballot.cast p choice = .ok ⟨p, n⟩
  kind : fragment.transaction.kind = .voteCast
  votePlan : fragment.transaction.votePlan = .text p.votePlan
  index : fragment.transaction.proposalIndex = p.index
  choice : fragment.transaction.choice = n

theorem votesOn_of_signedVoteOn {c : Controller ω} {fragment : Fragment}
    (h : c.signedVoteOn session firstWithId? named choice window = .ok fragment) :
    ∃ p n, c.VotesOn named choice fragment p n := by
  obtain ⟨ps, hask, _⟩ := exists_of_bind_ok h
  rcases hfirst : firstWithId? named ps with _ | p
  · rw [signedVoteOn_missing hask hfirst] at h
    cases h
  · rw [signedVoteOn_found hask hfirst] at h
    have hsigns := signs_signedVote (c.officeOf session) (window.or c.options.validUntil)
      ⟨c.wallet, (c.client.proposals.effect c.world).2⟩ p choice
    rw [h] at hsigns
    cases hsigns with
    | @signed ballot validUntil hcast _ _ =>
        obtain rfl := Ballot.proposal_of_cast hcast
        exact ⟨ballot.proposal, ballot.choice, ⟨ps, hask, hfirst⟩, hcast, rfl, rfl, rfl, rfl⟩

/-- The ways in which a vote on a named proposal ends alike, singly and in a batch. Without a
session both refuse, each under its own name. -/
inductive EndsAlike (c : Controller (Watched ω)) (named : Text) (choice : Choice)
    (one : Except Failure Text × Controller (Watched ω))
    (batch : Except Failure (List Text) × Controller (Watched ω)) : Prop
  | unbegun : c.session = none → one = (.error (.notInitialized "vote"), c) →
      batch = (.error (.notInitialized "votes_batch"), c) → EndsAlike c named choice one batch
  | failed {e : Failure} : one.1 = .error e → batch.1 = .error e →
      one.2.world.calls = c.world.calls → batch.2.world.calls = c.world.calls →
      EndsAlike c named choice one batch
  | submitted {fragment : Fragment} {p : Proposal} {n : Int} {id id' : Text} :
      c.VotesOn named choice fragment p n → one.1 = .ok id → batch.1 = .ok [id'] →
      one.2.world.calls = [fragment.bytes] :: c.world.calls →
      batch.2.world.calls = [fragment.bytes] :: c.world.calls →
      EndsAlike c named choice one batch

/-- **By name, singly or in a batch.** In every session, at a node that accepts each submission
with an identifier that is not pending: if the first and the last proposal that go by an
identifier take the choice alike, then a vote on it fails with the same error singly and in a
batch, or the same ballot is submitted. -/
theorem named_alike {c : Controller (Watched ω)} (hc : c.session = none ∨ c.Reached)
    {node : Ledger.Client ω} (hnode : c.client = Watched.client node)
    (hwelcomes : Welcomes node c.wallet) (named : Text) (choice : Choice)
    (window : Option ValidUntil) (hsame : c.NamesAlike named choice) :
    EndsAlike c named choice ((vote (.id named) choice window).effect c)
      ((votesBatch [(.id named, choice)] window).effect c) := by
  obtain hnone | ⟨session, hsession⟩ := Option.eq_none_or_eq_some c.session
  · exact .unbegun hnone (effect_bind_error (effect_requireSession_none hnone _))
      (effect_bind_error (effect_requireSession_none hnone _))
  · have hreached : c.Reached := hc.resolve_left (by simp [hsession])
    have hone := vote_first hsession hreached.disciplined hnode hwelcomes named choice window
    have hbatch := votesBatch_last hsession hreached.disciplined hnode hwelcomes named choice window
    rw [← signedVoteOn_eq hsame] at hbatch
    rcases hvote : c.signedVoteOn session firstWithId? named choice window with e | fragment
    · rw [hvote] at hone hbatch
      obtain ⟨hresult, hcalls⟩ := hone.of_error
      exact .failed (map_singleton_error hresult) hbatch.of_error.1 hcalls hbatch.of_error.2
    · rw [hvote] at hone hbatch
      obtain ⟨p, n, hvotes⟩ := votesOn_of_signedVoteOn hvote
      obtain ⟨id, hresult, hcalls⟩ := hone.of_ok
      obtain ⟨id', hresult', hcalls'⟩ := hbatch.of_ok
      exact .submitted hvotes (map_singleton_ok hresult) hresult' hcalls hcalls'

/-- A node that publishes a proposal twice under one identifier, and another one in between. -/
def catalogue : Ledger.Client Unit :=
  { echoing with proposals := pure [question, { question with id := "q", index := 2 },
      { question with title := .text "again" }] }

theorem welcomes_catalogue : Welcomes catalogue {} where
  submit _ _ := ⟨_, rfl, List.not_mem_nil⟩
  submitAll _ _ := ⟨_, rfl, List.not_mem_nil⟩

/-- A session with that node. -/
def browsing : Controller (Watched Unit) :=
  { echoed with client := Watched.client catalogue }

/-- A vote on the proposal that is published twice. -/
theorem named_alike_catalogue :
    browsing.Reached ∧ browsing.NamesAlike "p" (.label (Text.ofChars ['y'])) ∧
      EndsAlike browsing "p" (.label (Text.ofChars ['y']))
        ((vote (.id "p") (.label (Text.ofChars ['y'])) none).effect browsing)
        ((votesBatch [(.id "p", .label (Text.ofChars ['y']))] none).effect browsing) := by
  have hreached : browsing.Reached := .fresh ⟨rfl, rfl⟩
  have hsame : browsing.NamesAlike "p" (.label (Text.ofChars ['y'])) := by
    intro ps p q hask hfirst hlast
    obtain rfl := Except.ok.inj hask
    obtain rfl := Option.some.inj hfirst
    obtain rfl := Option.some.inj hlast
    exact .cast rfl rfl rfl rfl
  exact ⟨hreached, hsame,
    named_alike (Or.inr hreached) rfl welcomes_catalogue "p" _ none hsame⟩

end Controller

end Wallet

end BallotWallet
