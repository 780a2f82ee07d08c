import BallotWallet.Proofs.Session

/-!
# All or nothing

A submission either makes all of its fragments pending, each with the reservation that it was
signed with, or it fails and the wallet is exactly as it was. The one exception is a vote that
cannot be signed because a number in it is too long to be written: what was reserved up to that
vote stays reserved.
-/

namespace BallotWallet

/-! ## Choices that are offered -/

/-- Whether a proposal offers what a voter asks for. -/
def Proposal.Offers (p : Proposal) : Choice → Prop
  | .label t => t ∈ p.labels
  | .number n => n ∈ p.options.map (·.2)

namespace Ballot

theorem ofChoice_ok {p : Proposal} {n : Int} (h : n ∈ p.options.map (·.2)) :
    ofChoice p n = .ok ⟨p, n⟩ := by
  have hoffers : p.offers n = true := by
    obtain ⟨entry, hentry, rfl⟩ := List.mem_map.mp h
    exact List.any_eq_true.mpr ⟨entry, hentry, beq_self_eq_true _⟩
  unfold ofChoice
  exact if_pos hoffers

theorem ofChoice_error {p : Proposal} {n : Int} (h : n ∉ p.options.map (·.2)) :
    ofChoice p n = .error (.invalidChoice (toString n) p.labels) := by
  have hoffers : ¬ p.offers n = true := by
    intro hany
    obtain ⟨entry, hentry, he⟩ := List.any_eq_true.mp hany
    exact h (List.mem_map.mpr ⟨entry, hentry, by simpa using he⟩)
  unfold ofChoice
  exact if_neg hoffers

/-- A vote can be cast exactly for what the proposal offers. -/
theorem cast_cases (p : Proposal) (choice : Choice) :
    ((∃ ballot, cast p choice = .ok ballot) ∧ p.Offers choice) ∨
      ((∃ t labels, cast p choice = .error (.invalidChoice t labels)) ∧ ¬ p.Offers choice) := by
  cases choice with
  | number n =>
      by_cases h : n ∈ p.options.map (·.2)
      · exact Or.inl ⟨⟨_, ofChoice_ok h⟩, h⟩
      · exact Or.inr ⟨⟨_, _, ofChoice_error h⟩, h⟩
  | label t =>
      cases hlookup : p.options.lookup t with
      | none =>
          have hcast : cast p (.label t) = .error (.invalidChoice t p.labels) := by
            show (p.choiceFor t).bind (ofChoice p) = _
            rw [Proposal.choiceFor, hlookup]
            rfl
          refine Or.inr ⟨⟨_, _, hcast⟩, ?_⟩
          intro hlabel
          obtain ⟨entry, hentry, he⟩ := List.mem_map.mp hlabel
          exact absurd he.symm (bne_iff_ne.mp (List.lookup_eq_none_iff.mp hlookup entry hentry))
      | some n =>
          obtain ⟨first, rest, hoptions, _⟩ := List.lookup_eq_some_iff.mp hlookup
          have hentry : (t, n) ∈ p.options := by
            rw [hoptions]
            exact List.mem_append_right _ List.mem_cons_self
          have hcast : cast p (.label t) = .ok ⟨p, n⟩ := by
            show (p.choiceFor t).bind (ofChoice p) = _
            rw [Proposal.choiceFor, hlookup]
            exact ofChoice_ok (List.mem_map.mpr ⟨_, hentry, rfl⟩)
          exact Or.inl ⟨⟨_, hcast⟩, List.mem_map.mpr ⟨_, hentry, rfl⟩⟩

end Ballot

namespace Wallet

open BallotWallet.Action

variable {ω : Type}

namespace Submission

/-- Votes can be cast together exactly if each of them can be cast. -/
theorem ballots_cases (items : List (Proposal × Choice)) :
    ((∃ cast, ballots items = .ok cast ∧ cast.length = items.length) ∧
        ∀ item ∈ items, item.1.Offers item.2) ∨
      ((∃ t labels, ballots items = .error (.invalidChoice t labels)) ∧
        ¬ ∀ item ∈ items, item.1.Offers item.2) := by
  induction items with
  | nil => exact Or.inl ⟨⟨[], rfl, rfl⟩, by simp⟩
  | cons item items ih =>
      obtain ⟨proposal, choice⟩ := item
      have hunfold : ballots ((proposal, choice) :: items) =
          (Ballot.cast proposal choice).bind fun ballot =>
            (ballots items).bind fun rest => .ok (ballot :: rest) := rfl
      rw [hunfold]
      rcases Ballot.cast_cases proposal choice with
        ⟨⟨ballot, hcast⟩, hoffers⟩ | ⟨⟨t, ls, hcast⟩, hnot⟩
      · rw [hcast]
        rcases ih with ⟨⟨cast, hcasts, hlen⟩, hall⟩ | ⟨⟨t, ls, hcasts⟩, hnot⟩
        · left
          refine ⟨⟨ballot :: cast, by rw [hcasts]; rfl, by simp [hlen]⟩, ?_⟩
          intro item hitem
          rcases List.mem_cons.mp hitem with rfl | hitem
          · exact hoffers
          · exact hall item hitem
        · right
          refine ⟨⟨t, ls, by rw [hcasts]; rfl⟩, ?_⟩
          exact fun hall => hnot fun item hitem => hall item (List.mem_cons_of_mem _ hitem)
      · right
        rw [hcast]
        exact ⟨⟨t, ls, rfl⟩, fun hall => hnot (hall _ List.mem_cons_self)⟩

theorem length_ballots {items : List (Proposal × Choice)} {cast : List Ballot}
    (hcast : ballots items = .ok cast) :
    cast.length = items.length := by
  rcases ballots_cases items with ⟨⟨found, hfound, hlen⟩, _⟩ | ⟨⟨t, labels, hbad⟩, _⟩
  · rw [hcast] at hfound
    cases hfound
    exact hlen
  · rw [hcast] at hbad
    cases hbad

theorem ballots_ne_nil {items : List (Proposal × Choice)} {cast : List Ballot}
    (hcast : ballots items = .ok cast) (hne : items ≠ []) : cast ≠ [] := by
  rw [← List.length_pos_iff_ne_nil, length_ballots hcast]
  exact List.length_pos_iff_ne_nil.mpr hne

end Submission

/-! ## Submissions -/

/-- A client that answers a submission with identifiers, or fails as a node does. -/
structure Answers (client : Ledger.Client ω) : Prop where
  submit : ∀ fragment w e, ((client.submit fragment).effect w).1 = .error e → e.isBackend = true
  submitAll : ∀ fragments w e,
    ((client.submitAll fragments).effect w).1 = .error e → e.isBackend = true

theorem Answers.one {client : Ledger.Client ω} (h : Answers client) {fragment : Bytes} {w : ω}
    {e : Failure} (he : ((client.submit fragment).effect w).1.map ([·]) = .error e) :
    e.isBackend = true := by
  rcases hask : ((client.submit fragment).effect w).1 with e' | id
  · rw [hask] at he
    cases he
    exact h.submit fragment w e hask
  · rw [hask] at he
    cases he

/-- Fragments have become pending in order, each with its reservation, and what they take is gone
from the balance. -/
structure Submitted (before after : State) (ids : List Text) (rs : List Reservation) : Prop where
  length_eq : ids.length = rs.length
  pending_eq : after.pending = before.pending ++ ids.zip rs
  balance_eq : after.balance = before.balance - (rs.map (·.value)).sum

/-- All or nothing: the fragments become pending under the identifiers that the node gives, if
these are fresh; otherwise the wallet stays as it was. -/
structure AllOrNothing (before : State) (rs : List Reservation)
    (answer result : Except Failure (List Text)) (after : State) : Prop where
  accepted : ∀ ids, result = .ok ids → Submitted before after ids rs
  refused : ∀ e, result = .error e → e.isBackend = true ∧ after = before
  succeeds_iff : ∀ ids, result = .ok ids ↔ answer = .ok ids ∧ before.Fresh rs.length ids

/-- What fragments are submitted with: reservations of values, or nothing at all. -/
def State.taken (count : Nat) (values : List Int) (s : State) : List Reservation :=
  if values.isEmpty then List.replicate count { counter := none } else s.reservations values

namespace Submission

/-- Submits one fragment with what is reserved for it first, if anything. -/
def sendReserving (client : Ledger.Client ω) (fragment : Bytes) (value : Option Int) :
    Action (Desk ω) Text := do
  let rs ← Desk.book (Book.reserveEach value.toList)
  send client fragment rs.head?

/-- Submits fragments with what is reserved for each of them first, if anything. -/
def sendManyReserving (client : Ledger.Client ω) (fragments : List Bytes) (values : List Int) :
    Action (Desk ω) (List Text) := do
  let rs ← Desk.book (Book.reserveEach values)
  sendMany client fragments (rs.map some)

variable {before after : State} {values : List Int} {count : Nat}
  {answer result : Except Failure (List Text)}

theorem fresh_reservedAll {ids : List Text} :
    (before.reservedAll values).Fresh count ids ↔ before.Fresh count ids := by
  have hids := State.reservedAll_pendingIds values before
  constructor
  · rintro ⟨hlen, hnodup, hnew⟩
    exact ⟨hlen, hnodup, hids ▸ hnew⟩
  · rintro ⟨hlen, hnodup, hnew⟩
    exact ⟨hlen, hnodup, hids.symm ▸ hnew⟩

theorem entries_taken {ids : List Text} (hcount : values = [] ∨ values.length = count)
    (hlen : ids.length = count) :
    State.entries ids ((before.reservations values).map some) =
      ids.zip (before.taken count values) := by
  unfold State.taken
  by_cases hvalues : values = []
  · subst hvalues
    rw [if_pos List.isEmpty_nil, ← hlen]
    exact State.entries_none ids
  · rw [if_neg (by simpa using hvalues)]
    refine State.entries_some ?_
    rw [State.length_reservations, hlen, hcount.resolve_left hvalues]

theorem length_taken (before : State) (hcount : values = [] ∨ values.length = count) :
    (before.taken count values).length = count := by
  unfold State.taken
  by_cases hvalues : values = []
  · rw [if_pos (by simp [hvalues]), List.length_replicate]
  · rw [if_neg (by simpa using hvalues), State.length_reservations, hcount.resolve_left hvalues]

theorem taken_sum : ((before.taken count values).map (·.value)).sum = values.sum := by
  unfold State.taken
  by_cases hvalues : values = []
  · subst hvalues
    simp
  · rw [if_neg (by simpa using hvalues), State.reservations_values]

/-- A submission that ends does so all or nothing, unless the client fails in its own way. -/
theorem Ended.whole (values : List Int)
    (h : Ended before (before.reservedAll values) count
      ((before.reservations values).map some) answer result after)
    (hcount : values = [] ∨ values.length = count)
    (hanswer : ∀ e, answer = .error e → e.isBackend = true) :
    AllOrNothing before (before.taken count values) answer result after := by
  have hlen := length_taken before hcount
  cases h with
  | @accepted ids hok hfresh =>
      have hfresh := fresh_reservedAll.mp hfresh
      refine ⟨?_, by rintro e ⟨⟩, ?_⟩
      · rintro _ ⟨⟩
        refine ⟨hfresh.length_eq.trans hlen.symm, ?_, ?_⟩
        · rw [← entries_taken hcount hfresh.length_eq]
          show (before.reservedAll values).pending ++ _ = _
          rw [State.reservedAll_pending]
        · rw [taken_sum]
          exact State.reservedAll_balance values before
      · intro ids'
        constructor
        · rintro ⟨⟩
          exact ⟨hok, hlen.symm ▸ hfresh⟩
        · rintro ⟨hok', _⟩
          rw [hok] at hok'
          cases hok'
          rfl
  | refused he hnot =>
      refine ⟨by rintro ids ⟨⟩, ?_, ?_⟩
      · rintro _ ⟨⟩
        exact ⟨he, rfl⟩
      · intro ids
        constructor
        · rintro ⟨⟩
        · rintro ⟨hok, hfresh⟩
          exact absurd (fresh_reservedAll.mpr (hlen ▸ hfresh)) (hnot ids hok)
  | broken he herr =>
      rw [hanswer _ herr] at he
      cases he

theorem sendMany_all_or_nothing {client : Ledger.Client ω} (hclient : Answers client)
    {d : Desk ω} (h : d.wallet.Disciplined []) {fragments : List Bytes}
    (hcount : values = [] ∨ values.length = fragments.length) :
    AllOrNothing d.wallet (d.wallet.taken fragments.length values)
      ((client.submitAll fragments).effect d.world).1
      ((sendManyReserving client fragments values).effect d).1
      ((sendManyReserving client fragments values).effect d).2.wallet := by
  have hreserve := Desk.effect_book_eq (d := d) (Book.effect_reserveEach h values)
  have hrs : (d.wallet.reservations values).map some = [] ∨
      ((d.wallet.reservations values).map some).length = fragments.length := by
    rcases hcount with rfl | hcount
    · exact Or.inl rfl
    · right
      simpa using hcount
  have hended := sendMany_ended client
    { d with wallet := d.wallet.reservedAll values } fragments hrs
    (effect_releaseEach_reservations h values)
  unfold sendManyReserving
  rw [effect_bind_ok hreserve]
  exact hended.1.whole _ hcount fun e => hclient.submitAll fragments d.world e

theorem send_all_or_nothing {client : Ledger.Client ω} (hclient : Answers client)
    {d : Desk ω} (h : d.wallet.Disciplined []) (fragment : Bytes) (value : Option Int) :
    AllOrNothing d.wallet (d.wallet.taken 1 value.toList)
      (((client.submit fragment).effect d.world).1.map ([·]))
      (((sendReserving client fragment value).effect d).1.map ([·]))
      ((sendReserving client fragment value).effect d).2.wallet := by
  have hreserve := Desk.effect_book_eq (d := d) (Book.effect_reserveEach h value.toList)
  have hrs : (d.wallet.reservations value.toList).head?.toList.map some =
      (d.wallet.reservations value.toList).map some := by
    cases value <;> rfl
  have hback := effect_releaseEach_reservations h value.toList
  rw [← hrs] at hback
  have hcount : value.toList = [] ∨ value.toList.length = 1 := by cases value <;> simp
  have hended := send_ended client
    { d with wallet := d.wallet.reservedAll value.toList } fragment hback
  rw [hrs] at hended
  unfold sendReserving
  rw [effect_bind_ok hreserve]
  exact hended.1.whole _ hcount fun e he => hclient.one he

/-! ## Votes -/

variable {office : Office ω} {window : Option ValidUntil} {d : Desk ω}
  {items : List (Proposal × Choice)} {ask : List Bytes → Except Failure (List Text)}
  {cast : List Ballot} {validUntil : BlockDate}

/-- Whether all votes can be signed, in case they can be cast and the window can be resolved. -/
def Signable (office : Office ω) (window : Option ValidUntil) (d : Desk ω)
    (items : List (Proposal × Choice)) : Prop :=
  ∀ cast validUntil, ballots items = .ok cast → resolved office window d = .ok validUntil →
    ∀ tx ∈ office.votesOf validUntil cast d.wallet, tx.isWritable = true

/-- All or nothing for votes. They succeed exactly if the proposals offer what is asked for, the
window can be resolved and the node gives fresh identifiers; `ask` is how it is asked for them. -/
structure VotesAllOrNothing (office : Office ω) (window : Option ValidUntil) (d : Desk ω)
    (items : List (Proposal × Choice)) (ask : List Bytes → Except Failure (List Text))
    (result : Except Failure (List Text)) (after : State) : Prop where
  accepted : ∀ ids, result = .ok ids → ∃ txs rs, List.Forall₂ office.Builds txs rs ∧
    ask (txs.map fun tx => (tx.signedBy office.identity).bytes) = .ok ids ∧
    Submitted d.wallet after ids rs
  refused : ∀ e, result = .error e → after = d.wallet ∧
    ((∃ t labels, e = .invalidChoice t labels) ∨ e.isBackend = true ∨
      resolved office window d = .error e)
  succeeds_iff : (∃ ids, result = .ok ids) ↔ (∀ item ∈ items, item.1.Offers item.2) ∧
    ∃ validUntil, resolved office window d = .ok validUntil ∧
      ∃ cast ids, ballots items = .ok cast ∧
        ask (votesSigned office validUntil cast d.wallet) = .ok ids ∧
        d.wallet.Fresh items.length ids

theorem votes_uncast {t : Text} {labels : List Text}
    (hnot : ¬ ∀ item ∈ items, item.1.Offers item.2) :
    VotesAllOrNothing office window d items ask (.error (.invalidChoice t labels)) d.wallet := by
  refine ⟨by rintro ids ⟨⟩, ?_, ?_⟩
  · rintro _ ⟨⟩
    exact ⟨rfl, Or.inl ⟨t, labels, rfl⟩⟩
  · constructor
    · rintro ⟨ids, ⟨⟩⟩
    · exact fun h => absurd h.1 hnot

theorem votes_unresolved {e : Failure} (hresolve : resolved office window d = .error e) :
    VotesAllOrNothing office window d items ask (.error e) d.wallet := by
  refine ⟨by rintro ids ⟨⟩, ?_, ?_⟩
  · rintro _ ⟨⟩
    exact ⟨rfl, Or.inr (Or.inr hresolve)⟩
  · constructor
    · rintro ⟨ids, ⟨⟩⟩
    · rintro ⟨_, validUntil, hok, _⟩
      rw [hresolve] at hok
      cases hok

/-- Votes that are cast and signed are submitted like any fragments. -/
theorem votes_submitted (hcast : ballots items = .ok cast)
    (hresolve : resolved office window d = .ok validUntil) (hne : cast ≠ [])
    (h : AllOrNothing d.wallet (d.wallet.taken cast.length (office.voteFees cast))
      (ask (votesSigned office validUntil cast d.wallet)) result after) :
    VotesAllOrNothing office window d items ask result after := by
  have hfees : (office.voteFees cast).isEmpty = false := by
    rw [List.isEmpty_eq_false_iff, ← List.length_pos_iff_ne_nil, Office.length_voteFees]
    exact List.length_pos_iff_ne_nil.mpr hne
  have htaken : d.wallet.taken cast.length (office.voteFees cast) =
      d.wallet.reservations (office.voteFees cast) := by
    unfold State.taken
    rw [hfees, if_neg Bool.false_ne_true]
  rw [htaken] at h
  have hlen : (d.wallet.reservations (office.voteFees cast)).length = cast.length := by simp
  rcases ballots_cases items with ⟨⟨cast', hcast', hitems⟩, hall⟩ | ⟨⟨t, ls, hbad⟩, _⟩
  · rw [hcast] at hcast'
    cases hcast'
    refine ⟨?_, ?_, ?_⟩
    · intro ids hids
      exact ⟨_, _, office.votesOf_built validUntil cast d.wallet,
        ((h.succeeds_iff ids).mp hids).1, h.accepted ids hids⟩
    · intro e he
      obtain ⟨hback, hafter⟩ := h.refused e he
      exact ⟨hafter, Or.inr (Or.inl hback)⟩
    · constructor
      · rintro ⟨ids, hids⟩
        obtain ⟨hask, hfresh⟩ := (h.succeeds_iff ids).mp hids
        exact ⟨hall, validUntil, hresolve, cast, ids, hcast, hask, hitems ▸ hlen ▸ hfresh⟩
      · rintro ⟨_, validUntil', hresolve', cast', ids, hcast', hask, hfresh⟩
        rw [hresolve] at hresolve'
        rw [hcast] at hcast'
        cases hresolve'
        cases hcast'
        exact ⟨ids, (h.succeeds_iff ids).mpr ⟨hask, hlen ▸ hitems ▸ hfresh⟩⟩
  · rw [hcast] at hbad
    cases hbad

/-- The node need only answer the one request that submits the votes. -/
theorem voteBatch_answered
    (hanswer : ∀ cast validUntil e, ballots items = .ok cast →
      resolved office window d = .ok validUntil →
      ((office.client.submitAll (votesSigned office validUntil cast d.wallet)).effect d.world).1 =
        .error e → e.isBackend = true)
    (h : d.wallet.Disciplined []) (hne : items ≠ []) (hsign : Signable office window d items) :
    VotesAllOrNothing office window d items
      (fun fragments => ((office.client.submitAll fragments).effect d.world).1)
      ((voteBatch office items window).effect d).1
      ((voteBatch office items window).effect d).2.wallet := by
  rcases ballots_cases items with ⟨⟨cast, hcast, _⟩, hall⟩ | ⟨⟨t, labels, hcast⟩, hnot⟩
  · have hcastne := ballots_ne_nil hcast hne
    cases hresolve : resolved office window d with
    | error e =>
        rw [effect_voteBatch_unresolved hcast hcastne hresolve]
        exact votes_unresolved hresolve
    | ok validUntil =>
        have hw := hsign cast validUntil hcast hresolve
        have hended := sendMany_ended office.client
          { d with wallet := d.wallet.reservedAll (office.voteFees cast) }
          (votesSigned office validUntil cast d.wallet)
          (Or.inr (by simp [votesSigned]))
          (effect_releaseEach_reservations h _)
        have hcount : (votesSigned office validUntil cast d.wallet).length = cast.length := by
          simp [votesSigned]
        rw [hcount] at hended
        rw [effect_voteBatch h hcast hcastne hresolve hw]
        exact votes_submitted hcast hresolve hcastne
          (hended.1.whole _ (Or.inr (by simp)) fun e => hanswer cast validUntil e hcast hresolve)
  · rw [effect_voteBatch_uncast hcast]
    exact votes_uncast hnot

theorem voteBatch_all_or_nothing (hclient : Answers office.client)
    (h : d.wallet.Disciplined []) (hne : items ≠ []) (hsign : Signable office window d items) :
    VotesAllOrNothing office window d items
      (fun fragments => ((office.client.submitAll fragments).effect d.world).1)
      ((voteBatch office items window).effect d).1
      ((voteBatch office items window).effect d).2.wallet :=
  voteBatch_answered (fun _ _ e _ _ => hclient.submitAll _ _ e) h hne hsign

/-- A vote that cannot be signed leaves the wallet changed. -/
theorem reservedAll_ne (h : d.wallet.Disciplined []) (n : Nat) (value : Int) :
    d.wallet.reservedAll (List.replicate (n + 1) value) ≠ d.wallet := by
  intro heq
  have hreserved := h.reservedAll (List.replicate (n + 1) value)
  -- the counter is in flight afterwards and was not before
  have hin := hreserved.held_inFlight d.wallet.counter (by
    simp [State.reservations, Reservation.counters, List.replicate_succ])
  rw [heq] at hin
  exact h.counter_free hin

/-- Submits fragments one after another. -/
def submitEach (client : Ledger.Client ω) : List Bytes → Action ω (List Text)
  | [] => pure []
  | fragment :: fragments => do
    let id ← client.submit fragment
    return id :: (← submitEach client fragments)

theorem effect_submitEach_one (client : Ledger.Client ω) (fragment : Bytes) (w : ω) :
    ((submitEach client [fragment]).effect w).1 =
      ((client.submit fragment).effect w).1.map ([·]) := by
  unfold submitEach
  rw [effect_bind]
  rcases (client.submit fragment).effect w with ⟨⟨e⟩ | ⟨id⟩, w'⟩ <;> rfl

theorem ballots_one {proposal : Proposal} {choice : Choice} {ballot : Ballot}
    (hcast : Ballot.cast proposal choice = .ok ballot) :
    ballots [(proposal, choice)] = .ok [ballot] := by
  show (Ballot.cast proposal choice).bind (fun ballot => _) = _
  rw [hcast]
  rfl

theorem vote_all_or_nothing (hclient : Answers office.client) (h : d.wallet.Disciplined [])
    {proposal : Proposal} {choice : Choice}
    (hsign : Signable office window d [(proposal, choice)]) :
    VotesAllOrNothing office window d [(proposal, choice)]
      (fun fragments => ((submitEach office.client fragments).effect d.world).1)
      (((vote office proposal choice window).effect d).1.map ([·]))
      ((vote office proposal choice window).effect d).2.wallet := by
  rcases Ballot.cast_cases proposal choice with ⟨⟨ballot, hcast⟩, hoffers⟩ | ⟨⟨t, ls, hcast⟩, hnot⟩
  · cases hresolve : resolved office window d with
    | error e =>
        rw [effect_vote_unresolved hcast hresolve]
        exact votes_unresolved hresolve
    | ok validUntil =>
        have hw := hsign [ballot] validUntil (ballots_one hcast) hresolve _ List.mem_cons_self
        have hback := effect_releaseEach_reservations h [office.settings.fees.vote]
        have hended := send_ended office.client
          { d with wallet := d.wallet.reserved office.settings.fees.vote }
          ((office.voteOf ballot d.wallet.counter validUntil).signedBy office.identity).bytes
          (r := some { counter := some d.wallet.counter, value := office.settings.fees.vote })
          hback
        rw [← effect_submitEach_one] at hended
        rw [effect_vote h hcast hresolve hw]
        refine votes_submitted (ballots_one hcast) hresolve (List.cons_ne_nil _ _)
          (hended.1.whole [office.settings.fees.vote] (Or.inr rfl) ?_)
        intro e he
        exact hclient.one ((effect_submitEach_one _ _ _).symm.trans he)
  · rw [effect_vote_uncast hcast]
    exact votes_uncast fun hall => hnot (hall _ List.mem_cons_self)

theorem vote_unsignable (h : d.wallet.Disciplined []) {proposal : Proposal} {choice : Choice}
    (hsign : ¬ Signable office window d [(proposal, choice)]) :
    (vote office proposal choice window).effect d =
      (.error .badValue, { d with wallet := d.wallet.reserved office.settings.fees.vote }) := by
  unfold Signable at hsign
  push Not at hsign
  obtain ⟨cast, validUntil, hcasts, hresolve, tx, htx, hw⟩ := hsign
  rcases Ballot.cast_cases proposal choice with ⟨⟨ballot, hcast⟩, _⟩ | ⟨⟨t, ls, hcast⟩, hnot⟩
  · rw [ballots_one hcast] at hcasts
    cases hcasts
    obtain rfl := List.mem_singleton.mp htx
    exact effect_vote_unwritable h hcast hresolve (by simpa using hw)
  · rcases ballots_cases [(proposal, choice)] with ⟨_, hall⟩ | ⟨⟨t, ls, hbad⟩, _⟩
    · exact absurd (hall _ List.mem_cons_self) hnot
    · rw [hbad] at hcasts
      cases hcasts

theorem voteBatch_unsignable (h : d.wallet.Disciplined [])
    (hsign : ¬ Signable office window d items) :
    ∃ n < items.length, (voteBatch office items window).effect d =
      (.error .badValue, { d with
        wallet := d.wallet.reservedAll
          (List.replicate (n + 1) office.settings.fees.vote) }) := by
  unfold Signable at hsign
  push Not at hsign
  obtain ⟨cast, validUntil, hcasts, hresolve, tx, htx, hw⟩ := hsign
  rcases ballots_cases items with ⟨⟨cast', hcast', hlen⟩, _⟩ | ⟨⟨t, ls, hbad⟩, _⟩
  · rw [hcasts] at hcast'
    cases hcast'
    obtain ⟨n, hn, heffect⟩ := effect_voteBatch_unwritable h hcasts hresolve
      ⟨tx, htx, by simpa using hw⟩
    exact ⟨n, hlen ▸ hn, heffect⟩
  · rw [hbad] at hcasts
    cases hcasts

/-- **All or nothing.** In every session, whatever identifiers the node gives and whenever it
refuses: submissions of fragments, with or without reservations, either make all of them pending
or restore the wallet as it was before the reservations. So do votes that can be signed. A vote
that cannot be signed fails and leaves what was reserved for it, and for those before it in a
batch, behind. -/
theorem all_or_nothing {c : Controller ω} (hc : c.Reached) (office : Office ω)
    (hclient : Answers office.client) (world : ω) :
    (∀ fragment value, AllOrNothing c.wallet (c.wallet.taken 1 value.toList)
      (((office.client.submit fragment).effect world).1.map ([·]))
      (((sendReserving office.client fragment value).effect ⟨c.wallet, world⟩).1.map ([·]))
      ((sendReserving office.client fragment value).effect ⟨c.wallet, world⟩).2.wallet) ∧
    (∀ fragments values, (values = [] ∨ values.length = fragments.length) →
      AllOrNothing c.wallet (c.wallet.taken fragments.length values)
        ((office.client.submitAll fragments).effect world).1
        ((sendManyReserving office.client fragments values).effect ⟨c.wallet, world⟩).1
        ((sendManyReserving office.client fragments values).effect ⟨c.wallet, world⟩).2.wallet) ∧
    (∀ proposal choice window,
      (Signable office window ⟨c.wallet, world⟩ [(proposal, choice)] →
        VotesAllOrNothing office window ⟨c.wallet, world⟩ [(proposal, choice)]
          (fun fragments => ((submitEach office.client fragments).effect world).1)
          (((vote office proposal choice window).effect ⟨c.wallet, world⟩).1.map ([·]))
          ((vote office proposal choice window).effect ⟨c.wallet, world⟩).2.wallet) ∧
      (¬ Signable office window ⟨c.wallet, world⟩ [(proposal, choice)] →
        ((vote office proposal choice window).effect ⟨c.wallet, world⟩).1 = .error .badValue ∧
        ((vote office proposal choice window).effect ⟨c.wallet, world⟩).2.wallet =
          c.wallet.reserved office.settings.fees.vote ∧
        ((vote office proposal choice window).effect ⟨c.wallet, world⟩).2.wallet ≠ c.wallet)) ∧
    (∀ items window,
      (items = [] → (voteBatch office items window).effect ⟨c.wallet, world⟩ =
        (.ok [], ⟨c.wallet, world⟩)) ∧
      (items ≠ [] → Signable office window ⟨c.wallet, world⟩ items →
        VotesAllOrNothing office window ⟨c.wallet, world⟩ items
          (fun fragments => ((office.client.submitAll fragments).effect world).1)
          ((voteBatch office items window).effect ⟨c.wallet, world⟩).1
          ((voteBatch office items window).effect ⟨c.wallet, world⟩).2.wallet) ∧
      (¬ Signable office window ⟨c.wallet, world⟩ items →
        ((voteBatch office items window).effect ⟨c.wallet, world⟩).1 = .error .badValue ∧
        (∃ n < items.length,
          ((voteBatch office items window).effect ⟨c.wallet, world⟩).2.wallet =
            c.wallet.reservedAll (List.replicate (n + 1) office.settings.fees.vote)) ∧
        ((voteBatch office items window).effect ⟨c.wallet, world⟩).2.wallet ≠ c.wallet)) := by
  have h := hc.disciplined
  refine ⟨send_all_or_nothing hclient (d := ⟨c.wallet, world⟩) h,
    fun fragments values => sendMany_all_or_nothing hclient (d := ⟨c.wallet, world⟩) h,
    fun proposal choice window => ⟨vote_all_or_nothing hclient h, ?_⟩,
    fun items window => ⟨?_, voteBatch_all_or_nothing hclient h, ?_⟩⟩
  · intro hsign
    rw [vote_unsignable h hsign]
    exact ⟨rfl, rfl, reservedAll_ne (d := ⟨c.wallet, world⟩) h 0 _⟩
  · rintro rfl
    exact effect_voteBatch_nil rfl
  · intro hsign
    obtain ⟨n, hn, heffect⟩ := voteBatch_unsignable h hsign
    rw [heffect]
    exact ⟨rfl, ⟨n, hn, rfl⟩, reservedAll_ne (d := ⟨c.wallet, world⟩) h n _⟩

/-- An index that is too long to be written is enough for a vote not to be signed. -/
theorem not_signable_of_index {proposal : Proposal} {choice : Choice} (ballot : Ballot)
    (hcast : Ballot.cast proposal choice = .ok ballot)
    (hresolve : resolved office window d = .ok validUntil)
    (hindex : Numeral.isWritable ballot.proposal.index = false) :
    ¬ Signable office window d [(proposal, choice)] := by
  intro hsign
  have hw := hsign [ballot] validUntil (ballots_one hcast) hresolve _ List.mem_cons_self
  simp [Transaction.isWritable, Office.voteOf, Transaction.newVote, hindex] at hw

/-- A client that gives the same identifier to all fragments. -/
def repeating : Ledger.Client Unit where
  text := "repeating"
  settings := pure {}
  accountState _ := pure { value := 100, counter := 0 }
  submit _ := pure (Text.ofChars ['a'])
  submitAll fragments := pure (fragments.map fun _ => Text.ofChars ['a'])
  fragmentLogs := pure []
  proposals := pure []
  voteStatuses _ := pure []

/-- A session with that client. -/
def repeated : Controller Unit where
  options := {}
  client := repeating
  surroundings := { now := fun _ => Binary64.zero false, sleep := fun _ world => world }
  session := some ⟨.ofMaterial default, { fees := { constant := 2 } }⟩
  world := ()

/-- A proposal with an index that is too long to be written. -/
def endless : Proposal where
  id := "p"
  votePlan := "vp"
  index := Nat.pow 10 Numeral.maxDigits
  options := [(Text.ofChars ['y'], 0)]

/-- Two fragments get the same identifier, and what was reserved for them is given back; a vote
on the endless proposal keeps its counter and its fee. -/
theorem all_or_nothing_repeating :
    repeated.Reached ∧ Answers repeating ∧
      (∃ e, ((sendManyReserving repeating [[1], [2]] [30, 40]).effect ⟨repeated.wallet, ()⟩).1 =
        .error e) ∧
      ((sendManyReserving repeating [[1], [2]] [30, 40]).effect ⟨repeated.wallet, ()⟩).2.wallet =
        repeated.wallet ∧
      ∀ session, repeated.session = some session →
        ((vote (repeated.officeOf session) endless (.number 0)
          (some (.date ⟨0, 0⟩))).effect ⟨repeated.wallet, ()⟩).2.wallet ≠ repeated.wallet := by
  have hreached : repeated.Reached := .fresh ⟨rfl, rfl⟩
  have hanswers : Answers repeating := ⟨by rintro _ _ _ ⟨⟩, by rintro _ _ _ ⟨⟩⟩
  refine ⟨hreached, hanswers, ?_⟩
  have hmany : AllOrNothing repeated.wallet _ _ _ _ :=
    (all_or_nothing hreached (repeated.officeOf (repeated.session.get rfl)) hanswers ()).2.1
      [[1], [2]] [30, 40] (Or.inr rfl)
  have hfails : ∃ e, ((sendManyReserving repeating [[1], [2]] [30, 40]).effect
      ⟨repeated.wallet, ()⟩).1 = .error e := by
    rcases hresult : ((sendManyReserving repeating [[1], [2]] [30, 40]).effect
        ⟨repeated.wallet, ()⟩).1 with e | ids
    · exact ⟨e, rfl⟩
    · obtain ⟨hanswer, hfresh⟩ := (hmany.succeeds_iff ids).mp hresult
      cases hanswer
      exact absurd hfresh.nodup (by decide)
  obtain ⟨e, he⟩ := hfails
  refine ⟨⟨e, he⟩, (hmany.refused e he).2, ?_⟩
  intro session hsession
  have hsign : ¬ Signable (repeated.officeOf session) (some (.date ⟨0, 0⟩)) ⟨repeated.wallet, ()⟩
      [(endless, .number 0)] := by
    refine not_signable_of_index ⟨endless, 0⟩
      (Ballot.ofChoice_ok List.mem_cons_self) rfl ?_
    show decide (Int.natAbs ((Nat.pow 10 Numeral.maxDigits : Nat) : Int) < _) = false
    rw [Int.natAbs_natCast]
    exact decide_eq_false (Nat.lt_irrefl _)
  exact ((all_or_nothing hreached (repeated.officeOf session) hanswers ()).2.2.1
    endless (.number 0) (some (.date ⟨0, 0⟩))).2 hsign |>.2.2

end Submission

end Wallet

end BallotWallet
