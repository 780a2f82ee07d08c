import BallotWallet.Proofs.Building

/-!
# How calls end

A call for a transfer, a vote or a batch of votes ends in one of a few ways. Nothing happened; or
reservations were left behind before anything was submitted; or signed transactions, each built
for its own reservation, were handed to the node, and the wallet acted on the answer.
-/

namespace BallotWallet.Wallet

open BallotWallet.Action

variable {ω : Type} {office : Office ω} {d : Desk ω} {before s : State} {count : Nat}
  {rs : List (Option Reservation)} {answer result : Except Failure (List Text)} {wallet : State}
  {proposal : Proposal} {choice : Choice} {window : Option ValidUntil}

namespace Submission

theorem Ended.disciplined (h : Ended before s count rs answer result wallet)
    (hbefore : before.Disciplined [])
    (hs : s.Disciplined (Reservation.counters (rs.filterMap id)))
    (hlen : rs.length ≤ count) : wallet.Disciplined [] := by
  cases h with
  | accepted hanswer hfresh =>
      refine State.submitted_disciplined ?_ hfresh.nodup hfresh.not_pending ?_
      · rw [hfresh.length_eq]
        exact hlen
      · rw [List.append_nil]
        exact hs
  | refused he hnot => exact hbefore
  | broken he hanswer => exact hs.none_outstanding

/-- The ways to hand fragments to the node: one alone, or several in one request. -/
inductive Request (client : Ledger.Client ω) : List Bytes → Action ω (List Text) → Prop
  | one (fragment : Bytes) : Request client [fragment] ((fun id => [id]) <$> client.submit fragment)
  | many (fragments : List Bytes) : Request client fragments (client.submitAll fragments)

/-- How a call ends that builds its transactions itself. -/
inductive Outcome (office : Office ω) (d : Desk ω) : Except Failure (List Text) → Desk ω → Prop
  | failed (e : Failure) : Outcome office d (.error e) d
  | nothing : Outcome office d (.ok []) d
  | lost {e : Failure} (he : e.isBackend = false) (values : List Int) :
      Outcome office d (.error e) { d with wallet := d.wallet.reservedAll values }
  | handed {values : List Int} {txs : List Transaction} {request : Action ω (List Text)}
      {result : Except Failure (List Text)} {wallet : State} :
      List.Forall₂ office.Builds txs (d.wallet.reservations values) →
      (∀ tx ∈ txs, tx.isWritable = true) →
      Request office.client (txs.map fun tx => (tx.signedBy office.identity).bytes) request →
      Ended d.wallet (d.wallet.reservedAll values) txs.length
        ((d.wallet.reservations values).map some) (request.effect d.world).1 result wallet →
      Outcome office d result ⟨wallet, (request.effect d.world).2⟩

theorem reservations_counters (values : List Int) (s : State) :
    Reservation.counters (((s.reservations values).map some).filterMap id) =
      Reservation.counters (s.reservations values) := by
  rw [List.filterMap_map]
  exact congrArg Reservation.counters (List.filterMap_some)

theorem Outcome.disciplined {d' : Desk ω} (h : Outcome office d result d')
    (hd : d.wallet.Disciplined []) : d'.wallet.Disciplined [] := by
  cases h with
  | failed e => exact hd
  | nothing => exact hd
  | lost he values => exact (hd.reservedAll values).none_outstanding
  | @handed values _ _ _ _ hbuilds hw hrequest hended =>
      have hreserved := hd.reservedAll values
      rw [List.append_nil, ← reservations_counters] at hreserved
      refine hended.disciplined hd hreserved (Nat.le_of_eq ?_)
      rw [List.length_map, hbuilds.length_eq]

/-- One transaction that is signed and sent with the reservation just made for it. -/
theorem send_outcome (h : d.wallet.Disciplined []) {tx : Transaction} {value : Int}
    (hbuilds : office.Builds tx { counter := some d.wallet.counter, value := value })
    (hw : tx.isWritable = true) :
    Outcome office d
      (((send office.client (tx.signedBy office.identity).bytes
        (some { counter := some d.wallet.counter, value := value })).effect
          { d with wallet := d.wallet.reserved value }).1.map ([·]))
      ((send office.client (tx.signedBy office.identity).bytes
        (some { counter := some d.wallet.counter, value := value })).effect
          { d with wallet := d.wallet.reserved value }).2 := by
  have hback := effect_releaseEach_reservations h [value]
  obtain ⟨hended, hworld⟩ := send_ended office.client
    { d with wallet := d.wallet.reserved value } (tx.signedBy office.identity).bytes
    (r := some { counter := some d.wallet.counter, value := value }) hback
  have hforall : List.Forall₂ office.Builds [tx] (d.wallet.reservations [value]) :=
    .cons hbuilds .nil
  have hout := Outcome.handed hforall (by simpa using hw) (.one _) (by
      rw [effect_map]
      exact hended)
  rw [effect_map] at hout
  rw [← hworld] at hout
  exact hout

theorem transfer_outcome (h : d.wallet.Disciplined []) (office : Office ω) (destination : Text)
    (value : Int) (window : Option ValidUntil) :
    Outcome office d (((transfer office destination value window).effect d).1.map ([·]))
      ((transfer office destination value window).effect d).2 := by
  cases hresolve : resolved office window d with
  | error e =>
      have hbuild := effect_buildTransfer_unresolved destination value d.wallet.counter
        (d := { d with wallet := d.wallet.reserved (transferCost office value) }) hresolve
      cases he : e.isBadValue with
      | true =>
          rw [effect_transfer_refused h he hbuild]
          exact .failed e
      | false =>
          rw [effect_transfer_broken h he hbuild]
          exact .lost (ValidUntil.isLocal_resolve _ _ _ e hresolve) [transferCost office value]
  | ok validUntil =>
      by_cases hvalue : 0 < value
      · cases hw : (office.transferOf destination value d.wallet.counter validUntil).isWritable with
        | true =>
            rw [effect_transfer h hvalue hresolve hw]
            exact send_outcome h (.transfer destination _ validUntil hvalue) hw
        | false =>
            rw [effect_transfer_unwritable h hvalue hresolve hw]
            exact .lost rfl [transferCost office value]
      · have hbuild := effect_buildTransfer_nonpos destination d.wallet.counter
          (d := { d with wallet := d.wallet.reserved (transferCost office value) })
          (Int.not_lt.mp hvalue) hresolve
        rw [effect_transfer_refused h rfl hbuild]
        exact .failed _

theorem vote_outcome (h : d.wallet.Disciplined []) (office : Office ω) (proposal : Proposal)
    (choice : Choice) (window : Option ValidUntil) :
    Outcome office d (((vote office proposal choice window).effect d).1.map ([·]))
      ((vote office proposal choice window).effect d).2 := by
  cases hcast : Ballot.cast proposal choice with
  | error e =>
      rw [effect_vote_uncast hcast]
      exact .failed e
  | ok ballot =>
      cases hresolve : resolved office window d with
      | error e =>
          rw [effect_vote_unresolved hcast hresolve]
          exact .failed e
      | ok validUntil =>
          cases hw : (office.voteOf ballot d.wallet.counter validUntil).isWritable with
          | true =>
              rw [effect_vote h hcast hresolve hw]
              exact send_outcome h (.vote ballot _ validUntil) hw
          | false =>
              rw [effect_vote_unwritable h hcast hresolve hw]
              exact .lost rfl [office.settings.fees.vote]

/-- Several transactions that are signed and sent with the reservations just made for them. -/
theorem sendMany_outcome (h : d.wallet.Disciplined []) {txs : List Transaction}
    {values : List Int}
    (hbuilds : List.Forall₂ office.Builds txs (d.wallet.reservations values))
    (hw : ∀ tx ∈ txs, tx.isWritable = true) :
    Outcome office d
      ((sendMany office.client (txs.map fun tx => (tx.signedBy office.identity).bytes)
        ((d.wallet.reservations values).map some)).effect
          { d with wallet := d.wallet.reservedAll values }).1
      ((sendMany office.client (txs.map fun tx => (tx.signedBy office.identity).bytes)
        ((d.wallet.reservations values).map some)).effect
          { d with wallet := d.wallet.reservedAll values }).2 := by
  have hback := effect_releaseEach_reservations h values
  have hlen := hbuilds.length_eq
  obtain ⟨hended, hworld⟩ := sendMany_ended office.client
    { d with wallet := d.wallet.reservedAll values }
    (txs.map fun tx => (tx.signedBy office.identity).bytes)
    (Or.inr (by simpa using hlen.symm)) hback
  rw [List.length_map] at hended
  have hout := Outcome.handed hbuilds hw (.many _) hended
  rw [← hworld] at hout
  exact hout

theorem voteBatch_outcome (h : d.wallet.Disciplined []) (office : Office ω)
    (items : List (Proposal × Choice)) (window : Option ValidUntil) :
    Outcome office d ((voteBatch office items window).effect d).1
      ((voteBatch office items window).effect d).2 := by
  cases hcast : ballots items with
  | error e =>
      rw [effect_voteBatch_uncast hcast]
      exact .failed e
  | ok cast =>
      by_cases hne : cast = []
      · subst hne
        rw [effect_voteBatch_nil hcast]
        exact .nothing
      · cases hresolve : resolved office window d with
        | error e =>
            rw [effect_voteBatch_unresolved hcast hne hresolve]
            exact .failed e
        | ok validUntil =>
            by_cases hw : ∃ tx ∈ office.votesOf validUntil cast d.wallet, tx.isWritable = false
            · obtain ⟨n, _, heffect⟩ := effect_voteBatch_unwritable h hcast hresolve hw
              rw [heffect]
              exact .lost rfl _
            · have hw : ∀ tx ∈ office.votesOf validUntil cast d.wallet,
                  tx.isWritable = true := by
                intro tx htx
                by_contra hbad
                exact hw ⟨tx, htx, by simpa using hbad⟩
              rw [effect_voteBatch h hcast hne hresolve hw]
              exact sendMany_outcome h (office.votesOf_built validUntil cast d.wallet) hw

end Submission

end BallotWallet.Wallet
