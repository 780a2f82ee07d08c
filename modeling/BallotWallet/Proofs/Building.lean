import BallotWallet.Proofs.Reckoning
import BallotWallet.Proofs.Submitting

/-!
# Building transactions

What a transfer, a vote and a batch of votes do to the wallet. Each of them prices a transaction,
reserves a counter and the price, signs the transaction with that counter and submits it. A
transaction with a number that is too long to be written cannot be signed; it fails after its
counter was reserved, and nothing gives the counter back.
-/

namespace BallotWallet

/-- A computation that does not fail as the ledger node does. -/
def IsLocal {α : Type} (a : Except Failure α) : Prop :=
  ∀ e, a = .error e → e.isBackend = false

/-- Whether a validity window can be resolved does not depend on the ledger node. -/
theorem ValidUntil.isLocal_resolve (window : Option ValidUntil) (settings : ChainSettings)
    (now : Binary64) : IsLocal (resolve window settings now) := by
  refine (failsWithin_resolve window settings now).mono fun e he => ?_
  cases e <;> simp [Failure.isOfReckoning] at he <;> rfl

theorem Fragment.sign_of_writable {tx : Transaction} (hw : tx.isWritable = true)
    (identity : Key.Identity) : sign tx identity = .ok (tx.signedBy identity) :=
  if_pos hw

theorem Fragment.sign_of_unwritable {tx : Transaction} (hw : tx.isWritable = false)
    (identity : Key.Identity) : sign tx identity = .error .badValue :=
  if_neg (ne_true_of_eq_false hw)

namespace Wallet

open BallotWallet.Action

variable {ω : Type} {office : Office ω} {s : State} {d : Desk ω} {outstanding : List Int}
  {proposal : Proposal} {choice : Choice} {window : Option ValidUntil} {ballot : Ballot}
  {validUntil : BlockDate}

namespace Office

/-- The transfer that a session builds. -/
def transferOf (office : Office ω) (destination : Text) (value : Int) (counter : Int)
    (validUntil : BlockDate) : Transaction where
  kind := .transfer
  account := .text office.identity.accountId
  counter := counter
  validUntil := validUntil
  fee := office.settings.fees.transaction 1 1
  value := value
  destination := .text destination
  block0Hash := office.settings.block0Hash

/-- The vote that a session builds. -/
def voteOf (office : Office ω) (ballot : Ballot) (counter : Int) (validUntil : BlockDate) :
    Transaction :=
  Transaction.newVote office.identity.accountId ballot.proposal.votePlan ballot.proposal.index
    ballot.choice office.settings.fees.vote counter validUntil office.settings.block0Hash

/-- The votes that a session builds, each with the counter that is next. -/
def votesOf (office : Office ω) (validUntil : BlockDate) : List Ballot → State → List Transaction
  | [], _ => []
  | ballot :: rest, s =>
    office.voteOf ballot s.counter validUntil ::
      votesOf office validUntil rest (s.reserved office.settings.fees.vote)

/-- What votes cost, one by one. -/
def voteFees (office : Office ω) (ballots : List Ballot) : List Int :=
  List.replicate ballots.length office.settings.fees.vote

/-- The transactions that a session builds for a reservation: with its counter, at the cost of
its value. -/
inductive Builds (office : Office ω) : Transaction → Reservation → Prop
  | transfer (destination : Text) {value : Int} (counter : Int) (validUntil : BlockDate) :
      0 < value →
      Builds office (office.transferOf destination value counter validUntil)
        { counter := some counter, value := value + office.settings.fees.transaction 1 1 }
  | vote (ballot : Ballot) (counter : Int) (validUntil : BlockDate) :
      Builds office (office.voteOf ballot counter validUntil)
        { counter := some counter, value := office.settings.fees.vote }

theorem Builds.counter_eq {tx : Transaction} {r : Reservation} (h : office.Builds tx r) :
    r.counter = some tx.counter := by
  cases h <;> rfl

theorem Builds.cost_eq {tx : Transaction} {r : Reservation} (h : office.Builds tx r) :
    r.value = tx.cost := by
  cases h with
  | transfer destination counter validUntil hvalue => rfl
  | vote ballot counter validUntil => exact (Int.zero_add _).symm

theorem counters_of_builds {txs : List Transaction} {rs : List Reservation}
    (h : List.Forall₂ office.Builds txs rs) :
    txs.map (some ·.counter) = rs.map (·.counter) := by
  induction h with
  | nil => rfl
  | cons hhead _ ih => rw [List.map_cons, List.map_cons, hhead.counter_eq, ih]

theorem costs_of_builds {txs : List Transaction} {rs : List Reservation}
    (h : List.Forall₂ office.Builds txs rs) :
    txs.map (·.cost) = rs.map (·.value) := by
  induction h with
  | nil => rfl
  | cons hhead _ ih => rw [List.map_cons, List.map_cons, hhead.cost_eq, ih]

@[simp] theorem length_votesOf (validUntil : BlockDate) (ballots : List Ballot) (s : State) :
    (office.votesOf validUntil ballots s).length = ballots.length := by
  induction ballots generalizing s with
  | nil => rfl
  | cons ballot rest ih => simp [votesOf, ih]

@[simp] theorem length_voteFees (ballots : List Ballot) :
    (office.voteFees ballots).length = ballots.length :=
  List.length_replicate

theorem votesOf_built (validUntil : BlockDate) (ballots : List Ballot) (s : State) :
    List.Forall₂ office.Builds (office.votesOf validUntil ballots s)
      (s.reservations (office.voteFees ballots)) := by
  induction ballots generalizing s with
  | nil => exact .nil
  | cons ballot rest ih => exact .cons (.vote ballot _ validUntil) (ih _)

end Office

namespace Submission

/-! ## Votes -/

theorem effect_submit (office : Office ω) (fragment : Fragment) (r : Reservation) (d : Desk ω) :
    (submit office fragment r).effect d =
      (send office.client fragment.bytes (some r)).effect d :=
  rfl

/-- The counter is reserved even if the vote cannot be signed. -/
theorem effect_prepareVote (office : Office ω) (h : s.Disciplined outstanding)
    (ballot : Ballot) (validUntil : BlockDate) :
    (prepareVote office ballot validUntil).effect s =
      (if (office.voteOf ballot s.counter validUntil).isWritable then
        .ok ((office.voteOf ballot s.counter validUntil).signedBy office.identity,
          { counter := some s.counter, value := office.settings.fees.vote })
      else .error .badValue, s.reserved office.settings.fees.vote) := by
  have hreserve := Book.effect_reserve h office.settings.fees.vote
  unfold prepareVote
  rw [effect_bind_ok hreserve]
  show ((liftM (Fragment.sign (office.voteOf ballot s.counter validUntil) office.identity) :
    Action State Fragment) >>= fun fragment => pure (fragment, _)).effect _ = _
  cases hw : (office.voteOf ballot s.counter validUntil).isWritable with
  | true =>
      rw [effect_lift_ok (Fragment.sign_of_writable hw _)]
      rfl
  | false =>
      rw [effect_lift_error (Fragment.sign_of_unwritable hw _)]
      rfl

/-- If all votes can be signed, each is signed with the counter of its own reservation. -/
theorem effect_prepareVotes (h : s.Disciplined outstanding) (validUntil : BlockDate)
    {ballots : List Ballot}
    (hw : ∀ tx ∈ office.votesOf validUntil ballots s, tx.isWritable = true) :
    (prepareVotes office validUntil ballots).effect s =
      (.ok (((office.votesOf validUntil ballots s).map (·.signedBy office.identity)).zip
        (s.reservations (office.voteFees ballots))), s.reservedAll (office.voteFees ballots)) := by
  induction ballots generalizing s outstanding with
  | nil => rfl
  | cons ballot rest ih =>
      have hfirst := effect_prepareVote office h ballot validUntil
      rw [if_pos (hw _ List.mem_cons_self)] at hfirst
      have hrest := ih (h.reserve_disciplined office.settings.fees.vote)
        fun tx htx => hw tx (List.mem_cons_of_mem _ htx)
      unfold prepareVotes
      rw [effect_bind_ok hfirst, effect_bind_ok hrest]
      rfl

/-- If one of the votes cannot be signed, the counters up to its own stay reserved. -/
theorem effect_prepareVotes_unwritable (h : s.Disciplined outstanding) (validUntil : BlockDate)
    {ballots : List Ballot}
    (hw : ∃ tx ∈ office.votesOf validUntil ballots s, tx.isWritable = false) :
    ∃ n < ballots.length, (prepareVotes office validUntil ballots).effect s =
      (.error .badValue,
        s.reservedAll (List.replicate (n + 1) office.settings.fees.vote)) := by
  induction ballots generalizing s outstanding with
  | nil =>
      obtain ⟨tx, htx, _⟩ := hw
      cases htx
  | cons ballot rest ih =>
      have hfirst := effect_prepareVote office h ballot validUntil
      unfold prepareVotes
      cases hhead : (office.voteOf ballot s.counter validUntil).isWritable with
      | false =>
          rw [hhead] at hfirst
          refine ⟨0, Nat.succ_pos _, ?_⟩
          exact effect_bind_error hfirst
      | true =>
          rw [hhead] at hfirst
          -- the first vote can be signed, so it is one of the others that cannot
          have hrest : ∃ tx ∈ office.votesOf validUntil rest
              (s.reserved office.settings.fees.vote), tx.isWritable = false := by
            obtain ⟨tx, htx, hbad⟩ := hw
            rcases List.mem_cons.mp htx with rfl | htx
            · rw [hhead] at hbad
              cases hbad
            · exact ⟨tx, htx, hbad⟩
          obtain ⟨n, hn, heffect⟩ := ih (h.reserve_disciplined _) hrest
          refine ⟨n + 1, Nat.succ_lt_succ hn, ?_⟩
          rw [effect_bind_ok hfirst]
          exact effect_bind_error heffect

/-- Where a validity window ends if it is resolved at a desk. -/
def resolved (office : Office ω) (window : Option ValidUntil) (d : Desk ω) :
    Except Failure BlockDate :=
  ValidUntil.resolve window office.settings (office.surroundings.now d.world)

theorem effect_vote_uncast {e : Failure} (hcast : Ballot.cast proposal choice = .error e) :
    (vote office proposal choice window).effect d = (.error e, d) :=
  effect_lift_error hcast _ _

theorem effect_vote_unresolved {e : Failure} (hcast : Ballot.cast proposal choice = .ok ballot)
    (hresolve : resolved office window d = .error e) :
    (vote office proposal choice window).effect d = (.error e, d) := by
  have hexpiry : (expiry office window).effect d = (.error e, d) := congrArg (·, d) hresolve
  unfold vote
  rw [effect_lift_ok hcast, effect_bind_error hexpiry]

theorem effect_vote_unwritable (h : d.wallet.Disciplined outstanding)
    (hcast : Ballot.cast proposal choice = .ok ballot)
    (hresolve : resolved office window d = .ok validUntil)
    (hw : (office.voteOf ballot d.wallet.counter validUntil).isWritable = false) :
    (vote office proposal choice window).effect d =
      (.error .badValue, { d with wallet := d.wallet.reserved office.settings.fees.vote }) := by
  have hexpiry : (expiry office window).effect d = (.ok validUntil, d) :=
    congrArg (·, d) hresolve
  have hprepare := effect_prepareVote office h ballot validUntil
  rw [hw, if_neg Bool.false_ne_true] at hprepare
  have hbook := Desk.effect_book_eq hprepare
  unfold vote
  rw [effect_lift_ok hcast, effect_bind_ok hexpiry, effect_bind_error hbook]

/-- A vote that can be signed is submitted with its reservation. -/
theorem effect_vote (h : d.wallet.Disciplined outstanding)
    (hcast : Ballot.cast proposal choice = .ok ballot)
    (hresolve : resolved office window d = .ok validUntil)
    (hw : (office.voteOf ballot d.wallet.counter validUntil).isWritable = true) :
    (vote office proposal choice window).effect d =
      (send office.client
        ((office.voteOf ballot d.wallet.counter validUntil).signedBy office.identity).bytes
        (some { counter := some d.wallet.counter, value := office.settings.fees.vote })).effect
        { d with wallet := d.wallet.reserved office.settings.fees.vote } := by
  have hexpiry : (expiry office window).effect d = (.ok validUntil, d) :=
    congrArg (·, d) hresolve
  have hprepare := effect_prepareVote office h ballot validUntil
  rw [if_pos hw] at hprepare
  have hbook := Desk.effect_book_eq hprepare
  unfold vote
  rw [effect_lift_ok hcast, effect_bind_ok hexpiry, effect_bind_ok hbook]
  exact effect_submit office _ _ _

/-! ## Batches of votes -/

variable {items : List (Proposal × Choice)} {cast : List Ballot}

theorem effect_voteBatch_uncast {e : Failure} (hcast : ballots items = .error e) :
    (voteBatch office items window).effect d = (.error e, d) :=
  effect_lift_error hcast _ _

theorem effect_voteBatch_nil (hcast : ballots items = .ok []) :
    (voteBatch office items window).effect d = (.ok [], d) :=
  effect_lift_ok hcast _ _

theorem effect_voteBatch_unresolved {e : Failure} (hcast : ballots items = .ok cast)
    (hne : cast ≠ []) (hresolve : resolved office window d = .error e) :
    (voteBatch office items window).effect d = (.error e, d) := by
  have hexpiry : (expiry office window).effect d = (.error e, d) := congrArg (·, d) hresolve
  have hfull : cast.isEmpty = false := List.isEmpty_eq_false_iff.mpr hne
  unfold voteBatch
  rw [effect_lift_ok hcast]
  simp only [hfull, Bool.false_eq_true, if_false]
  rw [effect_bind_error hexpiry]

theorem effect_voteBatch_unwritable (h : d.wallet.Disciplined outstanding)
    (hcast : ballots items = .ok cast) (hresolve : resolved office window d = .ok validUntil)
    (hw : ∃ tx ∈ office.votesOf validUntil cast d.wallet, tx.isWritable = false) :
    ∃ n < cast.length, (voteBatch office items window).effect d =
      (.error .badValue, { d with
        wallet := d.wallet.reservedAll
          (List.replicate (n + 1) office.settings.fees.vote) }) := by
  have hexpiry : (expiry office window).effect d = (.ok validUntil, d) :=
    congrArg (·, d) hresolve
  obtain ⟨n, hn, hprepare⟩ := effect_prepareVotes_unwritable h validUntil hw
  have hbook := Desk.effect_book_eq hprepare
  have hfull : cast.isEmpty = false :=
    List.isEmpty_eq_false_iff.mpr (List.ne_nil_of_length_pos (Nat.zero_lt_of_lt hn))
  refine ⟨n, hn, ?_⟩
  unfold voteBatch
  rw [effect_lift_ok hcast]
  simp only [hfull, Bool.false_eq_true, if_false]
  rw [effect_bind_ok hexpiry, effect_bind_error hbook]

/-- The fragments of the votes of a session. -/
def votesSigned (office : Office ω) (validUntil : BlockDate) (cast : List Ballot) (s : State) :
    List Bytes :=
  (office.votesOf validUntil cast s).map fun tx => (tx.signedBy office.identity).bytes

/-- Votes that can be signed are submitted together, each with its reservation. -/
theorem effect_voteBatch (h : d.wallet.Disciplined outstanding)
    (hcast : ballots items = .ok cast) (hne : cast ≠ [])
    (hresolve : resolved office window d = .ok validUntil)
    (hw : ∀ tx ∈ office.votesOf validUntil cast d.wallet, tx.isWritable = true) :
    (voteBatch office items window).effect d =
      (sendMany office.client (votesSigned office validUntil cast d.wallet)
        ((d.wallet.reservations (office.voteFees cast)).map some)).effect
        { d with wallet := d.wallet.reservedAll (office.voteFees cast) } := by
  have hexpiry : (expiry office window).effect d = (.ok validUntil, d) :=
    congrArg (·, d) hresolve
  have hfull : cast.isEmpty = false := List.isEmpty_eq_false_iff.mpr hne
  have hlen : ((office.votesOf validUntil cast d.wallet).map
      (·.signedBy office.identity)).length =
      (d.wallet.reservations (office.voteFees cast)).length := by
    simp
  have hbook := Desk.effect_book_eq (effect_prepareVotes h validUntil hw)
  unfold voteBatch
  rw [effect_lift_ok hcast]
  simp only [hfull, Bool.false_eq_true, if_false]
  rw [effect_bind_ok hexpiry, effect_bind_ok hbook, effect_bind_ok (Desk.effect_report ..)]
  have hbytes : ∀ xs : List (Fragment × Reservation),
      (xs.map fun p => p.1.bytes) = (xs.map (·.1)).map (·.bytes) := by simp
  have hsome : ∀ xs : List (Fragment × Reservation),
      (xs.map fun p => some p.2) = (xs.map (·.2)).map some := by simp
  rw [hbytes, hsome, List.map_fst_zip (Nat.le_of_eq hlen),
    List.map_snd_zip (Nat.le_of_eq hlen.symm), List.map_map]
  rfl

/-! ## Transfers -/

variable {destination : Text} {value : Int}

/-- What a transfer takes. -/
def transferCost (office : Office ω) (value : Int) : Int :=
  value + office.settings.fees.transaction 1 1

/-- The transfer that is asked for, with a counter. -/
def buildTransfer (office : Office ω) (destination : Text) (value : Int)
    (window : Option ValidUntil) (counter : Int) : Action (Desk ω) Transaction := do
  let validUntil ← expiry office window
  Transaction.newTransfer office.identity.accountId destination value
    (office.settings.fees.transaction 1 1) counter validUntil office.settings.block0Hash

theorem transfer_eq (office : Office ω) (destination : Text) (value : Int)
    (window : Option ValidUntil) :
    transfer office destination value window = (do
      let r ← Desk.book (Book.reserve (transferCost office value))
      let tx ← (buildTransfer office destination value window (r.counter.getD 0)).orOnFailure
        fun e => do
          if e.isBadValue then Desk.book (Book.release r)
          throw e
      let fragment ← Fragment.sign tx office.identity
      submit office fragment r) :=
  rfl

theorem effect_buildTransfer_unresolved {e : Failure} (destination : Text) (value : Int)
    (counter : Int) (hresolve : resolved office window d = .error e) :
    (buildTransfer office destination value window counter).effect d = (.error e, d) := by
  have hexpiry : (expiry office window).effect d = (.error e, d) := congrArg (·, d) hresolve
  exact effect_bind_error hexpiry

theorem effect_buildTransfer_nonpos (destination : Text) (counter : Int) (hvalue : value ≤ 0)
    (hresolve : resolved office window d = .ok validUntil) :
    (buildTransfer office destination value window counter).effect d =
      (.error (.refused "transfer value must be positive"), d) := by
  have hexpiry : (expiry office window).effect d = (.ok validUntil, d) :=
    congrArg (·, d) hresolve
  unfold buildTransfer Transaction.newTransfer
  rw [effect_bind_ok hexpiry, if_pos hvalue]
  rfl

theorem effect_buildTransfer (destination : Text) (counter : Int) (hvalue : 0 < value)
    (hresolve : resolved office window d = .ok validUntil) :
    (buildTransfer office destination value window counter).effect d =
      (.ok (office.transferOf destination value counter validUntil), d) := by
  have hexpiry : (expiry office window).effect d = (.ok validUntil, d) :=
    congrArg (·, d) hresolve
  unfold buildTransfer Transaction.newTransfer
  rw [effect_bind_ok hexpiry, if_neg (Int.not_le.mpr hvalue)]
  rfl

/-- A transfer that cannot be built for an unsuitable value gives its reservation back. -/
theorem effect_transfer_refused (h : d.wallet.Disciplined outstanding) {e : Failure}
    (he : e.isBadValue = true)
    (hbuild : (buildTransfer office destination value window d.wallet.counter).effect
      { d with wallet := d.wallet.reserved (transferCost office value) } =
      (.error e, { d with wallet := d.wallet.reserved (transferCost office value) })) :
    (transfer office destination value window).effect d = (.error e, d) := by
  have hreserve := Desk.effect_book_eq (Book.effect_reserve h (transferCost office value))
  have hrelease := Desk.effect_book_eq
    (d := { d with wallet := d.wallet.reserved (transferCost office value) })
    (Book.effect_release_reserved h (transferCost office value))
  rw [transfer_eq, effect_bind_ok hreserve, effect_bind, effect_orOnFailure]
  simp only [Option.getD_some, hbuild, he, if_true]
  rw [effect_bind_ok hrelease]
  rfl

/-- Any other failure to build a transfer leaves its reservation behind. -/
theorem effect_transfer_broken (h : d.wallet.Disciplined outstanding) {e : Failure}
    (he : e.isBadValue = false)
    (hbuild : (buildTransfer office destination value window d.wallet.counter).effect
      { d with wallet := d.wallet.reserved (transferCost office value) } =
      (.error e, { d with wallet := d.wallet.reserved (transferCost office value) })) :
    (transfer office destination value window).effect d =
      (.error e, { d with wallet := d.wallet.reserved (transferCost office value) }) := by
  have hreserve := Desk.effect_book_eq (Book.effect_reserve h (transferCost office value))
  rw [transfer_eq, effect_bind_ok hreserve, effect_bind, effect_orOnFailure]
  simp only [Option.getD_some, hbuild, he]
  rfl

theorem effect_transfer_unwritable (h : d.wallet.Disciplined outstanding) (hvalue : 0 < value)
    (hresolve : resolved office window d = .ok validUntil)
    (hw : (office.transferOf destination value d.wallet.counter validUntil).isWritable = false) :
    (transfer office destination value window).effect d =
      (.error .badValue,
        { d with wallet := d.wallet.reserved (transferCost office value) }) := by
  have hreserve := Desk.effect_book_eq (Book.effect_reserve h (transferCost office value))
  have hbuild := effect_buildTransfer destination d.wallet.counter
    (d := { d with wallet := d.wallet.reserved (transferCost office value) }) hvalue hresolve
  rw [transfer_eq, effect_bind_ok hreserve, effect_bind, effect_orOnFailure]
  simp only [Option.getD_some, hbuild]
  exact effect_lift_error (Fragment.sign_of_unwritable hw _) _ _

/-- A transfer that can be signed is submitted with its reservation. -/
theorem effect_transfer (h : d.wallet.Disciplined outstanding) (hvalue : 0 < value)
    (hresolve : resolved office window d = .ok validUntil)
    (hw : (office.transferOf destination value d.wallet.counter validUntil).isWritable = true) :
    (transfer office destination value window).effect d =
      (send office.client
        ((office.transferOf destination value d.wallet.counter validUntil).signedBy
          office.identity).bytes
        (some { counter := some d.wallet.counter, value := transferCost office value })).effect
        { d with wallet := d.wallet.reserved (transferCost office value) } := by
  have hreserve := Desk.effect_book_eq (Book.effect_reserve h (transferCost office value))
  have hbuild := effect_buildTransfer destination d.wallet.counter
    (d := { d with wallet := d.wallet.reserved (transferCost office value) }) hvalue hresolve
  rw [transfer_eq, effect_bind_ok hreserve, effect_bind, effect_orOnFailure]
  simp only [Option.getD_some, hbuild]
  rw [effect_lift_ok (Fragment.sign_of_writable hw _)]
  exact effect_submit office _ _ _

end Submission

end Wallet

end BallotWallet
