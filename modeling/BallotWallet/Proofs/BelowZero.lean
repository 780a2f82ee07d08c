import BallotWallet.Proofs.Absorbing
import BallotWallet.Proofs.Beginning
import BallotWallet.Proofs.Lifetime
import BallotWallet.Proofs.Provenance
import BallotWallet.Proofs.Recording

/-!
# Counters below zero

A wallet cannot begin with a negative counter, but the node may report one. The floor of the
counters holds it off: no counter is handed out below the floor, and while fragments are pending
the floor only rises. Only with nothing pending does an account state decide the floor, whatever
its counter is.
-/

namespace BallotWallet

/-- The fragments that a node is handed with a question. -/
def Ledger.Question.fragments : Ledger.Question → List Bytes
  | submit fragment => [fragment]
  | submitAll fragments => fragments
  | _ => []

namespace Wallet

open BallotWallet.Action

variable {ω : Type}

/-! ## The floor -/

namespace State

variable {s : State} {outstanding : List Int}

@[simp] theorem reservedAll_floor (values : List Int) (s : State) :
    (s.reservedAll values).floor = s.floor := by
  induction values generalizing s with
  | nil => rfl
  | cons value values ih => exact ih (s.reserved value)

theorem rollback_floor (h : s.Disciplined outstanding) (id : Text) :
    (s.rollback id).2.floor = s.floor := by
  cases hr : s.reservationOf? id with
  | none => rw [rollback_absent (reservationOf?_eq_none.mp hr)]
  | some r =>
      rw [rollback_eq h hr]
      exact unwound_floor r _

theorem Settles.floor_eq {t : State} (hsettles : s.Settles t) (h : s.Disciplined outstanding) :
    t.floor = s.floor := by
  induction hsettles with
  | refl => rfl
  | confirm id _ ih => exact confirm_frame.2.1.trans ih
  | rollback id hsettles ih => exact (rollback_floor (hsettles.disciplined h) id).trans ih

theorem refresh_idle (hidle : s.pending = []) (snapshot : AccountSnapshot) :
    (s.refresh snapshot).floor = snapshot.counter ∧
      (s.refresh snapshot).counter = snapshot.counter := by
  have hnone : (s.refreshBalance snapshot).pending.isEmpty = true := by
    simp [refreshBalance, hidle]
  unfold refresh
  rw [refreshCounters_idle hnone]
  exact ⟨rfl, rfl⟩

/-- What is reserved next has counters from the floor on. -/
theorem Disciplined.floor_le_reservations (h : s.Disciplined outstanding) {values : List Int}
    {r : Reservation} (hr : r ∈ s.reservations values) :
    ∃ c, r.counter = some c ∧ s.floor ≤ c := by
  induction values generalizing s outstanding with
  | nil => cases hr
  | cons value values ih =>
      rcases List.mem_cons.mp hr with rfl | hr
      · exact ⟨s.counter, rfl, h.floor_le_counter⟩
      · have hrest := ih (h.reserve_disciplined value) hr
        exact hrest

end State

theorem Submission.Ended.floor_eq {before s wallet : State} {count : Nat}
    {rs : List (Option Reservation)} {answer result : Except Failure (List Text)}
    (h : Submission.Ended before s count rs answer result wallet)
    (hsame : s.floor = before.floor) : wallet.floor = before.floor := by
  cases h with
  | accepted _ _ => exact hsame
  | refused _ _ => rfl
  | broken _ _ => exact hsame

theorem Submission.Outcome.floor_eq {office : Office ω} {d d' : Desk ω}
    {result : Except Failure (List Text)} (h : Submission.Outcome office d result d') :
    d'.wallet.floor = d.wallet.floor := by
  cases h with
  | failed _ => rfl
  | nothing => rfl
  | lost _ values => exact State.reservedAll_floor values _
  | handed _ _ _ hended => exact hended.floor_eq (State.reservedAll_floor _ _)

namespace Controller

variable {c : Controller ω}

/-- An operation keeps the floor, or it takes over the account state that the node reports. -/
theorem Transition.floor_cases {op : Operation ω} {result : Except Failure (List Text)}
    {c' : Controller ω} (h : Transition c op result c') (hc : c.wallet.Disciplined []) :
    c'.wallet.floor = c.wallet.floor ∨
      ∃ snapshot, op = .refreshState ∧ (accountState.effect c).1 = .ok snapshot ∧
        c'.wallet = c.wallet.refresh snapshot := by
  cases h with
  | quiet _ _ => exact .inl rfl
  | switched _ => exact .inl rfl
  | built _ _ hout => exact .inl hout.floor_eq
  | raw _ _ _ _ hended => exact .inl (hended.floor_eq rfl)
  | refreshed snapshot _ hop hreported => exact .inr ⟨snapshot, hop, hreported, rfl⟩
  | settled _ _ hsettles => exact .inl (hsettles.floor_eq hc)

end Controller

/-! ## What is signed -/

namespace Submission

variable {office : Office ω} {s : State} {outstanding : List Int} {fragment : Fragment}

/-- The transactions that a session signs with a wallet: that of a transfer, and those of votes,
alone or among others, also if those that follow cannot be signed. -/
inductive IsSigned (office : Office ω) (s : State) : Fragment → Prop
  | transfer {destination : Text} {value : Int} {window : Option ValidUntil} {r : Reservation}
      {reserved : State} {world : ω} {tx : Transaction} {d : Desk ω} {fragment : Fragment} :
      (Book.reserve (transferCost office value)).effect s = (.ok r, reserved) →
      (buildTransfer office destination value window (r.counter.getD 0)).effect
        ⟨reserved, world⟩ = (.ok tx, d) →
      Fragment.sign tx office.identity = .ok fragment → IsSigned office s fragment
  | vote {ballot : Ballot} {validUntil : BlockDate} {fragment : Fragment} {r : Reservation}
      {reserved : State} :
      (prepareVote office ballot validUntil).effect s = (.ok (fragment, r), reserved) →
      IsSigned office s fragment
  | votes {ballots : List Ballot} {validUntil : BlockDate}
      {prepared : List (Fragment × Reservation)} {reserved : State} {p : Fragment × Reservation} :
      (prepareVotes office validUntil ballots).effect s = (.ok prepared, reserved) →
      p ∈ prepared → IsSigned office s p.1

theorem transaction_of_sign {tx : Transaction} {identity : Key.Identity}
    (h : Fragment.sign tx identity = .ok fragment) : fragment.transaction = tx := by
  cases hw : tx.isWritable with
  | true =>
      rw [Fragment.sign_of_writable hw] at h
      cases h
      rfl
  | false =>
      rw [Fragment.sign_of_unwritable hw] at h
      cases h

theorem counter_of_buildTransfer {destination : Text} {value counter : Int}
    {window : Option ValidUntil} {tx : Transaction} {d d' : Desk ω}
    (h : (buildTransfer office destination value window counter).effect d = (.ok tx, d')) :
    tx.counter = counter := by
  obtain ⟨validUntil, d₁, _, h⟩ := exists_of_effect_bind h
  unfold Transaction.newTransfer at h
  split at h
  · cases h
  · cases h
    rfl

theorem prepareVote_ok (h : s.Disciplined outstanding) {ballot : Ballot} {validUntil : BlockDate}
    {r : Reservation} {reserved : State}
    (hok : (prepareVote office ballot validUntil).effect s = (.ok (fragment, r), reserved)) :
    fragment.transaction.counter = s.counter ∧
      reserved = s.reserved office.settings.fees.vote := by
  rw [effect_prepareVote office h] at hok
  split at hok
  · cases hok
    exact ⟨rfl, rfl⟩
  · cases hok

theorem floor_le_prepareVotes (h : s.Disciplined outstanding) {ballots : List Ballot}
    {validUntil : BlockDate} {prepared : List (Fragment × Reservation)} {reserved : State}
    (hok : (prepareVotes office validUntil ballots).effect s = (.ok prepared, reserved))
    {p : Fragment × Reservation} (hp : p ∈ prepared) :
    s.floor ≤ p.1.transaction.counter := by
  induction ballots generalizing s outstanding prepared with
  | nil =>
      cases hok
      cases hp
  | cons ballot rest ih =>
      obtain ⟨first, s₁, hfirst, hok⟩ := exists_of_effect_bind hok
      obtain ⟨others, s₂, hothers, hok⟩ := exists_of_effect_bind hok
      cases hok
      obtain ⟨hcounter, rfl⟩ := prepareVote_ok h hfirst
      rcases List.mem_cons.mp hp with rfl | hp
      · rw [hcounter]
        exact h.floor_le_counter
      · have hrest := ih (h.reserve_disciplined office.settings.fees.vote) hothers hp
        exact hrest

/-- Nothing is signed with a counter below the floor. -/
theorem IsSigned.floor_le (hsigns : IsSigned office s fragment) (h : s.Disciplined outstanding) :
    s.floor ≤ fragment.transaction.counter := by
  cases hsigns with
  | @transfer _ value _ _ _ _ _ _ _ hreserve hbuild hsign =>
      rw [Book.effect_reserve h (transferCost office value)] at hreserve
      cases hreserve
      rw [transaction_of_sign hsign, counter_of_buildTransfer hbuild]
      exact h.floor_le_counter
  | vote hprepared =>
      rw [(prepareVote_ok h hprepared).1]
      exact h.floor_le_counter
  | votes hprepared hp => exact floor_le_prepareVotes h hprepared hp

end Submission

theorem SignedNext.floor_le {session : Session} {s : State} {txs : List Transaction}
    (hsigned : SignedNext session s txs) {outstanding : List Int}
    (h : s.Disciplined outstanding) : ∀ tx ∈ txs, s.floor ≤ tx.counter := by
  intro tx htx
  have hmem : some tx.counter ∈ txs.map (some ·.counter) := List.mem_map_of_mem htx
  rw [hsigned.counters] at hmem
  obtain ⟨r, hr, hcounter⟩ := List.mem_map.mp hmem
  obtain ⟨found, hfound, hle⟩ := h.floor_le_reservations hr
  rw [hcounter] at hfound
  cases hfound
  exact hle

/-- A controller whose node is recorded from now on. -/
def Recorded.controller (c : Controller ω) : Controller (Recorded ω) where
  options := c.options
  client := client c.client
  surroundings := surroundings c.surroundings
  session := c.session
  wallet := c.wallet
  mnemonic := c.mnemonic
  world := ⟨c.world, []⟩

namespace Controller

variable {c : Controller ω} {session : Session}

/-- What an operation builds and hands to the node is signed with counters from the floor on. -/
theorem floor_le_submitted (hsession : c.session = some session) (h : c.wallet.Disciplined [])
    {op : Operation (Recorded ω)} (hop : op.builds = true) {question : Ledger.Question}
    (hasked : question ∈ (op.perform.effect (Recorded.controller c)).2.world.questions)
    {fragment : Bytes} (hfragment : fragment ∈ question.fragments) :
    ∃ tx : Transaction, fragment = (tx.signedBy session.identity).bytes ∧
      c.wallet.floor ≤ tx.counter := by
  obtain ⟨new, hnew, hasks⟩ := perform_asked (c := Recorded.controller c) hsession h rfl rfl op
  rw [hnew] at hasked
  have hasks := hasks question (by simpa [Recorded.controller] using hasked)
  cases hasks with
  | account _ => cases hfragment
  | proposals _ => cases hfragment
  | logs _ => cases hfragment
  | given hgiven =>
      rw [hgiven] at hop
      cases hop
  | givenAll hgiven =>
      rw [hgiven] at hop
      cases hop
  | signed _ hsigned =>
      obtain rfl := List.mem_singleton.mp hfragment
      exact ⟨_, rfl, hsigned.floor_le h _ List.mem_cons_self⟩
  | signedAll _ hsigned =>
      obtain ⟨tx, htx, rfl⟩ := List.mem_map.mp hfragment
      exact ⟨tx, rfl, hsigned.floor_le h tx htx⟩

end Controller

/-! ## Runs -/

/-- An operation takes over an account state with a negative counter while nothing is pending. -/
def Operation.Spoils (op : Operation ω) (c : Controller ω) : Prop :=
  op = .refreshState ∧ c.wallet.pending = [] ∧
    ∃ snapshot, (Controller.accountState.effect c).1 = .ok snapshot ∧ snapshot.counter < 0

namespace Controller

variable {c : Controller ω}

/-- What a controller comes to by anything that is done with it, whatever the node answers, as
long as no account state with a negative counter is taken over while nothing is pending. The world
moves on by itself, too. -/
inductive Unspoilt : Controller ω → Prop
  | made {options : Options} {client : Ledger.Client ω} {surroundings : Surroundings ω}
      {world : ω} {c : Controller ω} :
      Controller.new options client surroundings world = .ok c → Unspoilt c
  | start {c : Controller ω} (start : Start) :
      Unspoilt c → Unspoilt (start.perform.effect c).2
  | operation {c : Controller ω} (op : Operation ω) :
      Unspoilt c → ¬ op.Spoils c → Unspoilt (op.perform.effect c).2
  | world {c : Controller ω} (world : ω) : Unspoilt c → Unspoilt { c with world := world }

/-- The counters keep their discipline, and the floor is not below zero. -/
structure AboveZero (c : Controller ω) : Prop where
  disciplined : c.wallet.Disciplined []
  floor_nonneg : 0 ≤ c.wallet.floor

theorem AboveZero.start (h : c.AboveZero) (start : Start) :
    (start.perform.effect c).2.AboveZero := by
  have hends := start.perform_ends c
  generalize start.perform.effect c = outcome at hends
  obtain ⟨result, c'⟩ := outcome
  cases hends with
  | underived _ => exact h
  | unanswered _ _ => exact ⟨h.disciplined, h.floor_nonneg⟩
  | begun _ _ => exact ⟨State.fresh_disciplined, Int.le_refl 0⟩

theorem AboveZero.operation (h : c.AboveZero) {op : Operation ω} (hop : ¬ op.Spoils c) :
    (op.perform.effect c).2.AboveZero := by
  have htransition := perform_transition h.disciplined op
  refine ⟨htransition.disciplined h.disciplined, ?_⟩
  rcases htransition.floor_cases h.disciplined with hfloor | ⟨snapshot, rfl, hreported, hwallet⟩
  · rw [hfloor]
    exact h.floor_nonneg
  · rw [hwallet]
    by_cases hidle : c.wallet.pending = []
    · -- the account state decides, and it is none that spoils the counters
      rw [(State.refresh_idle hidle snapshot).1]
      exact Int.not_lt.mp fun hneg => hop ⟨rfl, hidle, snapshot, hreported, hneg⟩
    · rw [State.refresh_floor h.disciplined hidle]
      exact Int.le_trans h.floor_nonneg (Int.le_max_left _ _)

theorem Unspoilt.aboveZero (h : c.Unspoilt) : c.AboveZero := by
  induction h with
  | made hmade =>
      obtain ⟨kind, _, hmade⟩ := exists_of_bind_ok hmade
      cases hmade
      exact ⟨State.fresh_disciplined, Int.le_refl 0⟩
  | start start _ ih => exact ih.start start
  | operation op _ hop ih => exact ih.operation hop
  | world world _ ih => exact ⟨ih.disciplined, ih.floor_nonneg⟩

theorem effect_spendingCounter {session : Session} (hsession : c.session = some session) :
    spendingCounter.effect c = (.ok c.wallet.counter, c) :=
  effect_bind_ok (effect_requireSession hsession _)

/-- An account state is reported in a session only. -/
theorem session_of_accountState {snapshot : AccountSnapshot}
    (h : (accountState.effect c).1 = .ok snapshot) : ∃ session, c.session = some session := by
  obtain hnone | hsome := Option.eq_none_or_eq_some c.session
  · unfold accountState at h
    rw [effect_bind_error (effect_requireSession_none hnone _)] at h
    cases h
  · exact hsome

/-- The account state that the node reports is taken over. -/
theorem effect_refreshState {snapshot : AccountSnapshot}
    (hreported : (accountState.effect c).1 = .ok snapshot) :
    ∃ world, refreshState.effect c = (.ok snapshot,
      { c with wallet := c.wallet.refresh snapshot, world := world }) := by
  obtain ⟨session, hsession⟩ := session_of_accountState hreported
  obtain ⟨world, hworld⟩ := asks_accountState c
  have hasked : accountState.effect c = (.ok snapshot, { c with world := world }) :=
    Prod.ext hreported hworld
  have hbook := Book.effect_refresh snapshot c.wallet
  refine ⟨world, ?_⟩
  unfold refreshState
  rw [effect_bind_ok (effect_requireSession hsession _), effect_bind_ok hasked,
    effect_bind_ok (by rw [effect_atDesk, Desk.effect_book, desk, hbook])]
  rfl

/-- An account state that is reported while nothing is pending decides the next counter. -/
theorem spendingCounter_of_idle {snapshot : AccountSnapshot} (hidle : c.wallet.pending = [])
    (hreported : (accountState.effect c).1 = .ok snapshot) :
    (spendingCounter.effect (Operation.refreshState.perform.effect c).2).1 =
      .ok snapshot.counter := by
  obtain ⟨session, hsession⟩ := session_of_accountState hreported
  obtain ⟨world, hrefreshed⟩ := effect_refreshState hreported
  have htold := effect_spendingCounter
    (c := { c with wallet := c.wallet.refresh snapshot, world := world }) hsession
  unfold Operation.perform
  rw [effect_map, hrefreshed]
  dsimp only
  rw [htold, (State.refresh_idle hidle snapshot).2]

/-- **Counters below zero come from the node alone.** Whatever is done with a controller and
whatever the node answers, neither the next counter nor that of any transaction that is signed is
negative, as long as no account state with a negative counter is taken over while nothing is
pending; while fragments are pending such an account state does no harm. When one is taken over
with nothing pending, its counter is the next one. -/
theorem Unspoilt.counters_nonneg (h : c.Unspoilt) :
    0 ≤ c.wallet.counter ∧
      (∀ session, c.session = some session →
        spendingCounter.effect c = (.ok c.wallet.counter, c) ∧
        (∀ fragment, Submission.IsSigned (c.officeOf session) c.wallet fragment →
          0 ≤ fragment.transaction.counter) ∧
        ∀ op : Operation (Recorded ω), op.builds = true →
          ∀ question ∈ (op.perform.effect (Recorded.controller c)).2.world.questions,
            ∀ fragment ∈ question.fragments, ∃ tx : Transaction,
              fragment = (tx.signedBy session.identity).bytes ∧ 0 ≤ tx.counter) ∧
      ∀ op : Operation ω, op.Spoils c →
        ∃ n < 0, (spendingCounter.effect (op.perform.effect c).2).1 = .ok n := by
  have habove := h.aboveZero
  have hfloor := habove.floor_nonneg
  refine ⟨Int.le_trans hfloor habove.disciplined.floor_le_counter, fun session hsession =>
    ⟨effect_spendingCounter hsession, fun fragment hsigns => ?_, ?_⟩, ?_⟩
  · exact Int.le_trans hfloor (hsigns.floor_le habove.disciplined)
  · intro op hop question hasked fragment hfragment
    obtain ⟨tx, htx, hle⟩ := floor_le_submitted hsession habove.disciplined hop hasked hfragment
    exact ⟨tx, htx, Int.le_trans hfloor hle⟩
  · rintro op ⟨rfl, hidle, snapshot, hreported, hneg⟩
    exact ⟨snapshot.counter, hneg, spendingCounter_of_idle hidle hreported⟩

/-- A node that reports a negative counter. -/
def owing : Ledger.Client Nat :=
  { numbering with accountState := fun _ => pure { value := 100, counter := -3 } }

/-- A controller before a wallet is recovered. -/
def unopened : Controller Nat :=
  { numbered with client := owing, session := none }

/-- The session that begins with the key file. -/
def opened : Controller Nat :=
  unopened.begun (.ofMaterial keyFileMaterial) {} 0

/-- A payment is pending when the account state is fetched, and then it is settled. -/
def paidOff : Controller Nat :=
  [payment, .refreshState, .confirmAllTransactions].foldl
    (fun c op => (op.perform.effect c).2) opened

/-- The report does no harm while the payment is pending, and then it makes the next counter
negative. -/
theorem Unspoilt.counters_nonneg_owing :
    paidOff.Unspoilt ∧ paidOff.wallet.counter = 1 ∧ 0 ≤ paidOff.wallet.counter ∧
      spendingCounter.effect paidOff = (.ok paidOff.wallet.counter, paidOff) ∧
      Operation.refreshState.Spoils paidOff ∧
      ∃ n < 0, (spendingCounter.effect
        (Operation.refreshState.perform.effect paidOff).2).1 = .ok n := by
  have hmade : unopened.Unspoilt := .made
    (show Controller.new {} owing unopened.surroundings 0 = .ok unopened from rfl)
  have hyields : (Start.recover keyFile).yields unopened.options =
      .ok (.ofMaterial keyFileMaterial, none) := by
    show keyFile.identity.bind (fun identity => .ok (identity, none)) = _
    rw [keyFile_identity]
    rfl
  have hopened : opened.Unspoilt := by
    have hstarted := hmade.start (.recover keyFile)
    rw [Start.effect_perform_begun hyields rfl] at hstarted
    exact hstarted
  have hpaid := hopened.operation payment fun h => by cases h.1
  have hpending : ((payment.perform.effect opened).2).wallet.pending ≠ [] := by decide +kernel
  have hreported := hpaid.operation .refreshState fun h => hpending h.2.1
  have hsettled : paidOff.Unspoilt :=
    hreported.operation .confirmAllTransactions fun h => by cases h.1
  have hcounters : (do return (← (accountState.effect paidOff).1).counter) =
      Except.ok (ε := Failure) (-3 : Int) := by
    decide +kernel
  obtain ⟨snapshot, hanswer, hcounter⟩ := exists_of_bind_ok hcounters
  have hcounter : snapshot.counter = -3 := Except.ok.inj hcounter
  have hspoils : Operation.refreshState.Spoils paidOff :=
    ⟨rfl, by decide +kernel, snapshot, hanswer, by omega⟩
  obtain ⟨session, hsession⟩ := session_of_accountState hanswer
  obtain ⟨hnonneg, htold, hspoilt⟩ := hsettled.counters_nonneg
  exact ⟨hsettled, by decide +kernel, hnonneg, (htold session hsession).1, hspoils,
    hspoilt _ hspoils⟩

end Controller

end Wallet

end BallotWallet
