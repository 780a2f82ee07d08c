import BallotWallet.Proofs.AllOrNothing
import BallotWallet.Proofs.Asking

/-!
# Batches of votes over HTTP

What becomes of a batch of votes that is submitted to a node over HTTP, for every outcome of the
request. The node answers with a summary of the batch. The client is not prepared for every
summary; what it makes of the others is no failure of the node, and then the wallet does not give
back what it has reserved for the votes.
-/

namespace BallotWallet

open BallotWallet.Action

namespace Ledger

/-! ## Summaries -/

/-- The summaries that a client is not prepared for, and the failures that it makes of them. -/
inductive StraySummary (d : Document) : Failure → Prop
  | shapeless : (∀ fields, d ≠ .object fields) → StraySummary d .noMember
  /-- What was rejected is there and cannot be counted. -/
  | rejected {x : Document} : d.field "rejected" = .ok x → x.truthy = true → ¬x.IsCollection →
      StraySummary d .wrongKind
  /-- Nothing was rejected, and what was accepted cannot be listed. -/
  | accepted {x y : Document} : d.field "rejected" = .ok x → x.truthy = false →
      d.field "accepted" (.list []) = .ok y → ¬y.IsCollection → StraySummary d .wrongKind

theorem StraySummary.foreign {d : Document} {e : Failure} (h : StraySummary d e) :
    e.isBackend = false := by
  cases h <;> rfl

namespace Rest

/-- What is made of a summary with rejected fragments. -/
theorem readAccepted_rejected {count : Nat} {reply : Reply} {d x : Document} {e : Failure}
    (hfield : d.field "rejected" = .ok x) (hx : x.truthy = true) (he : e.isBackend = false) :
    readAccepted count reply d = .error e ↔ e = .wrongKind ∧ ¬x.IsCollection := by
  have hpresent : x.orElse (.list []) = x := if_pos hx
  unfold readAccepted
  rw [hfield]
  show (if (x.orElse (.list [])).truthy = true then _ else _) = _ ↔ _
  rw [hpresent, if_pos hx, bind_error_iff]
  unfold Document.size
  constructor
  · rintro (hsize | ⟨count, _, hthrow⟩)
    · rcases helements : x.elements with e' | xs
      · rw [helements] at hsize
        cases hsize
        exact Document.elements_error.mp helements
      · rw [helements] at hsize
        cases hsize
    · cases hthrow
      cases he
  · intro hnot
    rw [Document.elements_error.mpr hnot]
    exact .inl rfl

/-- What is made of a summary without rejected fragments. -/
theorem readAccepted_accepted {count : Nat} {reply : Reply} {d x : Document} {e : Failure}
    (hfield : d.field "rejected" = .ok x) (hx : x.truthy = false) :
    readAccepted count reply d = .error e ↔
      ∃ y, d.field "accepted" (.list []) = .ok y ∧ e = .wrongKind ∧ ¬y.IsCollection := by
  have hempty : x.orElse (.list []) = .list [] := if_neg (Bool.eq_false_iff.mp hx)
  unfold readAccepted
  rw [hfield]
  show (if (x.orElse (.list [])).truthy = true then _ else _) = _ ↔ _
  rw [hempty, if_neg (by rintro ⟨⟩), bind_error_iff]
  constructor
  · rintro (haccepted | ⟨y, hy, hids⟩)
    · -- the summary is an object, as one of its fields was read
      obtain ⟨_, hnot⟩ := Document.field_error.mp haccepted
      rw [Document.field_error.mpr ⟨rfl, hnot⟩] at hfield
      cases hfield
    · refine ⟨y, hy, ?_⟩
      rcases bind_error_iff.mp hids with helements | ⟨_, _, ⟨⟩⟩
      exact Document.elements_error.mp helements
  · rintro ⟨y, hy, hnot⟩
    exact .inr ⟨y, hy, bind_error_iff.mpr (.inl (Document.elements_error.mpr hnot))⟩

theorem readAccepted_shapeless {count : Nat} {reply : Reply} {d : Document}
    (hnot : ∀ fields, d ≠ .object fields) : readAccepted count reply d = .error .noMember := by
  unfold readAccepted
  rw [Document.field_error.mpr ⟨rfl, hnot⟩]
  rfl

/-- A summary fails in a way that is not the node's just if the client is not prepared for it. -/
theorem readAccepted_foreign (count : Nat) (reply : Reply) (d : Document) {e : Failure}
    (he : e.isBackend = false) :
    readAccepted count reply d = .error e ↔ StraySummary d e := by
  constructor
  · intro hread
    rcases hfield : d.field "rejected" with found | x
    · obtain ⟨_, hnot⟩ := Document.field_error.mp hfield
      rw [readAccepted_shapeless hnot] at hread
      cases hread
      exact .shapeless hnot
    · cases hx : x.truthy with
      | true =>
          obtain ⟨rfl, hnot⟩ := (readAccepted_rejected hfield hx he).mp hread
          exact .rejected hfield hx hnot
      | false =>
          obtain ⟨y, hy, rfl, hnot⟩ := (readAccepted_accepted hfield hx).mp hread
          exact .accepted hfield hx hy hnot
  · intro h
    cases h with
    | shapeless hnot => exact readAccepted_shapeless hnot
    | rejected hfield hx hnot => exact (readAccepted_rejected hfield hx he).mpr ⟨rfl, hnot⟩
    | accepted hfield hx hy hnot =>
        exact (readAccepted_accepted hfield hx).mpr ⟨_, hy, rfl, hnot⟩

/-! ## Requests -/

variable {ω : Type} (rest : Rest)

/-- The request that submits several fragments. -/
def batchRequest (fragments : List Bytes) : Request :=
  ⟨.post, rest.url .post "/api/v1/fragments", rest.timeout, .json (batch fragments)⟩

/-- What comes of submitting a number of fragments with an outcome. -/
def batchResult (count : Nat) : Except Text Reply → Except Failure (List Text) :=
  rest.answered .post "/api/v1/fragments" "fragment batch returned invalid JSON"
    (readAccepted count)

theorem effect_submitAll {transport : Transport ω} {fragments : List Bytes}
    (hne : fragments ≠ []) {outcome : Except Text Reply} {w w' : ω}
    (h : (transport.send (rest.batchRequest fragments)).effect w = (.ok outcome, w')) :
    ((rest.client transport).submitAll fragments).effect w =
      (rest.batchResult fragments.length outcome, w') := by
  have hsome : fragments.isEmpty = false := List.isEmpty_eq_false_iff.mpr hne
  show (rest.submitAll transport fragments).effect w = _
  unfold submitAll
  simp only [hsome, Bool.false_eq_true, if_false]
  exact rest.effect_answered _ _ h

/-- The outcomes of a batch that a client is not prepared for. -/
theorem batchResult_foreign (count : Nat) {outcome : Except Text Reply} {e : Failure}
    (he : e.isBackend = false) :
    rest.batchResult count outcome = .error e ↔ Baffles StraySummary outcome e :=
  rest.answered_foreign _ _ _ (fun reply d _ he => readAccepted_foreign count reply d he) he

end Rest

end Ledger

namespace Wallet.Submission

open Ledger (Rest Transport Baffles StraySummary)

/-! ## Votes -/

variable {ω : Type} {office : Office ω} {rest : Rest} {transport : Transport ω}
  {items : List (Proposal × Choice)} {window : Option ValidUntil} {d : Desk ω} {e : Failure}

/-- What strands a batch of votes over HTTP: it fails, and not all that was reserved for the votes
is given back. -/
inductive StrandsBatch (office : Office ω) (rest : Rest) (transport : Transport ω)
    (items : List (Proposal × Choice)) (window : Option ValidUntil) (d : Desk ω) : Failure → Prop
  /-- A number in one of the votes is too long to be written. -/
  | unsignable : ¬Signable office window d items →
      StrandsBatch office rest transport items window d .badValue
  /-- The client is not prepared for the outcome of the request that submits the votes. -/
  | baffled {cast : List Ballot} {validUntil : BlockDate} {outcome : Except Text Ledger.Reply}
      {w : ω} {e : Failure} : Signable office window d items → ballots items = .ok cast →
      resolved office window d = .ok validUntil →
      (transport.send (rest.batchRequest (votesSigned office validUntil cast d.wallet))).effect
        d.world = (.ok outcome, w) →
      Baffles StraySummary outcome e →
      StrandsBatch office rest transport items window d e

theorem votesSigned_ne_nil {cast : List Ballot} {validUntil : BlockDate} (hne : cast ≠ []) :
    votesSigned office validUntil cast d.wallet ≠ [] := by
  rw [← List.length_pos_iff_ne_nil]
  simpa [votesSigned] using List.length_pos_iff_ne_nil.mpr hne

/-- A batch that nothing strands is all or nothing. -/
theorem voteBatch_restores (hclient : office.client = rest.client transport)
    (hdelivers : transport.Delivers) (h : d.wallet.Disciplined []) (hne : items ≠ [])
    (hsafe : ∀ e, ¬StrandsBatch office rest transport items window d e) :
    VotesAllOrNothing office window d items
      (fun fragments => ((office.client.submitAll fragments).effect d.world).1)
      ((voteBatch office items window).effect d).1
      ((voteBatch office items window).effect d).2.wallet := by
  have hsign : Signable office window d items := by
    by_contra hnot
    exact hsafe _ (.unsignable hnot)
  refine voteBatch_answered ?_ h hne hsign
  intro cast validUntil e hcast hresolve hask
  by_contra hforeign
  replace hforeign := Bool.eq_false_iff.mpr hforeign
  obtain ⟨outcome, w, hsend⟩ := hdelivers
    (rest.batchRequest (votesSigned office validUntil cast d.wallet)) d.world
  rw [hclient, rest.effect_submitAll (votesSigned_ne_nil (ballots_ne_nil hcast hne)) hsend] at hask
  exact hsafe e (.baffled hsign hcast hresolve hsend
    ((rest.batchResult_foreign _ hforeign).mp hask))

/-- A batch that is stranded fails and keeps what it has reserved for some of the votes. -/
theorem voteBatch_stranded (hclient : office.client = rest.client transport)
    (h : d.wallet.Disciplined []) (hne : items ≠ [])
    (hstrands : StrandsBatch office rest transport items window d e) :
    ((voteBatch office items window).effect d).1 = .error e ∧ e.isBackend = false ∧
      ∃ n < items.length, ((voteBatch office items window).effect d).2.wallet =
        d.wallet.reservedAll (List.replicate (n + 1) office.settings.fees.vote) := by
  cases hstrands with
  | unsignable hnot =>
      obtain ⟨n, hn, heffect⟩ := voteBatch_unsignable h hnot
      rw [heffect]
      exact ⟨rfl, rfl, n, hn, rfl⟩
  | @baffled cast validUntil outcome w e hsign hcast hresolve hsend hbaffles =>
      have hcastne := ballots_ne_nil hcast hne
      have he := hbaffles.foreign fun _ _ => StraySummary.foreign
      have hask := rest.effect_submitAll (votesSigned_ne_nil hcastne) hsend
      rw [(rest.batchResult_foreign _ he).mpr hbaffles, ← hclient] at hask
      have hlen : ((d.wallet.reservations (office.voteFees cast)).map some).length =
          (votesSigned office validUntil cast d.wallet).length := by
        simp [votesSigned]
      have hbroken := effect_sendMany_broken office.client
        (d := { d with wallet := d.wallet.reservedAll (office.voteFees cast) })
        (.inr hlen) hask he
      rw [effect_voteBatch h hcast hcastne hresolve (hsign cast validUntil hcast hresolve),
        hbroken]
      obtain ⟨n, hn⟩ : ∃ n, items.length = n + 1 :=
        Nat.exists_eq_succ_of_ne_zero (mt List.length_eq_zero_iff.mp hne)
      refine ⟨rfl, he, n, hn ▸ Nat.lt_succ_self n, ?_⟩
      dsimp only
      rw [Office.voteFees, length_ballots hcast, hn]

/-- **A failed batch over HTTP.** In every session, whatever the outcome of the request that
submits the votes: a batch that nothing strands is all or nothing, so that a failure leaves the
wallet exactly as it was. A batch is stranded exactly if one of the votes cannot be signed, or if
the client is not prepared for the outcome, because the summary goes too deep or has not the shape
that it should have; it always fails then, not as the node fails, and leaves the wallet changed. -/
theorem batch_restores_unless_stranded {c : Controller ω} (hc : c.Reached)
    (hclient : office.client = rest.client transport) (hdelivers : transport.Delivers)
    (world : ω) (hne : items ≠ []) :
    ((∀ e, ¬StrandsBatch office rest transport items window ⟨c.wallet, world⟩ e) →
      VotesAllOrNothing office window ⟨c.wallet, world⟩ items
        (fun fragments => ((office.client.submitAll fragments).effect world).1)
        ((voteBatch office items window).effect ⟨c.wallet, world⟩).1
        ((voteBatch office items window).effect ⟨c.wallet, world⟩).2.wallet) ∧
    ∀ e, StrandsBatch office rest transport items window ⟨c.wallet, world⟩ e →
      ((voteBatch office items window).effect ⟨c.wallet, world⟩).1 = .error e ∧
      e.isBackend = false ∧
      (∃ n < items.length,
        ((voteBatch office items window).effect ⟨c.wallet, world⟩).2.wallet =
          c.wallet.reservedAll (List.replicate (n + 1) office.settings.fees.vote)) ∧
      ((voteBatch office items window).effect ⟨c.wallet, world⟩).2.wallet ≠ c.wallet := by
  have h := hc.disciplined
  refine ⟨voteBatch_restores (d := ⟨c.wallet, world⟩) hclient hdelivers h hne, ?_⟩
  intro e hstrands
  obtain ⟨hresult, he, n, hn, hwallet⟩ :=
    voteBatch_stranded (d := ⟨c.wallet, world⟩) hclient h hne hstrands
  refine ⟨hresult, he, ⟨n, hn, hwallet⟩, ?_⟩
  rw [hwallet]
  exact reservedAll_ne (d := ⟨c.wallet, world⟩) h n _

/-- A session over HTTP with a node that answers everything with an empty list. -/
def listingOffice : Office Unit where
  identity := .ofMaterial default
  settings := { fees := { constant := 2 } }
  client := Ledger.node.client (Ledger.replying (Ledger.goodReply "[]"))
  surroundings := repeated.surroundings

/-- A batch of one vote fails with an empty list for a summary, and keeps its counter and its
fee. -/
theorem batch_restores_unless_stranded_list :
    repeated.Reached ∧ (Ledger.replying (Ledger.goodReply "[]")).Delivers ∧
      ((voteBatch listingOffice [({ endless with index := 1 }, .number 0)]
        (some (.date ⟨0, 0⟩))).effect ⟨repeated.wallet, ()⟩).1 = .error .noMember ∧
      ((voteBatch listingOffice [({ endless with index := 1 }, .number 0)]
        (some (.date ⟨0, 0⟩))).effect ⟨repeated.wallet, ()⟩).2.wallet ≠ repeated.wallet := by
  have hreached : repeated.Reached := .fresh ⟨rfl, rfl⟩
  have hdelivers := Ledger.replying_delivers (Ledger.goodReply "[]")
  have hcast : ballots [({ endless with index := 1 }, .number 0)] =
      .ok [⟨{ endless with index := 1 }, 0⟩] := by
    rfl
  have hsign : Signable listingOffice (some (.date ⟨0, 0⟩)) ⟨repeated.wallet, ()⟩
      [({ endless with index := 1 }, .number 0)] := by
    rintro cast validUntil hfound hresolve tx htx
    cases hcast.symm.trans hfound
    cases hresolve
    obtain rfl := List.mem_singleton.mp htx
    decide +kernel
  have hbaffles : Baffles StraySummary (.ok (Ledger.goodReply "[]")) .noMember :=
    (Ledger.node.batchResult_foreign 1 rfl).mp (by decide +kernel)
  have hstrands : StrandsBatch listingOffice Ledger.node (Ledger.replying (Ledger.goodReply "[]"))
      [({ endless with index := 1 }, .number 0)] (some (.date ⟨0, 0⟩)) ⟨repeated.wallet, ()⟩
      .noMember :=
    .baffled (w := ()) hsign hcast rfl rfl hbaffles
  obtain ⟨hfails, _, _, hchanged⟩ := (batch_restores_unless_stranded hreached rfl hdelivers ()
    (List.cons_ne_nil _ _)).2 _ hstrands
  exact ⟨hreached, hdelivers, hfails, hchanged⟩

end Wallet.Submission

end BallotWallet
