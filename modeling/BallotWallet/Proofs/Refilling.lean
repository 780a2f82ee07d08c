import BallotWallet.Proofs.OneByOne
import BallotWallet.Proofs.Usage

/-!
# Holes are refilled

A rejected fragment may leave a hole, and no later fragment gets into a block before the hole is
filled. So it matters that reservations take the lowest counters on offer, the holes first and
then the counters from the top on, and that the votes of a batch carry them in order.
-/

namespace BallotWallet.Wallet

open BallotWallet.Action

/-- The lowest numbers with a property, in increasing order: as many as the list is long. -/
structure Lowest (P : Int → Prop) (cs : List Int) : Prop where
  increasing : cs.Pairwise (· < ·)
  among : ∀ c ∈ cs, P c
  least : ∀ d, P d → d ∉ cs → ∀ c ∈ cs, c < d

namespace Lowest

variable {P : Int → Prop} {c : Int} {cs ds : List Int}

theorem singleton (hc : P c) (hle : ∀ d, P d → c ≤ d) : Lowest P [c] where
  increasing := List.pairwise_singleton _ _
  among := by
    intro d hd
    obtain rfl := List.mem_singleton.mp hd
    exact hc
  least := by
    intro d hd hne e he
    obtain rfl := List.mem_singleton.mp he
    rw [List.mem_singleton] at hne
    have := hle d hd
    omega

/-- The lowest number comes first, and then the lowest ones of the others. -/
theorem cons (hc : P c) (hle : ∀ d, P d → c ≤ d) (h : Lowest (fun d => P d ∧ d ≠ c) cs) :
    Lowest P (c :: cs) where
  increasing := by
    refine List.pairwise_cons.mpr ⟨fun d hd => ?_, h.increasing⟩
    obtain ⟨hP, hne⟩ := h.among d hd
    have := hle d hP
    omega
  among := by
    intro d hd
    rcases List.mem_cons.mp hd with rfl | hd
    · exact hc
    · exact (h.among d hd).1
  least := by
    intro d hd hnot e he
    rw [List.mem_cons, not_or] at hnot
    rcases List.mem_cons.mp he with rfl | he
    · have := hle d hd
      omega
    · exact h.least d ⟨hd, hnot.1⟩ hnot.2 e he

theorem left (h : Lowest P (cs ++ ds)) : Lowest P cs where
  increasing := (List.pairwise_append.mp h.increasing).1
  among := fun c hc => h.among c (List.mem_append_left _ hc)
  least := by
    intro d hd hnot c hc
    by_cases hds : d ∈ ds
    · exact (List.pairwise_append.mp h.increasing).2.2 c hc d hds
    · refine h.least d hd ?_ c (List.mem_append_left _ hc)
      rw [List.mem_append, not_or]
      exact ⟨hnot, hds⟩

/-- The lowest ones with a property are determined by their number. -/
theorem unique (h : Lowest P cs) (h' : Lowest P ds) (hlen : cs.length = ds.length) :
    cs = ds := by
  -- of two increasing lists with different elements, one has a number that the other skips
  have hsub : ∀ {xs ys : List Int}, Lowest P xs → Lowest P ys → xs.length = ys.length →
      ∀ c ∈ xs, c ∈ ys := by
    intro xs ys hx hy hlen c hc
    by_contra hnot
    have hlt : ∀ d ∈ ys, d < c := hy.least c (hx.among c hc) hnot
    have hin : ∀ d ∈ ys, d ∈ xs := by
      intro d hd
      by_contra hout
      have hcd := hx.least d (hy.among d hd) hout c hc
      have := hlt d hd
      omega
    have hnodup : ys.Nodup := hy.increasing.imp fun h => Int.ne_of_lt h
    have hcons : (c :: ys).Nodup := List.nodup_cons.mpr ⟨hnot, hnodup⟩
    have hle : (c :: ys).length ≤ xs.length := by
      refine hcons.length_le_of_subset ?_
      intro d hd
      rcases List.mem_cons.mp hd with rfl | hd
      · exact hc
      · exact hin d hd
    rw [List.length_cons] at hle
    omega
  have hperm : cs.Perm ds :=
    (List.perm_ext_iff_of_nodup (h.increasing.imp fun h => Int.ne_of_lt h)
      (h'.increasing.imp fun h => Int.ne_of_lt h)).mpr
      fun c => ⟨hsub h h' hlen c, hsub h' h hlen.symm c⟩
  refine hperm.eq_of_pairwise ?_ h.increasing h'.increasing
  intro a b _ _ hab hba
  omega

end Lowest

/-! ## Reservations -/

namespace State

theorem counters_reservations (values : List Int) (s : State) :
    (s.reservations values).map (·.counter) =
      (Reservation.counters (s.reservations values)).map some := by
  induction values generalizing s with
  | nil => rfl
  | cons value values ih =>
      have hrest := ih (s.reserved value)
      exact congrArg (List.cons _) hrest

/-- Reservations take the lowest counters on offer, and the next one is the lowest after them. -/
theorem Ordered.lowest_reservations {s : State} (h : s.Ordered) (values : List Int) :
    Lowest s.Offers (Reservation.counters (s.reservations values) ++
      [(s.reservedAll values).counter]) := by
  induction values generalizing s with
  | nil => exact .singleton s.offers_counter fun d => h.counter_le
  | cons value values ih =>
      have hrest := ih (h.reserved value)
      have hoffers : (s.reserved value).Offers = fun d => s.Offers d ∧ d ≠ s.counter := by
        funext d
        exact propext (h.offers_reserved value)
      rw [hoffers] at hrest
      exact .cons s.offers_counter (fun d => h.counter_le) hrest

end State

/-! ## Batches -/

namespace Submission

variable {ω : Type} {office : Office (Watched ω)} {node : Ledger.Client ω} {d : Desk (Watched ω)}
  {items : List (Proposal × Choice)} {window : Option ValidUntil} {cast : List Ballot}
  {validUntil : BlockDate} {outstanding : List Int}

/-- A batch that was handed to the node in one call: a vote for each item, in the order of the
items, with the lowest counters on offer. If the batch succeeds, the next counter is the lowest
one after them. -/
structure HandedLowest (office : Office (Watched ω)) (d : Desk (Watched ω))
    (items : List (Proposal × Choice)) (validUntil : BlockDate) (txs : List Transaction)
    (result : Except Failure (List Text)) (after : Desk (Watched ω)) : Prop where
  votes : List.Forall₂ (fun item tx => ∃ ballot, Ballot.cast item.1 item.2 = .ok ballot ∧
    tx = office.voteOf ballot tx.counter validUntil) items txs
  call : after.world.calls =
    (txs.map fun tx => (tx.signedBy office.identity).bytes) :: d.world.calls
  lowest : Lowest d.wallet.Offers (txs.map (·.counter))
  next : ∀ ids, result = .ok ids →
    Lowest d.wallet.Offers (txs.map (·.counter) ++ [after.wallet.counter])

theorem votesOf_items (hcast : ballots items = .ok cast) (s : State) :
    List.Forall₂ (fun item tx => ∃ ballot, Ballot.cast item.1 item.2 = .ok ballot ∧
      tx = office.voteOf ballot tx.counter validUntil) items
      (office.votesOf validUntil cast s) := by
  induction items generalizing cast s with
  | nil =>
      obtain rfl := Except.ok.inj hcast
      exact .nil
  | cons item items ih =>
      obtain ⟨proposal, choice⟩ := item
      obtain ⟨ballot, rest, rfl, hballot, hrest⟩ := ballots_cons hcast
      exact .cons ⟨ballot, hballot, rfl⟩ (ih hrest _)

theorem counters_votesOf (validUntil : BlockDate) (cast : List Ballot) (s : State) :
    (office.votesOf validUntil cast s).map (·.counter) =
      Reservation.counters (s.reservations (office.voteFees cast)) := by
  have hbuilds := Office.counters_of_builds (office.votesOf_built validUntil cast s)
  rw [State.counters_reservations] at hbuilds
  have hinjective : Function.Injective (List.map (some : Int → Option Int)) :=
    List.map_injective_iff.mpr fun _ _ => Option.some.inj
  refine hinjective ?_
  rw [List.map_map]
  exact hbuilds

theorem Ended.wallet_eq {before s wallet : State} {count : Nat} {rs : List (Option Reservation)}
    {answer : Except Failure (List Text)} {ids : List Text}
    (h : Ended before s count rs answer (.ok ids) wallet) : wallet = s.submitted ids rs := by
  cases h
  rfl

/-- Votes that are offered and can be signed are handed over with the lowest counters. -/
theorem voteBatch_handed (h : d.wallet.Disciplined outstanding)
    (hnode : office.client = Watched.client node) (hcast : ballots items = .ok cast)
    (hne : cast ≠ []) (hresolve : resolved office window d = .ok validUntil)
    (hw : ∀ tx ∈ office.votesOf validUntil cast d.wallet, tx.isWritable = true) :
    HandedLowest office d items validUntil (office.votesOf validUntil cast d.wallet)
      ((voteBatch office items window).effect d).1
      ((voteBatch office items window).effect d).2 := by
  have hlowest := h.ordered.lowest_reservations (office.voteFees cast)
  rw [← counters_votesOf validUntil cast d.wallet] at hlowest
  obtain ⟨hended, hworld⟩ := sendMany_ended office.client
    { d with wallet := d.wallet.reservedAll (office.voteFees cast) }
    (votesSigned office validUntil cast d.wallet) (Or.inr (by simp [votesSigned]))
    (effect_releaseEach_reservations h _)
  rw [effect_voteBatch h hcast hne hresolve hw]
  refine ⟨votesOf_items hcast d.wallet, ?_, hlowest.left, ?_⟩
  · rw [hworld, hnode]
    rfl
  · intro ids hok
    rw [hok] at hended
    rw [hended.wallet_eq]
    exact hlowest

/-- A batch with nothing in it, or one that cannot be cast, resolved or signed, is not handed
over. -/
theorem calls_voteBatch_unhanded (h : d.wallet.Disciplined [])
    (hnot : ¬ (items ≠ [] ∧ (∀ item ∈ items, item.1.Offers item.2) ∧
      (∃ validUntil, resolved office window d = .ok validUntil) ∧
      Signable office window d items)) :
    ((voteBatch office items window).effect d).2.world.calls = d.world.calls := by
  by_cases hsign : Signable office window d items
  · rcases ballots_cases items with ⟨⟨cast, hcast, _⟩, hall⟩ | ⟨⟨t, labels, hcast⟩, _⟩
    · by_cases hne : items = []
      · subst hne
        rw [effect_voteBatch_nil rfl]
      · cases hresolve : resolved office window d with
        | error e => rw [effect_voteBatch_unresolved hcast (ballots_ne_nil hcast hne) hresolve]
        | ok validUntil => exact absurd ⟨hne, hall, ⟨validUntil, hresolve⟩, hsign⟩ hnot
    · rw [effect_voteBatch_uncast hcast]
  · obtain ⟨n, _, heffect⟩ := voteBatch_unsignable h hsign
    rw [heffect]

/-- **Holes are refilled lowest first.** However a wallet was used, the counters on offer are the
released ones and those from the top on. Reservations one after another take the lowest of them in
increasing order, and then the next counter is the lowest one that is left. Just so a batch of
votes hands over, in the order of its items, votes that carry the lowest counters on offer; a
batch that is empty, not offered, not resolved or not signable makes no call. -/
theorem holes_refilled {t : Run} (h : Run.Used t) :
    (∀ values, ∃ rs s cs, (Book.reserveEach values).effect t.wallet = (.ok rs, s) ∧
      rs.map (·.value) = values ∧ rs.map (·.counter) = cs.map some ∧
      Lowest t.wallet.Offers (cs ++ [s.counter])) ∧
    ∀ (office : Office (Watched ω)) (node : Ledger.Client ω) (d : Desk (Watched ω))
      (items : List (Proposal × Choice)) (window : Option ValidUntil),
      office.client = Watched.client node → d.wallet = t.wallet →
      (∀ validUntil, items ≠ [] → (∀ item ∈ items, item.1.Offers item.2) →
        resolved office window d = .ok validUntil → Signable office window d items →
        ∃ txs, HandedLowest office d items validUntil txs
          ((voteBatch office items window).effect d).1
          ((voteBatch office items window).effect d).2) ∧
      (¬ (items ≠ [] ∧ (∀ item ∈ items, item.1.Offers item.2) ∧
          (∃ validUntil, resolved office window d = .ok validUntil) ∧
          Signable office window d items) →
        ((voteBatch office items window).effect d).2.world.calls = d.world.calls) := by
  constructor
  · intro values
    exact ⟨_, _, Reservation.counters (t.wallet.reservations values),
      Book.effect_reserveEach h.disciplined values, State.reservations_values values _,
      State.counters_reservations values _, h.disciplined.ordered.lowest_reservations values⟩
  · intro office node d items window hnode hwallet
    have hd : d.wallet.Disciplined [] := hwallet ▸ h.disciplined.none_outstanding
    refine ⟨?_, calls_voteBatch_unhanded hd⟩
    intro validUntil hne hall hresolve hsign
    rcases ballots_cases items with ⟨⟨cast, hcast, _⟩, _⟩ | ⟨_, hnot⟩
    · exact ⟨_, voteBatch_handed hd hnode hcast (ballots_ne_nil hcast hne) hresolve
        (hsign cast validUntil hcast hresolve)⟩
    · exact absurd hall hnot

/-- A run that leaves two holes: of the counters 5, 6 and 7 the last is in a block, the others came
back. -/
def twoHoles : Run :=
  let c : Text := Text.ofChars ['c']
  [Move.reserve 10, .reserve 20, .reserve 30, .track c { counter := some 7, value := 30 },
    .release { counter := some 5, value := 10 }, .release { counter := some 6, value := 20 },
    .confirm c].foldl Run.step
    { wallet := { nextCounter := 5, floor := 5, balance := 100 } }

theorem twoHoles_used : Run.Used twoHoles := by
  have hstart : State.start 5 100 = .ok { nextCounter := 5, floor := 5, balance := 100 } := rfl
  exact (Run.Used.start hstart).foldl (by decide +kernel)

/-- The desk with that wallet and a node that was not called yet. -/
def holedDesk : Desk (Watched Unit) :=
  ⟨twoHoles.wallet, ⟨(), []⟩⟩

/-- Three votes. -/
def threeAnswers : List (Proposal × Choice) :=
  (question, .number 1) :: answers

theorem threeAnswers_offered : ∀ item ∈ threeAnswers, item.1.Offers item.2 := by
  intro item hitem
  rcases List.mem_cons.mp hitem with rfl | hitem
  · exact List.mem_cons_self
  · exact answers_offered item hitem

theorem threeAnswers_cast :
    ballots threeAnswers = .ok [⟨question, 1⟩, ⟨question, 1⟩, ⟨question, 0⟩] :=
  rfl

theorem threeAnswers_resolved : resolved echoedOffice none holedDesk = .ok ⟨9, 20⟩ := by
  decide +kernel

theorem threeAnswers_signable : Signable echoedOffice none holedDesk threeAnswers := by
  intro cast validUntil hcast hdate
  obtain rfl := Except.ok.inj (threeAnswers_cast.symm.trans hcast)
  obtain rfl := Except.ok.inj (threeAnswers_resolved.symm.trans hdate)
  decide +kernel

/-- The node names the votes, and nothing is pending. -/
theorem threeAnswers_accepted :
    ∃ ids, ((voteBatch echoedOffice threeAnswers none).effect holedDesk).1 = .ok ids := by
  have hnames : Names echoedOffice.client fun fragment => (Hex.encode fragment : Text) :=
    names_echoing.watched
  have hdisciplined : holedDesk.wallet.Disciplined _ := twoHoles_used.disciplined
  have hpending : holedDesk.wallet.pendingIds = [] := by decide +kernel
  have heffect := effect_voteBatch_accepted hdisciplined threeAnswers_cast (List.cons_ne_nil _ _)
    threeAnswers_resolved (threeAnswers_signable _ _ threeAnswers_cast threeAnswers_resolved)
    (hnames.submitAll _ _)
    (fresh_names hnames.injective hdisciplined fun _ _ => hpending ▸ List.not_mem_nil)
  exact ⟨_, congrArg Prod.fst heffect⟩

/-- Three values and three votes fill both holes and go on at the top. -/
theorem holes_refilled_two :
    Run.Used twoHoles ∧ twoHoles.wallet.released.elements = [5, 6] ∧
      twoHoles.wallet.nextCounter = 8 ∧
      (∃ rs s, (Book.reserveEach [1, 2, 3]).effect twoHoles.wallet = (.ok rs, s) ∧
        rs.map (·.counter) = [some 5, some 6, some 8] ∧ s.counter = 9) ∧
      threeAnswers ≠ [] ∧ (∀ item ∈ threeAnswers, item.1.Offers item.2) ∧
      resolved echoedOffice none holedDesk = .ok ⟨9, 20⟩ ∧
      Signable echoedOffice none holedDesk threeAnswers ∧
      ∃ txs, HandedLowest echoedOffice holedDesk threeAnswers ⟨9, 20⟩ txs
          ((voteBatch echoedOffice threeAnswers none).effect holedDesk).1
          ((voteBatch echoedOffice threeAnswers none).effect holedDesk).2 ∧
        txs.map (·.counter) = [5, 6, 8] ∧
        ((voteBatch echoedOffice threeAnswers none).effect holedDesk).2.wallet.counter = 9 := by
  have hne : threeAnswers ≠ [] := List.cons_ne_nil _ _
  obtain ⟨hreserve, hbatch⟩ := holes_refilled (ω := Unit) twoHoles_used
  have hnode : echoedOffice.client = Watched.client echoing := rfl
  have hwallet : holedDesk.wallet = twoHoles.wallet := rfl
  obtain ⟨txs, hhanded⟩ := (hbatch echoedOffice echoing holedDesk threeAnswers none hnode
    hwallet).1 ⟨9, 20⟩ hne threeAnswers_offered threeAnswers_resolved threeAnswers_signable
  -- the four lowest counters on offer
  have hfour : Lowest twoHoles.wallet.Offers ([5, 6, 8] ++ [9]) := by
    have hlowest := twoHoles_used.disciplined.ordered.lowest_reservations [1, 2, 3]
    have hcounters : Reservation.counters (twoHoles.wallet.reservations [1, 2, 3]) ++
        [(twoHoles.wallet.reservedAll [1, 2, 3]).counter] = [5, 6, 8] ++ [9] := by
      decide +kernel
    rwa [hcounters] at hlowest
  refine ⟨twoHoles_used, by decide +kernel, by decide +kernel, ?_, hne, threeAnswers_offered,
    threeAnswers_resolved, threeAnswers_signable, txs, hhanded, ?_⟩
  · obtain ⟨rs, s, cs, heffect, hvalues, hcounters, hlowest⟩ := hreserve [1, 2, 3]
    have hlen := congrArg List.length hcounters
    have hcount := congrArg List.length hvalues
    simp only [List.length_map, List.length_cons, List.length_nil] at hlen hcount
    have hall := hlowest.unique hfour (by simp; omega)
    obtain ⟨rfl, hnext⟩ := List.append_inj' hall rfl
    exact ⟨rs, s, heffect, hcounters, List.singleton_inj.mp hnext⟩
  · obtain ⟨ids, hok⟩ := threeAnswers_accepted
    have hlen := hhanded.votes.length_eq
    have hall := (hhanded.next ids hok).unique hfour (by
      rw [List.length_append, List.length_map, ← hlen]
      rfl)
    obtain ⟨hcounters, hnext⟩ := List.append_inj' hall (by simp only [List.length_singleton])
    exact ⟨hcounters, List.singleton_inj.mp hnext⟩

end Submission

end BallotWallet.Wallet
