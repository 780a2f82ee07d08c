import BallotWallet.Proofs.AllOrNothing
import BallotWallet.Proofs.Distinct
import BallotWallet.Proofs.Provenance

/-!
# Votes one by one

A batch reserves all counters before any fragment becomes pending; votes that are cast one by one
reserve and become pending in turn. Reserving does not depend on what is pending, so both submit
the same fragments, and at a node that names fragments by their bytes both end in the same state.
-/

namespace BallotWallet.Wallet

open BallotWallet.Action

variable {ω : Type}

/-- A node that accepts all fragments and names them by their bytes. -/
structure Names (client : Ledger.Client ω) (name : Bytes → Text) : Prop where
  injective : Function.Injective name
  submit : ∀ fragment w, ((client.submit fragment).effect w).1 = .ok (name fragment)
  submitAll : ∀ fragments w, ((client.submitAll fragments).effect w).1 = .ok (fragments.map name)

/-- Watching a node does not change how it names fragments. -/
theorem Names.watched {node : Ledger.Client ω} {name : Bytes → Text} (h : Names node name) :
    Names (Watched.client node) name where
  injective := h.injective
  submit := fun fragment w => h.submit fragment w.world
  submitAll := fun fragments w => h.submitAll fragments w.world

/-- The world after fragments were submitted one by one. -/
def handedEach (client : Ledger.Client ω) (fragments : List Bytes) (w : ω) : ω :=
  fragments.foldl (fun w fragment => ((client.submit fragment).effect w).2) w

theorem calls_handedEach (node : Ledger.Client ω) (fragments : List Bytes) (w : Watched ω) :
    (handedEach (Watched.client node) fragments w).calls =
      (fragments.map ([·])).reverse ++ w.calls := by
  induction fragments generalizing w with
  | nil => rfl
  | cons fragment fragments ih =>
      rw [List.map_cons, List.reverse_cons, List.append_assoc]
      exact ih _

/-- A fragment that is pending before the others are reserved is the first one of all. -/
theorem State.submitted_first (value : Int) (values : List Int) (id : Text) (ids : List Text)
    (s : State) :
    let reservation : Reservation := { counter := some s.counter, value := value }
    let first := (s.reserved value).tracked id (some reservation)
    (first.reservedAll values).submitted ids ((first.reservations values).map some) =
      (s.reservedAll (value :: values)).submitted (id :: ids)
        ((s.reservations (value :: values)).map some) := by
  intro reservation first
  have hreserved : first.reservedAll values =
      ((s.reserved value).reservedAll values).tracked id (some reservation) :=
    State.reservedAll_tracked ..
  have hreservations : first.reservations values = (s.reserved value).reservations values :=
    State.reservations_tracked ..
  rw [hreserved, hreservations]
  exact (State.submitted_cons id ids (some reservation :: _) _).symm

namespace Submission

variable {office : Office ω} {window : Option ValidUntil} {d : Desk ω} {outstanding : List Int}
  {items : List (Proposal × Choice)} {cast : List Ballot} {validUntil : BlockDate}
  {name : Bytes → Text}

/-- Casts votes one by one; the first failure ends it. -/
def voteEach (office : Office ω) (window : Option ValidUntil) :
    List (Proposal × Choice) → Action (Desk ω) (List Text)
  | [] => pure []
  | (proposal, choice) :: items => do
    let id ← vote office proposal choice window
    return id :: (← voteEach office window items)

theorem ballots_cons {proposal : Proposal} {choice : Choice}
    (h : ballots ((proposal, choice) :: items) = .ok cast) :
    ∃ ballot rest, cast = ballot :: rest ∧ Ballot.cast proposal choice = .ok ballot ∧
      ballots items = .ok rest := by
  obtain ⟨ballot, hcast, h⟩ := exists_of_bind_ok h
  obtain ⟨rest, hrest, h⟩ := exists_of_bind_ok h
  exact ⟨ballot, rest, (Except.ok.inj h).symm, hcast, hrest⟩

/-! ## Different votes -/

theorem mem_votesSigned {fragment : Bytes} {s : State}
    (h : fragment ∈ votesSigned office validUntil cast s) :
    ∃ ballot counter, counter ∈ Reservation.counters (s.reservations (office.voteFees cast)) ∧
      fragment = ((office.voteOf ballot counter validUntil).signedBy office.identity).bytes := by
  induction cast generalizing s with
  | nil => cases h
  | cons ballot rest ih =>
      rcases List.mem_cons.mp h with rfl | h
      · exact ⟨ballot, s.counter, List.mem_cons_self, rfl⟩
      · obtain ⟨found, counter, hcounter, hfragment⟩ := ih h
        exact ⟨found, counter, List.mem_cons_of_mem _ hcounter, hfragment⟩

/-- The fragments of a batch are different, as their counters are. -/
theorem nodup_votesSigned {s : State} (h : s.Disciplined outstanding) :
    (votesSigned office validUntil cast s).Nodup := by
  induction cast generalizing s outstanding with
  | nil => exact List.nodup_nil
  | cons ballot rest ih =>
      have hreserved := h.reserve_disciplined office.settings.fees.vote
      refine List.nodup_cons.mpr ⟨?_, ih hreserved⟩
      intro hmem
      obtain ⟨found, counter, hcounter, hsame⟩ := mem_votesSigned hmem
      have heq := Office.counter_eq_of_bytes hsame
      -- the first counter is outstanding while the others are taken
      have hheld := (hreserved.reservedAll (office.voteFees rest)).held_nodup
      have hnodup := (List.nodup_append.mp (List.append_assoc .. ▸ hheld)).2.2
      exact hnodup counter hcounter counter (List.mem_append_left _ (heq ▸ List.mem_cons_self)) rfl

/-! ## In one call and in many -/

theorem Ended.of_fresh {before s wallet : State} {count : Nat} {rs : List (Option Reservation)}
    {ids : List Text} {result : Except Failure (List Text)}
    (h : Ended before s count rs (.ok ids) result wallet) (hfresh : s.Fresh count ids) :
    result = .ok ids ∧ wallet = s.submitted ids rs := by
  cases h with
  | accepted hanswer _ =>
      cases hanswer
      exact ⟨rfl, rfl⟩
  | refused _ hnot => exact absurd hfresh (hnot ids rfl)
  | broken _ hanswer => cases hanswer

/-- The identifiers of the votes of a session are fresh if none of them is pending. -/
theorem fresh_names (hinjective : Function.Injective name) (h : d.wallet.Disciplined outstanding)
    (hnew : ∀ fragment ∈ votesSigned office validUntil cast d.wallet,
      name fragment ∉ d.wallet.pendingIds) :
    d.wallet.Fresh cast.length ((votesSigned office validUntil cast d.wallet).map name) where
  length_eq := by simp [votesSigned]
  nodup := (nodup_votesSigned h).map hinjective
  not_pending := by
    intro id hid
    obtain ⟨fragment, hfragment, rfl⟩ := List.mem_map.mp hid
    exact hnew fragment hfragment

/-- Votes whose identifiers are fresh become pending together. -/
theorem effect_voteBatch_accepted (h : d.wallet.Disciplined outstanding)
    (hcast : ballots items = .ok cast) (hne : cast ≠ [])
    (hresolve : resolved office window d = .ok validUntil)
    (hw : ∀ tx ∈ office.votesOf validUntil cast d.wallet, tx.isWritable = true) {ids : List Text}
    (hanswer : ((office.client.submitAll
      (votesSigned office validUntil cast d.wallet)).effect d.world).1 = .ok ids)
    (hfresh : d.wallet.Fresh cast.length ids) :
    (voteBatch office items window).effect d =
      (.ok ids,
        ⟨(d.wallet.reservedAll (office.voteFees cast)).submitted ids
            ((d.wallet.reservations (office.voteFees cast)).map some),
          ((office.client.submitAll
            (votesSigned office validUntil cast d.wallet)).effect d.world).2⟩) := by
  have hfresh : (d.wallet.reservedAll (office.voteFees cast)).Fresh cast.length ids :=
    fresh_reservedAll.mpr hfresh
  obtain ⟨hended, hworld⟩ := sendMany_ended office.client
    { d with wallet := d.wallet.reservedAll (office.voteFees cast) }
    (votesSigned office validUntil cast d.wallet) (Or.inr (by simp [votesSigned]))
    (effect_releaseEach_reservations h _)
  have hcount : (votesSigned office validUntil cast d.wallet).length = cast.length := by
    simp [votesSigned]
  rw [hanswer, hcount] at hended
  obtain ⟨hresult, hwallet⟩ := hended.of_fresh hfresh
  rw [effect_voteBatch h hcast hne hresolve hw]
  exact Prod.ext hresult (congrArg₂ Desk.mk hwallet hworld)

/-- A vote whose identifier is not pending becomes pending. -/
theorem effect_vote_accepted (h : d.wallet.Disciplined outstanding) {proposal : Proposal}
    {choice : Choice} {ballot : Ballot} (hcast : Ballot.cast proposal choice = .ok ballot)
    (hresolve : resolved office window d = .ok validUntil)
    (hw : (office.voteOf ballot d.wallet.counter validUntil).isWritable = true) {fragment : Bytes}
    (hfragment : fragment =
      ((office.voteOf ballot d.wallet.counter validUntil).signedBy office.identity).bytes)
    {id : Text} (hanswer : ((office.client.submit fragment).effect d.world).1 = .ok id)
    (hid : id ∉ d.wallet.pendingIds) :
    (vote office proposal choice window).effect d =
      (.ok id,
        ⟨(d.wallet.reserved office.settings.fees.vote).tracked id
            (some { counter := some d.wallet.counter, value := office.settings.fees.vote }),
          ((office.client.submit fragment).effect d.world).2⟩) := by
  have hsubmit : (office.client.submit fragment).effect d.world =
      (.ok id, ((office.client.submit fragment).effect d.world).2) := Prod.ext hanswer rfl
  rw [effect_vote h hcast hresolve hw, ← hfragment]
  exact effect_send _ hsubmit hid

/-- What is pending has no part in what votes are built. -/
theorem votesOf_tracked (cast : List Ballot) (id : Text) (r : Option Reservation) (s : State) :
    office.votesOf validUntil cast (s.tracked id r) = office.votesOf validUntil cast s := by
  induction cast generalizing s with
  | nil => rfl
  | cons ballot rest ih =>
      have hrest := ih (s.reserved office.settings.fees.vote)
      exact congrArg (List.cons _) hrest

theorem votesSigned_tracked (cast : List Ballot) (id : Text) (r : Option Reservation)
    (s : State) :
    votesSigned office validUntil cast (s.tracked id r) =
      votesSigned office validUntil cast s := by
  unfold votesSigned
  rw [votesOf_tracked]

/-- Votes that are cast one by one submit the same fragments, each in a call of its own. -/
theorem effect_voteEach_named (hnames : Names office.client name)
    (hclock : ∀ w w', office.surroundings.now w = office.surroundings.now w')
    (h : d.wallet.Disciplined outstanding) (hcast : ballots items = .ok cast)
    (hresolve : resolved office window d = .ok validUntil)
    (hw : ∀ tx ∈ office.votesOf validUntil cast d.wallet, tx.isWritable = true)
    (hnew : ∀ fragment ∈ votesSigned office validUntil cast d.wallet,
      name fragment ∉ d.wallet.pendingIds) :
    (voteEach office window items).effect d =
      (.ok ((votesSigned office validUntil cast d.wallet).map name),
        ⟨(d.wallet.reservedAll (office.voteFees cast)).submitted
            ((votesSigned office validUntil cast d.wallet).map name)
            ((d.wallet.reservations (office.voteFees cast)).map some),
          handedEach office.client (votesSigned office validUntil cast d.wallet) d.world⟩) := by
  induction items generalizing d cast outstanding with
  | nil =>
      obtain rfl := Except.ok.inj hcast
      show _ = (_, Desk.mk (d.wallet.submitted [] []) d.world)
      simp [voteEach, votesSigned, Office.votesOf, State.submitted, State.entries]
  | cons item items ih =>
      obtain ⟨proposal, choice⟩ := item
      obtain ⟨ballot, rest, rfl, hballot, hrest⟩ := ballots_cons hcast
      let fragment := ((office.voteOf ballot d.wallet.counter validUntil).signedBy
        office.identity).bytes
      let reservation : Reservation :=
        { counter := some d.wallet.counter, value := office.settings.fees.vote }
      let s := d.wallet.reserved office.settings.fees.vote
      let next : Desk ω := ⟨s.tracked (name fragment) (some reservation),
        ((office.client.submit fragment).effect d.world).2⟩
      have hvote : (vote office proposal choice window).effect d = (.ok (name fragment), next) :=
        effect_vote_accepted h hballot hresolve (hw _ List.mem_cons_self) rfl
          (hnames.submit fragment d.world) (hnew _ List.mem_cons_self)
      -- the rest is built as if the first vote were only reserved
      have hfragments : votesSigned office validUntil rest next.wallet =
          votesSigned office validUntil rest s := votesSigned_tracked rest _ _ s
      have hnextDisciplined : next.wallet.Disciplined outstanding :=
        State.tracked_disciplined (h.reserve_disciplined _) (hnew _ List.mem_cons_self)
      have hnextResolved : resolved office window next = .ok validUntil := by
        rw [← hresolve, resolved, resolved, hclock]
      have hnextWritable : ∀ tx ∈ office.votesOf validUntil rest next.wallet,
          tx.isWritable = true := by
        intro tx htx
        rw [votesOf_tracked] at htx
        exact hw tx (List.mem_cons_of_mem _ htx)
      have hids := fresh_names hnames.injective h hnew
      have hnextNew : ∀ f ∈ votesSigned office validUntil rest next.wallet,
          name f ∉ next.wallet.pendingIds := by
        intro f hf
        rw [hfragments] at hf
        exact State.tracked_not_pending (s := s) (some reservation) hids.nodup hids.not_pending
          (name f) (List.mem_map_of_mem hf)
      have hothers := ih hnextDisciplined hrest hnextResolved hnextWritable hnextNew
      rw [hfragments] at hothers
      unfold voteEach
      rw [effect_bind_ok hvote, effect_bind_ok hothers]
      have hwallet := State.submitted_first office.settings.fees.vote (office.voteFees rest)
        (name fragment) ((votesSigned office validUntil rest s).map name) d.wallet
      exact Prod.ext rfl (congrArg₂ Desk.mk hwallet rfl)

/-- **A batch is the votes one by one.** In every session, at a clock that stands still and a node
that names fragments by their bytes with identifiers that are not pending: votes that are offered
and can all be signed go to the node in exactly one call; cast one by one they are the same
fragments in the same order, each in a call of its own. Both return the same identifiers and leave
the same wallet. -/
theorem batch_one_by_one {c : Controller (Watched ω)} (hc : c.Reached)
    {office : Office (Watched ω)} {node : Ledger.Client ω}
    (hnode : office.client = Watched.client node) (hnames : Names node name)
    (hclock : ∀ w w', office.surroundings.now w = office.surroundings.now w')
    (hne : items ≠ []) (hoffers : ∀ item ∈ items, item.1.Offers item.2)
    (hresolve : resolved office window c.desk = .ok validUntil)
    (hsign : Signable office window c.desk items)
    (hnew : ∀ cast, ballots items = .ok cast →
      ∀ fragment ∈ votesSigned office validUntil cast c.wallet,
        name fragment ∉ c.wallet.pendingIds) :
    ∃ fragments : List Bytes, fragments.length = items.length ∧
      ((voteBatch office items window).effect c.desk).1 = .ok (fragments.map name) ∧
      ((voteEach office window items).effect c.desk).1 = .ok (fragments.map name) ∧
      ((voteBatch office items window).effect c.desk).2.wallet =
        ((voteEach office window items).effect c.desk).2.wallet ∧
      ((voteBatch office items window).effect c.desk).2.world.calls =
        fragments :: c.world.calls ∧
      ((voteEach office window items).effect c.desk).2.world.calls =
        (fragments.map ([·])).reverse ++ c.world.calls := by
  rcases ballots_cases items with ⟨⟨cast, hcast, hlen⟩, _⟩ | ⟨_, hnot⟩
  · have hcastne := ballots_ne_nil hcast hne
    have hw := hsign cast validUntil hcast hresolve
    have hwatched : Names office.client name := hnode ▸ hnames.watched
    have hbatch := effect_voteBatch_accepted (d := c.desk) hc.disciplined hcast hcastne hresolve hw
      (hwatched.submitAll _ _) (fresh_names hwatched.injective hc.disciplined (hnew cast hcast))
    have heach := effect_voteEach_named (d := c.desk) hwatched hclock hc.disciplined hcast hresolve
      hw (hnew cast hcast)
    refine ⟨votesSigned office validUntil cast c.wallet, by simp [votesSigned, hlen], ?_⟩
    rw [hbatch, heach]
    refine ⟨rfl, rfl, rfl, ?_, ?_⟩
    · rw [hnode]
      rfl
    · rw [hnode]
      exact calls_handedEach node _ _
  · exact absurd hoffers hnot

/-- A node that names fragments by the hexadecimal text of their bytes. -/
def echoing : Ledger.Client Unit where
  text := "echoing"
  settings := pure {}
  accountState _ := pure { value := 100, counter := 0 }
  submit fragment := pure (Hex.encode fragment)
  submitAll fragments := pure (fragments.map fun fragment => (Hex.encode fragment : Text))
  fragmentLogs := pure []
  proposals := pure []
  voteStatuses _ := pure []

theorem names_echoing : Names echoing fun fragment => (Hex.encode fragment : Text) where
  injective := by
    intro fragment fragment' h
    have hchars : Hex.chars fragment = Hex.chars fragment' :=
      String.ofList_injective (ofString_injective h)
    have hbytes := congrArg Hex.bytes? hchars
    rw [Hex.bytes?_chars, Hex.bytes?_chars] at hbytes
    exact Option.some.inj hbytes
  submit _ _ := rfl
  submitAll _ _ := rfl

/-- A session with that node, at a clock that stands still. -/
def echoed : Controller (Watched Unit) where
  options := {}
  client := Watched.client echoing
  surroundings := { now := fun _ => Binary64.ofInt 1700001000, sleep := fun _ world => world }
  session := some ⟨.ofMaterial default, {
    block0Time := Binary64.ofInt 1700000000, slotDuration := 2, fees := { constant := 2 } }⟩
  world := ⟨(), []⟩

/-- The office of that session. -/
def echoedOffice : Office (Watched Unit) :=
  echoed.officeOf (echoed.session.get rfl)

theorem echoed_clock (w w' : Watched Unit) :
    echoedOffice.surroundings.now w = echoedOffice.surroundings.now w' := by
  simp only [echoedOffice, Controller.officeOf, echoed]

/-- A proposal to vote on. -/
def question : Proposal where
  id := "p"
  votePlan := "vp"
  index := 1
  options := [(Text.ofChars ['y'], 1), (Text.ofChars ['n'], 0)]

/-- Two votes on it. -/
def answers : List (Proposal × Choice) :=
  [(question, .label (Text.ofChars ['y'])), (question, .number 0)]

theorem answers_ne_nil : answers ≠ [] :=
  List.cons_ne_nil _ _

theorem answers_offered : ∀ item ∈ answers, item.1.Offers item.2 := by
  intro item hitem
  rcases List.mem_cons.mp hitem with rfl | hitem
  · exact List.mem_cons_self
  · obtain rfl := List.mem_singleton.mp hitem
    exact List.mem_cons_of_mem _ List.mem_cons_self

theorem answers_cast : ballots answers = .ok [⟨question, 1⟩, ⟨question, 0⟩] :=
  rfl

/-- Two votes with an expiry in the next epoch. -/
theorem batch_one_by_one_echoing :
    echoed.Reached ∧ (∀ item ∈ answers, item.1.Offers item.2) ∧
      ∃ fragments : List Bytes, fragments.length = 2 ∧
        ((voteBatch echoedOffice answers none).effect echoed.desk).2.world.calls = [fragments] ∧
        ((voteEach echoedOffice none answers).effect echoed.desk).2.world.calls =
          (fragments.map ([·])).reverse := by
  have hreached : echoed.Reached := .fresh ⟨rfl, rfl⟩
  have hresolve : resolved echoedOffice none echoed.desk = .ok ⟨9, 20⟩ := by decide +kernel
  have hsign : Signable echoedOffice none echoed.desk answers := by
    intro cast validUntil hcast hdate
    obtain rfl := Except.ok.inj (answers_cast.symm.trans hcast)
    obtain rfl := Except.ok.inj (hresolve.symm.trans hdate)
    decide +kernel
  obtain ⟨fragments, hlength, _, _, _, hbatch, heach⟩ := batch_one_by_one hreached rfl names_echoing
    echoed_clock answers_ne_nil answers_offered hresolve hsign
    (fun _ _ _ _ => List.not_mem_nil)
  exact ⟨hreached, answers_offered, fragments, hlength, hbatch,
    heach.trans (List.append_nil _)⟩

/-- The longest number of epochs that can be written. -/
def lastShift : Int :=
  Nat.pow 10 Numeral.maxDigits - 1

/-- Two votes with an expiry so late that its epoch cannot be written: all that is asked for is
there, but the batch fails, and not one call is made. -/
theorem batch_unsignable_echoing :
    echoed.Reached ∧ echoedOffice.client = Watched.client echoing ∧
      Names echoing (fun fragment => (Hex.encode fragment : Text)) ∧
      (∀ w w', echoedOffice.surroundings.now w = echoedOffice.surroundings.now w') ∧
      answers ≠ [] ∧ (∀ item ∈ answers, item.1.Offers item.2) ∧
      (∃ validUntil,
        resolved echoedOffice (some (.epochShift lastShift)) echoed.desk = .ok validUntil) ∧
      echoed.wallet.pendingIds = [] ∧
      ((voteBatch echoedOffice answers (some (.epochShift lastShift))).effect echoed.desk).1 =
        .error .badValue ∧
      ((voteBatch echoedOffice answers
        (some (.epochShift lastShift))).effect echoed.desk).2.world.calls = [] := by
  have hreached : echoed.Reached := .fresh ⟨rfl, rfl⟩
  have hresolve : resolved echoedOffice (some (.epochShift lastShift)) echoed.desk =
      .ok ⟨8 + lastShift, 20⟩ := by decide +kernel
  have hsign : ¬ Signable echoedOffice (some (.epochShift lastShift)) echoed.desk answers := by
    intro hsign
    have hw := hsign _ _ answers_cast hresolve _ List.mem_cons_self
    revert hw
    decide +kernel
  obtain ⟨n, _, heffect⟩ := voteBatch_unsignable (d := echoed.desk) hreached.disciplined hsign
  rw [heffect]
  exact ⟨hreached, rfl, names_echoing, echoed_clock, answers_ne_nil, answers_offered,
    ⟨_, hresolve⟩, rfl, rfl, rfl⟩

end Submission

end BallotWallet.Wallet
