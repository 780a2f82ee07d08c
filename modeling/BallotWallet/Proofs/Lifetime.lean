import BallotWallet.Proofs.AllOrNothing
import BallotWallet.Proofs.Recovering
import BallotWallet.Proofs.Starting
import BallotWallet.Proofs.Waiting

/-!
# The lifetime of a controller

From when it is made, a controller recovers and generates wallets and operates on them, in any
order and whatever the node answers. The wallet keeps the counter discipline all the time, after
failures as well, so the bookkeeping is never asked for something that it has to refuse.
-/

namespace BallotWallet

/-! ## Failures other than misuse -/

namespace Failure

/-- Whether the local bookkeeping was asked for something impossible. -/
def isMisuse : Failure → Bool
  | invariant _ => true
  | _ => false

variable {e : Failure}

theorem not_misuse_of_isBackend (h : e.isBackend = true) : e.isMisuse = false := by
  cases e <;> simp_all [isBackend, isMisuse]

theorem not_misuse_of_isOfKeys (h : e.isOfKeys = true) : e.isMisuse = false := by
  cases e <;> simp_all [isOfKeys, isRecovery, isBadValue, isMisuse]

theorem not_misuse_of_isOfReckoning (h : e.isOfReckoning = true) : e.isMisuse = false := by
  cases e <;> simp_all [isOfReckoning, isMisuse]

end Failure

/-- A result that is no misuse of the bookkeeping. -/
abbrev IsProper {α : Type} (a : Except Failure α) : Prop :=
  FailsWithin (·.isMisuse = false) a

theorem isProper_map {α β : Type} {f : α → β} {a : Except Failure α} :
    IsProper (a.map f) ↔ IsProper a := by
  cases a with
  | error e =>
      constructor
      · rintro h _ ⟨⟩
        exact h e rfl
      · rintro h _ ⟨⟩
        exact h e rfl
  | ok x => exact iff_of_true (.ok _) (.ok _)

namespace Wallet

open BallotWallet.Action

variable {ω α β : Type}

/-- What comes after an action is proper if the action is and its continuation is. -/
theorem proper_bind {σ : Type} {a : Action σ α} {f : α → Action σ β} {s : σ}
    (ha : IsProper (a.effect s).1)
    (hf : ∀ x t, a.effect s = (.ok x, t) → IsProper ((f x).effect t).1) :
    IsProper ((a >>= f).effect s).1 := by
  rw [effect_bind]
  rcases h : a.effect s with ⟨⟨e⟩ | ⟨x⟩, t⟩
  · rw [h] at ha
    exact .error (ha e rfl)
  · exact hf x t h

theorem proper_map {σ : Type} {a : Action σ α} {f : α → β} {s : σ}
    (ha : IsProper (a.effect s).1) : IsProper ((f <$> a).effect s).1 := by
  rw [effect_map]
  exact isProper_map.mpr ha

/-- A ledger client that fails in any way but as the bookkeeping of the wallet does. What it
answers is up to it, and so is when it fails. -/
structure IsForeign (client : Ledger.Client ω) : Prop where
  settings : ∀ w, IsProper (client.settings.effect w).1
  accountState : ∀ id w, IsProper ((client.accountState id).effect w).1
  submit : ∀ fragment w, IsProper ((client.submit fragment).effect w).1
  submitAll : ∀ fragments w, IsProper ((client.submitAll fragments).effect w).1
  fragmentLogs : ∀ w, IsProper (client.fragmentLogs.effect w).1
  proposals : ∀ w, IsProper (client.proposals.effect w).1

/-! ## Submissions -/

namespace Submission

variable {office : Office ω} {d : Desk ω} {proposal : Proposal} {choice : Choice}
  {window : Option ValidUntil}

/-- A submission fails as the node does, or as the request did. -/
theorem Ended.proper {before s wallet : State} {count : Nat} {rs : List (Option Reservation)}
    {answer result : Except Failure (List Text)}
    (h : Ended before s count rs answer result wallet) (ha : IsProper answer) :
    IsProper result := by
  cases h with
  | accepted _ _ => exact .ok _
  | refused he _ => exact .error (Failure.not_misuse_of_isBackend he)
  | broken _ hanswer => exact .error (ha _ hanswer)

theorem send_proper {client : Ledger.Client ω} (hclient : IsForeign client) {d : Desk ω}
    (fragment : Bytes) {r : Option Reservation} {before : State}
    (hback : (releaseEach (r.toList.map some).reverse).effect d.wallet = (.ok (), before)) :
    IsProper ((send client fragment r).effect d).1 := by
  obtain ⟨hended, _⟩ := send_ended client d fragment hback
  exact isProper_map.mp (hended.proper (isProper_map.mpr (hclient.submit _ _)))

theorem sendMany_proper {client : Ledger.Client ω} (hclient : IsForeign client) {d : Desk ω}
    {fragments : List Bytes} {rs : List (Option Reservation)} {before : State}
    (hlen : rs = [] ∨ rs.length = fragments.length)
    (hback : (releaseEach rs.reverse).effect d.wallet = (.ok (), before)) :
    IsProper ((sendMany client fragments rs).effect d).1 := by
  obtain ⟨hended, _⟩ := sendMany_ended client d fragments hlen hback
  exact hended.proper (hclient.submitAll _ _)

theorem resolved_proper (office : Office ω) (window : Option ValidUntil) (d : Desk ω) :
    IsProper (resolved office window d) :=
  (ValidUntil.failsWithin_resolve _ _ _).mono fun _ => Failure.not_misuse_of_isOfReckoning

theorem transfer_proper (h : d.wallet.Disciplined []) (hclient : IsForeign office.client)
    (destination : Text) (value : Int) (window : Option ValidUntil) :
    IsProper ((transfer office destination value window).effect d).1 := by
  cases hresolve : resolved office window d with
  | error e =>
      have he := resolved_proper office window d e hresolve
      have hbuild := effect_buildTransfer_unresolved destination value d.wallet.counter
        (d := { d with wallet := d.wallet.reserved (transferCost office value) }) hresolve
      cases hbad : e.isBadValue with
      | true =>
          rw [effect_transfer_refused h hbad hbuild]
          exact .error he
      | false =>
          rw [effect_transfer_broken h hbad hbuild]
          exact .error he
  | ok validUntil =>
      by_cases hvalue : 0 < value
      · cases hw : (office.transferOf destination value d.wallet.counter validUntil).isWritable with
        | true =>
            rw [effect_transfer h hvalue hresolve hw]
            exact send_proper hclient _
              (effect_releaseEach_reservations h [transferCost office value])
        | false =>
            rw [effect_transfer_unwritable h hvalue hresolve hw]
            exact .error rfl
      · have hbuild := effect_buildTransfer_nonpos destination d.wallet.counter
          (d := { d with wallet := d.wallet.reserved (transferCost office value) })
          (Int.not_lt.mp hvalue) hresolve
        rw [effect_transfer_refused h rfl hbuild]
        exact .error rfl

theorem vote_proper (h : d.wallet.Disciplined []) (hclient : IsForeign office.client)
    (proposal : Proposal) (choice : Choice) (window : Option ValidUntil) :
    IsProper ((vote office proposal choice window).effect d).1 := by
  rcases Ballot.cast_cases proposal choice with
    ⟨⟨ballot, hcast⟩, _⟩ | ⟨⟨t, labels, hcast⟩, _⟩
  · cases hresolve : resolved office window d with
    | error e =>
        rw [effect_vote_unresolved hcast hresolve]
        exact .error (resolved_proper office window d e hresolve)
    | ok validUntil =>
        cases hw : (office.voteOf ballot d.wallet.counter validUntil).isWritable with
        | true =>
            rw [effect_vote h hcast hresolve hw]
            exact send_proper hclient _
              (effect_releaseEach_reservations h [office.settings.fees.vote])
        | false =>
            rw [effect_vote_unwritable h hcast hresolve hw]
            exact .error rfl
  · rw [effect_vote_uncast hcast]
    exact .error rfl

theorem voteBatch_proper (h : d.wallet.Disciplined []) (hclient : IsForeign office.client)
    (items : List (Proposal × Choice)) (window : Option ValidUntil) :
    IsProper ((voteBatch office items window).effect d).1 := by
  rcases ballots_cases items with ⟨⟨cast, hcast, _⟩, _⟩ | ⟨⟨t, labels, hcast⟩, _⟩
  · by_cases hne : cast = []
    · subst hne
      rw [effect_voteBatch_nil hcast]
      exact .ok _
    · cases hresolve : resolved office window d with
      | error e =>
          rw [effect_voteBatch_unresolved hcast hne hresolve]
          exact .error (resolved_proper office window d e hresolve)
      | ok validUntil =>
          by_cases hw : ∃ tx ∈ office.votesOf validUntil cast d.wallet, tx.isWritable = false
          · obtain ⟨n, _, heffect⟩ := effect_voteBatch_unwritable h hcast hresolve hw
            rw [heffect]
            exact .error rfl
          · have hw : ∀ tx ∈ office.votesOf validUntil cast d.wallet,
                tx.isWritable = true := by
              intro tx htx
              by_contra hbad
              exact hw ⟨tx, htx, by simpa using hbad⟩
            rw [effect_voteBatch h hcast hne hresolve hw]
            refine sendMany_proper hclient (Or.inr ?_) (effect_releaseEach_reservations h _)
            simp [votesSigned]
  · rw [effect_voteBatch_uncast hcast]
    exact .error rfl

end Submission

/-! ## Operations -/

namespace Controller

variable {c : Controller ω}

/-- What an operation does in a session is proper if it is for every session. -/
theorem proper_in_session {operation : String} {f : Session → Action (Controller ω) α}
    (hf : ∀ session, IsProper ((f session).effect c).1) :
    IsProper ((requireSession operation >>= f).effect c).1 := by
  obtain h | ⟨session, h⟩ := Option.eq_none_or_eq_some c.session
  · rw [effect_bind_error (effect_requireSession_none h operation)]
    exact .error rfl
  · rw [effect_bind_ok (effect_requireSession h operation)]
    exact hf session

theorem proper_after_asking {a : Action (Controller ω) α} (ha : Asks a)
    (hproper : IsProper (a.effect c).1) {f : α → Action (Controller ω) β}
    (hf : ∀ x world, IsProper ((f x).effect { c with world := world }).1) :
    IsProper ((a >>= f).effect c).1 := by
  refine proper_bind hproper fun x t ht => ?_
  obtain ⟨world, hworld⟩ := ha c
  rw [ht] at hworld
  obtain rfl : t = _ := hworld
  exact hf x world

theorem proposals_proper (hclient : IsForeign c.client) : IsProper (proposals.effect c).1 :=
  proper_in_session fun _ => hclient.proposals c.world

theorem accountState_proper (hclient : IsForeign c.client) :
    IsProper (accountState.effect c).1 :=
  proper_in_session fun session => hclient.accountState session.identity.accountId c.world

theorem findProposal_proper (hclient : IsForeign c.client) (id : Text) :
    IsProper ((findProposal id).effect c).1 := by
  refine proper_in_session fun _ => ?_
  refine proper_after_asking asks_proposals (proposals_proper hclient) fun ps world => ?_
  split
  · exact .ok _
  · exact .error rfl

theorem resolveVotes_proper (hclient : IsForeign c.client) (known : Option (List Proposal))
    (votes : List (Named × Choice)) : IsProper ((resolveVotes known votes).effect c).1 := by
  induction votes generalizing known c with
  | nil => exact .ok _
  | cons vote rest ih =>
      obtain ⟨proposal, choice⟩ := vote
      have hrest : ∀ (known : Option (List Proposal)) (p : Proposal) (world : ω),
          IsProper ((resolveVotes known rest >>= fun items =>
            (pure ((p, choice) :: items) : Action (Controller ω) _)).effect
              { c with world := world }).1 := by
        intro known p world
        exact proper_bind (ih (c := { c with world := world }) hclient known) fun _ _ _ => .ok _
      cases proposal with
      | proposal p => exact hrest known p c.world
      | id t =>
          unfold resolveVotes
          cases known with
          | none =>
              refine proper_after_asking asks_proposals (proposals_proper hclient) ?_
              intro ps world
              dsimp only
              split
              · exact .error rfl
              · exact hrest _ _ world
          | some ps =>
              refine proper_after_asking (asks_pure ps) (.ok _) ?_
              intro ps world
              dsimp only
              split
              · exact .error rfl
              · exact hrest _ _ world

theorem cast_proper (hclient : IsForeign c.client) (h : c.wallet.Disciplined [])
    (session : Session) (proposal : Proposal) (choice : Choice) (window : Option ValidUntil) :
    IsProper ((cast session proposal choice window).effect c).1 :=
  Submission.vote_proper (d := c.desk) h hclient proposal choice (window.or c.options.validUntil)

/-- In a wallet that keeps the counter discipline, no operation misuses the bookkeeping. -/
theorem perform_proper (hclient : IsForeign c.client) (h : c.wallet.Disciplined [])
    (op : Operation ω) : IsProper (op.perform.effect c).1 := by
  cases op with
  | transfer destination value window =>
      refine proper_map (proper_in_session fun session => ?_)
      exact Submission.transfer_proper (d := c.desk) h hclient destination value
        (window.or c.options.validUntil)
  | vote proposal choice window =>
      refine proper_map (proper_in_session fun session => ?_)
      cases proposal with
      | id t =>
          refine proper_after_asking (asks_findProposal t) (findProposal_proper hclient t) ?_
          intro p world
          exact cast_proper (c := { c with world := world }) hclient h session p choice window
      | proposal p => exact cast_proper hclient h session p choice window
  | voteFor votePlan index choice window =>
      refine proper_map (proper_in_session fun session => ?_)
      refine proper_after_asking asks_proposals (proposals_proper hclient) fun ps world => ?_
      split
      · exact cast_proper (c := { c with world := world }) hclient h session _ choice window
      · exact .error rfl
  | votesBatch votes window =>
      refine proper_in_session fun session => ?_
      refine proper_after_asking (asks_resolveVotes none votes)
        (resolveVotes_proper hclient none votes) fun items world => ?_
      exact Submission.voteBatch_proper (d := ⟨c.wallet, world⟩) h hclient items
        (window.or c.options.validUntil)
  | sendFragment fragment =>
      refine proper_map (proper_in_session fun _ => ?_)
      exact Submission.send_proper (d := c.desk) (r := none) hclient fragment rfl
  | sendFragments fragments =>
      refine proper_in_session fun _ => ?_
      exact Submission.sendMany_proper (d := c.desk) hclient (Or.inl rfl) rfl
  | refreshState =>
      refine proper_map (proper_in_session fun _ => ?_)
      refine proper_after_asking asks_accountState (accountState_proper hclient) ?_
      intro snapshot world
      refine proper_bind ?_ fun _ _ _ => .ok _
      rw [effect_atDesk, Desk.effect_book, Book.effect_refresh]
      exact .ok _
  | confirmTransaction id =>
      refine proper_map (proper_in_session fun _ => ?_)
      rw [effect_atDesk, Desk.effect_book, Book.effect_confirm]
      exact .ok _
  | removePendingTransaction id =>
      refine proper_map (proper_in_session fun _ => ?_)
      refine proper_bind ?_ fun _ _ _ => .ok _
      rw [effect_atDesk, Desk.effect_book, Book.effect_rollback]
      show IsProper (c.wallet.rollback id).1
      obtain ⟨given, hgiven⟩ : ∃ given, (c.wallet.rollback id).1 = .ok given := State.rollback_ok h
      rw [hgiven]
      exact .ok _
  | confirmAllTransactions =>
      refine proper_map (proper_in_session fun _ => ?_)
      rw [effect_atDesk, Desk.effect_book, Book.effect_confirmAll]
      exact .ok _
  | waitForPending interval budget cancelled =>
      refine proper_map (proper_in_session fun _ => ?_)
      rw [effect_bind_ok (effect_get c), effect_atDesk]
      intro e he
      rcases Settlement.wait_failure c.surroundings _ (d := c.desk) h he with
        ⟨ids, rfl⟩ | ⟨w, hlog, _⟩
      · rfl
      · exact hclient.fragmentLogs w e hlog
  | switchClient client =>
      refine proper_map (proper_bind (.ok _) fun before t ht => ?_)
      dsimp only
      split
      · exact .ok _
      · exact .ok _

end Controller

/-! ## Commands -/

/-- A command to a controller that begins a session or acts in it. -/
inductive Command (ω : Type) where
  | recover (source : Key.Source)
  | recoverFromPhrase (words password : Text) (account index : Option Int)
  | generate (count : Int) (entropy : Bytes)
  | operation (op : Operation ω)

namespace Command

def perform : Command ω → Action (Controller ω) Unit
  | recover source => (fun _ => ()) <$> Controller.recover source
  | recoverFromPhrase words password account index =>
    (fun _ => ()) <$> Controller.recoverFromPhrase words password account index
  | generate count entropy => (fun _ => ()) <$> Controller.generate count entropy
  | operation op => (fun _ => ()) <$> op.perform

/-- Another ledger client must not misuse the wallet either. -/
def Allowed : Command ω → Prop
  | operation (.switchClient client) => IsForeign client
  | _ => True

end Command

namespace Controller

variable {c : Controller ω}

/-- What holds of a controller all the time. -/
structure Steady (c : Controller ω) : Prop where
  foreign : IsForeign c.client
  disciplined : c.wallet.Disciplined []

theorem recover_steady (h : c.Steady) (source : Key.Source) :
    IsProper ((recover source).effect c).1 ∧ ((recover source).effect c).2.Steady := by
  cases hsource : source.identity with
  | error e =>
      have he := source.failsWithin_identity e hsource
      rw [effect_recover_underived hsource]
      exact ⟨.error (Failure.not_misuse_of_isOfKeys he), h⟩
  | ok identity =>
      have hsettings := h.foreign.settings c.world
      rcases hanswer : c.client.settings.effect c.world with ⟨⟨e⟩ | ⟨settings⟩, world⟩
      · rw [hanswer] at hsettings
        rw [effect_recover_unanswered hsource hanswer]
        exact ⟨.error (hsettings e rfl), h.foreign, h.disciplined⟩
      · rw [effect_recover hsource hanswer]
        exact ⟨.ok _, h.foreign, State.fresh_disciplined⟩

theorem generate_steady (h : c.Steady) (count : Int) (entropy : Bytes) :
    IsProper ((generate count entropy).effect c).1 ∧
      ((generate count entropy).effect c).2.Steady := by
  cases hdrawn : Key.Mnemonic.generate count entropy with
  | error e =>
      have he := Key.Mnemonic.failsWithin_generate count entropy e hdrawn
      rw [effect_generate_undrawn hdrawn]
      exact ⟨.error (Failure.not_misuse_of_isOfKeys he), h⟩
  | ok phrase =>
      obtain ⟨hproper, hsteady⟩ := recover_steady h (.phrase phrase "" 0 0)
      rw [effect_generate hdrawn]
      rcases hrecover : (recover (.phrase phrase "" 0 0)).effect c with ⟨⟨e⟩ | ⟨identity⟩, c'⟩
      · rw [hrecover] at hproper hsteady
        exact ⟨.error (hproper e rfl), hsteady⟩
      · rw [hrecover] at hsteady
        exact ⟨.ok _, hsteady.foreign, hsteady.disciplined⟩

/-- Only switching brings another ledger client. -/
theorem Transition.foreign {op : Operation ω} {result : Except Failure (List Text)}
    {c' : Controller ω} (h : Transition c op result c') (hclient : IsForeign c.client)
    (hop : (Command.operation op).Allowed) : IsForeign c'.client := by
  cases h with
  | switched hswitch =>
      subst hswitch
      exact hop
  | quiet _ _ => exact hclient
  | built _ _ _ => exact hclient
  | raw _ _ _ _ _ => exact hclient
  | refreshed _ _ => exact hclient
  | settled _ _ _ => exact hclient

/-- A command does not misuse the bookkeeping, and the next one will not, either. -/
theorem command_steady (h : c.Steady) (command : Command ω) (hcommand : command.Allowed) :
    IsProper (command.perform.effect c).1 ∧ (command.perform.effect c).2.Steady := by
  cases command with
  | recover source =>
      unfold Command.perform
      rw [effect_map, isProper_map]
      exact recover_steady h source
  | recoverFromPhrase words password account index =>
      unfold Command.perform
      rw [effect_map, isProper_map, effect_recoverFromPhrase]
      exact recover_steady h _
  | generate count entropy =>
      unfold Command.perform
      rw [effect_map, isProper_map]
      exact generate_steady h count entropy
  | operation op =>
      have htransition := perform_transition h.disciplined op
      unfold Command.perform
      rw [effect_map, isProper_map]
      exact ⟨perform_proper h.foreign h.disciplined op, htransition.foreign h.foreign hcommand,
        htransition.disciplined h.disciplined⟩

/-- What a controller comes to by any commands. The world moves on by itself, too. -/
inductive Lived : Controller ω → Prop
  | made {options : Options} {client : Ledger.Client ω} {surroundings : Surroundings ω}
      {world : ω} {c : Controller ω} :
      IsForeign client → Controller.new options client surroundings world = .ok c → Lived c
  | commanded {c : Controller ω} (command : Command ω) :
      Lived c → command.Allowed → Lived (command.perform.effect c).2
  | world {c : Controller ω} (world : ω) : Lived c → Lived { c with world := world }

theorem steady_of_new {options : Options} {client : Ledger.Client ω}
    {surroundings : Surroundings ω} {world : ω} (hclient : IsForeign client)
    (h : Controller.new options client surroundings world = .ok c) : c.Steady := by
  obtain ⟨kind, _, hmade⟩ := exists_of_bind_ok h
  cases hmade
  exact ⟨hclient, State.fresh_disciplined⟩

theorem Lived.steady (h : c.Lived) : c.Steady := by
  induction h with
  | made hclient hmade => exact steady_of_new hclient hmade
  | commanded command _ hcommand ih => exact (command_steady ih command hcommand).2
  | world world _ ih => exact ⟨ih.foreign, ih.disciplined⟩

/-- **The bookkeeping is never misused.** Whatever was commanded before, whatever the node answers
and however it fails, no command fails because the bookkeeping was asked for something
impossible. -/
theorem Lived.never_misused (h : c.Lived) (command : Command ω) (hcommand : command.Allowed)
    (reason : Text) : (command.perform.effect c).1 ≠ .error (.invariant reason) := by
  intro hmisuse
  have hproper := (command_steady h.steady command hcommand).1
  exact absurd (hproper _ hmisuse) (by simp [Failure.isMisuse])

/-- A key file in which every byte of the extended key is one. -/
def keyFile : Key.Source :=
  .keyFile "wallet.sk" (some (Bytes.ofString ("xprv1qyqszqgpqyqszqgpqyqszqgpqyqszqgpqyqszqgp" ++
    "qyqszqgpqyqszqgpqyqszqgpqyqszqgpqyqszqgpqyqszqgpqyqszqgpqyqszqgzjpwf8")))

theorem keyFile_isUsable : Key.IsUsable (List.replicate 32 1) := by
  decide +kernel

/-- What the key file holds. -/
def keyFileMaterial : Key.Material :=
  ⟨List.replicate 32 1, List.replicate 32 1, keyFile_isUsable⟩

theorem keyFile_identity : keyFile.identity = .ok (.ofMaterial keyFileMaterial) := by
  have hmaterial : keyFile.material = .ok keyFileMaterial := by decide +kernel
  unfold Key.Source.identity
  rw [hmaterial]
  rfl

/-- A controller whose node gives the same identifier to all fragments. -/
def unmoved : Controller Unit :=
  { Submission.repeated with session := none }

/-- A transfer that is asked for again and again. -/
def transferAgain : Command Unit :=
  .operation (.transfer "b" 10 (some (.date ⟨1, 2⟩)))

/-- With a transfer pending, a second one is refused for the identifier that the node repeats. -/
theorem Lived.never_misused_repeating :
    ∃ c : Controller Unit, c.Lived ∧ c.wallet.pendingIds = [Text.ofChars ['a']] ∧
      (transferAgain.perform.effect c).1 = .error (Submission.refusal
        ("fragments already pending: " ++ Text.quotedList [Text.ofChars ['a']])) ∧
      ∀ reason, (transferAgain.perform.effect c).1 ≠ .error (.invariant reason) := by
  have hforeign : IsForeign Submission.repeating :=
    ⟨fun _ => .ok _, fun _ _ => .ok _, fun _ _ => .ok _, fun _ _ => .ok _, fun _ => .ok _,
      fun _ => .ok _⟩
  have hrecover : (Command.recover keyFile).perform.effect unmoved =
      (.ok (), unmoved.begun (.ofMaterial keyFileMaterial) {} ()) := by
    unfold Command.perform
    rw [effect_map, effect_recover keyFile_identity rfl]
    rfl
  have hmade : unmoved.Lived := .made hforeign
    (show Controller.new {} Submission.repeating unmoved.surroundings () = .ok unmoved from rfl)
  have hrecovered := hmade.commanded (.recover keyFile) trivial
  rw [hrecover] at hrecovered
  have hpaid := hrecovered.commanded transferAgain trivial
  exact ⟨_, hpaid, by decide +kernel, by decide +kernel,
    hpaid.never_misused transferAgain trivial⟩

end Controller

end Wallet

end BallotWallet
