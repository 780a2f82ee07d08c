import BallotWallet.Proofs.AllOrNothing
import BallotWallet.Proofs.Numeral
import BallotWallet.Proofs.Starting
import Mathlib.Data.List.Basic

/-!
# Recovering generated wallets

A generated phrase is recovered right away, along the path of the first account and the first
index whatever the options say. A phrase that a user enters is recovered along the path of the
options. So a generated wallet comes back from its phrase if these paths are the same, or if the
first account and the first index are asked for.
-/

namespace BallotWallet

/-! ## Paths -/

/-- Different accounts and indices have different paths. -/
theorem Key.walletPath_eq_iff {account index account' index' : Int} :
    walletPath account index = walletPath account' index' ↔
      account = account' ∧ index = index' := by
  constructor
  · intro h
    have hplain : ∀ n : Int, '\'' ∉ (toString n).toList := by
      intro n hmem
      rcases Numeral.isWritten_of_mem hmem with hdigit | hminus
      · exact absurd hdigit (by decide)
      · exact absurd hminus (by decide)
    have hbehind : '\'' ∉ "/0/".toList ++ (toString index).toList := by
      rw [List.mem_append, not_or]
      exact ⟨by decide, hplain index⟩
    have hseparator : "'/0/".toList = '\'' :: "/0/".toList := rfl
    have hchars := congrArg String.toList h
    unfold walletPath at hchars
    simp only [String.toList_append, List.append_assoc, List.append_cancel_left_eq, hseparator,
      List.cons_append] at hchars
    -- the apostrophe behind the common front ends the account
    obtain ⟨haccount, _, hrest⟩ :=
      (List.append_cons_inj_of_notMem (hplain account) hbehind).mp hchars
    have hindex := List.append_cancel_left hrest
    exact ⟨Numeral.toString_injective (String.toList_inj.mp haccount),
      Numeral.toString_injective (String.toList_inj.mp hindex)⟩
  · rintro ⟨rfl, rfl⟩
    rfl

/-! ## Accounts of sessions -/

namespace Wallet.Controller

open BallotWallet.Action

variable {ω α : Type} {c : Controller ω} {settings : ChainSettings} {world : ω}

/-- The account of the session that an action leaves behind. -/
def accountAfter (a : Action (Controller ω) α) (c : Controller ω) : Except Failure Text :=
  ((a >>= fun _ => accountId).effect c).1

/-- The account that a source yields. -/
def accountOf (source : Key.Source) : Except Failure Text :=
  source.identity.map fun identity => (identity.accountId : Text)

theorem effect_accountId {session : Session} (h : c.session = some session) :
    accountId.effect c = (.ok (session.identity.accountId : Text), c) := by
  unfold accountId
  rw [effect_bind_ok (effect_requireSession h _)]
  rfl

theorem accountAfter_recover (hanswer : c.client.settings.effect c.world = (.ok settings, world))
    (source : Key.Source) : accountAfter (recover source) c = accountOf source := by
  unfold accountAfter accountOf
  cases hsource : source.identity with
  | error e =>
      rw [effect_bind_error (effect_recover_underived hsource c)]
      rfl
  | ok identity =>
      rw [effect_bind_ok (effect_recover hsource hanswer), effect_accountId rfl]
      rfl

theorem accountAfter_recoverFromPhrase
    (hanswer : c.client.settings.effect c.world = (.ok settings, world)) (words password : Text)
    (account index : Option Int) :
    accountAfter (recoverFromPhrase words password account index) c =
      accountOf (.phrase words password (account.getD c.options.account)
        (index.getD c.options.index)) := by
  rw [← accountAfter_recover hanswer]
  unfold accountAfter
  rw [effect_bind, effect_bind, effect_recoverFromPhrase]

section Drawn

variable {count : Int} {entropy : Bytes} {phrase : String}

/-- A drawn phrase begins a session with its identity, if it yields one. -/
theorem effect_generate_drawn (hdrawn : Key.Mnemonic.generate count entropy = .ok phrase)
    (hanswer : c.client.settings.effect c.world = (.ok settings, world)) :
    (generate count entropy).effect c =
      match (Key.Source.phrase phrase "" 0 0).identity with
      | .ok identity =>
        (.ok (phrase : Text), { c.begun identity settings world with mnemonic := some phrase })
      | .error e => (.error e, c) := by
  rw [effect_generate hdrawn]
  cases hsource : (Key.Source.phrase phrase "" 0 0).identity with
  | error e => rw [effect_recover_underived hsource]
  | ok identity => rw [effect_recover hsource hanswer]

/-- Generating yields the phrase that was drawn if there is an account for it. -/
theorem generate_result (hdrawn : Key.Mnemonic.generate count entropy = .ok phrase)
    (hanswer : c.client.settings.effect c.world = (.ok settings, world)) :
    ((generate count entropy).effect c).1 =
      (accountOf (.phrase phrase "" 0 0)).map fun _ => (phrase : Text) := by
  unfold accountOf
  rw [effect_generate_drawn hdrawn hanswer]
  cases (Key.Source.phrase phrase "" 0 0).identity with
  | error e => rfl
  | ok identity => rfl

theorem accountAfter_generate (hdrawn : Key.Mnemonic.generate count entropy = .ok phrase)
    (hanswer : c.client.settings.effect c.world = (.ok settings, world)) :
    accountAfter (generate count entropy) c = accountOf (.phrase phrase "" 0 0) := by
  unfold accountAfter accountOf
  rw [effect_bind, effect_generate_drawn hdrawn hanswer]
  cases (Key.Source.phrase phrase "" 0 0).identity with
  | error e => rfl
  | ok identity =>
      dsimp only
      rw [effect_accountId rfl]
      rfl

end Drawn

/-- **A generated wallet comes back.** Whatever the options are, the account of a generated wallet
is the one that its phrase yields with the first account and the first index. Unless these are
given, the phrase is recovered along the path of the options, which is the same path if and only
if the options have the first account and the first index. -/
theorem generated_account_recovered {ω' : Type} {d : Controller ω'} {settings' : ChainSettings}
    {world' : ω'} {count : Int} {entropy : Bytes} {phrase : String}
    (hdrawn : Key.Mnemonic.generate count entropy = .ok phrase)
    (hc : c.client.settings.effect c.world = (.ok settings, world))
    (hd : d.client.settings.effect d.world = (.ok settings', world')) :
    ((generate count entropy).effect c).1 =
        (accountOf (.phrase phrase "" 0 0)).map (fun _ => (phrase : Text)) ∧
      accountAfter (generate count entropy) c =
        accountAfter (recoverFromPhrase phrase "" (some 0) (some 0)) d ∧
      accountAfter (recoverFromPhrase phrase) d =
        accountOf (.phrase phrase "" d.options.account d.options.index) ∧
      (Key.walletPath d.options.account d.options.index = Key.walletPath 0 0 ↔
        d.options.account = 0 ∧ d.options.index = 0) ∧
      (d.options.account = 0 ∧ d.options.index = 0 →
        accountAfter (generate count entropy) c = accountAfter (recoverFromPhrase phrase) d) := by
  have hgenerated := accountAfter_generate hdrawn hc
  have hconfigured := accountAfter_recoverFromPhrase hd phrase "" none none
  refine ⟨generate_result hdrawn hc, ?_, hconfigured, Key.walletPath_eq_iff, ?_⟩
  · rw [hgenerated, accountAfter_recoverFromPhrase hd]
    rfl
  · rintro ⟨haccount, hindex⟩
    rw [hgenerated, hconfigured, Option.getD_none, Option.getD_none, haccount, hindex]

/-- A controller that was just made. -/
def idle (options : Options) : Controller Unit :=
  { Submission.repeated with options := options, session := none }

/-- The phrase of sixteen zero bytes. -/
def zeroPhrase : String :=
  "abandon abandon abandon abandon abandon abandon abandon abandon abandon abandon abandon about"

/-- A wallet that is generated with the options of another account comes back with the standard
options. -/
theorem generated_account_recovered_zero :
    Key.Mnemonic.generate 12 (List.replicate 16 0) = .ok zeroPhrase ∧
      accountAfter (generate 12 (List.replicate 16 0)) (idle { account := 7, index := 3 }) =
        accountAfter (recoverFromPhrase zeroPhrase) (idle {}) ∧
      Key.walletPath 7 3 ≠ Key.walletPath 0 0 := by
  have hdrawn : Key.Mnemonic.generate 12 (List.replicate 16 0) = .ok zeroPhrase := by
    decide +kernel
  have hanswer : ∀ options, (idle options).client.settings.effect (idle options).world =
      (.ok {}, ()) := fun _ => rfl
  obtain ⟨_, _, _, _, hsame⟩ := generated_account_recovered hdrawn
    (hanswer { account := 7, index := 3 }) (hanswer {})
  obtain ⟨_, _, _, hpath, _⟩ := generated_account_recovered hdrawn (hanswer {})
    (hanswer { account := 7, index := 3 })
  refine ⟨hdrawn, hsame ⟨rfl, rfl⟩, ?_⟩
  intro hequal
  exact absurd (hpath.mp hequal).1 (by decide)

end Wallet.Controller

end BallotWallet
