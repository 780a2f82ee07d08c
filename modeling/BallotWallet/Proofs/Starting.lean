import BallotWallet.Proofs.Session

/-!
# Starting a session

What recovering and generating a wallet do to a controller: nothing if the source yields no
identity; only a question to the node if it does not answer with its settings; and else a session
that begins with an empty wallet.
-/

namespace BallotWallet.Wallet.Controller

open BallotWallet.Action

variable {ω : Type} {c : Controller ω} {world : ω}

/-- A controller when a session has begun, with the world after the node was asked. -/
def begun (c : Controller ω) (identity : Key.Identity) (settings : ChainSettings) (world : ω) :
    Controller ω :=
  { c with
    session := some ⟨identity, settings⟩
    wallet := {}
    mnemonic := none
    world := world }

/-- A source is derived without the node. -/
theorem effect_derive (source : Key.Source) (c : Controller ω) :
    (derive source).effect c = (source.identity, c) := by
  unfold derive
  cases h : source.identity with
  | error e => exact effect_lift_error rfl _ c
  | ok identity => exact effect_lift_ok rfl _ c

/-- A question to the node moves nothing but the world. -/
theorem effect_ask {α : Type} (request : Ledger.Client ω → Action ω α) (c : Controller ω) :
    (ask request).effect c =
      (((request c.client).effect c.world).1,
        { c with world := ((request c.client).effect c.world).2 }) := by
  unfold ask
  rw [effect_bind_ok (effect_get c), effect_atDesk, Desk.effect_request]
  rfl

theorem effect_startSession_unanswered {e : Failure}
    (h : c.client.settings.effect c.world = (.error e, world)) (identity : Key.Identity) :
    (startSession identity).effect c = (.error e, { c with world := world }) := by
  have hask := effect_ask (·.settings) c
  rw [h] at hask
  exact effect_bind_error hask

theorem effect_startSession {settings : ChainSettings}
    (h : c.client.settings.effect c.world = (.ok settings, world)) (identity : Key.Identity) :
    (startSession identity).effect c = (.ok (), c.begun identity settings world) := by
  have hask := effect_ask (·.settings) c
  rw [h] at hask
  unfold startSession
  rw [effect_bind_ok hask, effect_bind_ok (effect_modify _ _)]
  rfl

/-! ## Recovering -/

theorem effect_recover_underived {source : Key.Source} {e : Failure}
    (h : source.identity = .error e) (c : Controller ω) :
    (recover source).effect c = (.error e, c) := by
  have hderive := effect_derive source c
  rw [h] at hderive
  exact effect_bind_error hderive

theorem effect_recover_unanswered {source : Key.Source} {identity : Key.Identity} {e : Failure}
    (hsource : source.identity = .ok identity)
    (hanswer : c.client.settings.effect c.world = (.error e, world)) :
    (recover source).effect c = (.error e, { c with world := world }) := by
  have hderive := effect_derive source c
  rw [hsource] at hderive
  unfold recover
  rw [effect_bind_ok hderive, effect_bind_error (effect_startSession_unanswered hanswer identity)]

/-- A source that yields an identity begins a session once the node has answered. -/
theorem effect_recover {source : Key.Source} {identity : Key.Identity}
    {settings : ChainSettings} (hsource : source.identity = .ok identity)
    (hanswer : c.client.settings.effect c.world = (.ok settings, world)) :
    (recover source).effect c = (.ok identity, c.begun identity settings world) := by
  have hderive := effect_derive source c
  rw [hsource] at hderive
  unfold recover
  rw [effect_bind_ok hderive, effect_bind_ok (effect_startSession hanswer identity)]
  rfl

/-- A phrase is recovered with the account and the index that are given, or else with those of the
options. -/
theorem effect_recoverFromPhrase (words password : Text) (account index : Option Int)
    (c : Controller ω) :
    (recoverFromPhrase words password account index).effect c =
      (recover (.phrase words password (account.getD c.options.account)
        (index.getD c.options.index))).effect c :=
  effect_bind_ok (effect_get c)

/-! ## Generating -/

theorem effect_generate_undrawn {count : Int} {entropy : Bytes} {e : Failure}
    (h : Key.Mnemonic.generate count entropy = .error e) (c : Controller ω) :
    (generate count entropy).effect c = (.error e, c) :=
  effect_lift_error h _ c

/-- A phrase that was drawn is recovered with the first account, and then remembered. -/
theorem effect_generate {count : Int} {entropy : Bytes} {phrase : String}
    (h : Key.Mnemonic.generate count entropy = .ok phrase) (c : Controller ω) :
    (generate count entropy).effect c =
      match (recover (.phrase phrase "" 0 0)).effect c with
      | (.ok _, c') => (.ok (phrase : Text), { c' with mnemonic := some phrase })
      | (.error e, c') => (.error e, c') := by
  unfold generate recover
  rw [effect_lift_ok h, effect_bind, effect_bind]
  rcases (derive (.phrase phrase "" 0 0)).effect c with ⟨⟨e⟩ | ⟨identity⟩, c₁⟩
  · rfl
  · dsimp only
    rw [effect_bind, effect_bind]
    rcases (startSession identity).effect c₁ with ⟨⟨e⟩ | ⟨u⟩, c₂⟩
    · rfl
    · exact effect_bind_ok (effect_modify _ c₂)

end BallotWallet.Wallet.Controller
