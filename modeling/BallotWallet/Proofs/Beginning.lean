import BallotWallet.Proofs.Starting

/-!
# Beginning a session

A session begins by recovering a wallet or by generating one. An attempt either fails and leaves
everything as it was, or it replaces the identity, the chain settings, the wallet and the
remembered phrase together.
-/

namespace BallotWallet.Wallet

open BallotWallet.Action

variable {ω : Type}

/-- The ways to begin a session. -/
inductive Start where
  | recover (source : Key.Source)
  | recoverFromPhrase (words password : Text) (account index : Option Int)
  | generate (count : Int) (entropy : Bytes)

namespace Start

variable {start : Start} {c : Controller ω} {world : ω}

/-- Attempts to begin a session, and yields the phrase if one is generated. -/
def perform : Start → Action (Controller ω) (Option Text)
  | recover source => (fun _ => none) <$> Controller.recover source
  | recoverFromPhrase words password account index =>
    (fun _ => none) <$> Controller.recoverFromPhrase words password account index
  | generate count entropy => some <$> Controller.generate count entropy

/-- Where the identity for the session comes from, and the phrase if one is generated. -/
def source (options : Options) : Start → Except Failure (Key.Source × Option String)
  | recover source => .ok (source, none)
  | recoverFromPhrase words password account index =>
    .ok (.phrase words password (account.getD options.account) (index.getD options.index), none)
  | generate count entropy =>
    (Key.Mnemonic.generate count entropy).map fun phrase : String =>
      (.phrase phrase "" 0 0, some phrase)

theorem source_generate (options : Options) (count : Int) (entropy : Bytes) :
    (generate count entropy).source options =
      (Key.Mnemonic.generate count entropy).map fun phrase =>
        (.phrase phrase "" 0 0, some phrase) :=
  rfl

/-- The identity for the session, and the phrase if one is generated. -/
def yields (options : Options) (start : Start) :
    Except Failure (Key.Identity × Option String) := do
  let (source, phrase) ← start.source options
  return (← source.identity, phrase)

/-- How an attempt to begin a session ends. -/
inductive Ends (start : Start) (c : Controller ω) :
    Except Failure (Option Text) → Controller ω → Prop
  | underived {e : Failure} : start.yields c.options = .error e → Ends start c (.error e) c
  | unanswered {found : Key.Identity × Option String} {e : Failure} {world : ω} :
      start.yields c.options = .ok found → c.client.settings.effect c.world = (.error e, world) →
      Ends start c (.error e) { c with world := world }
  | begun {identity : Key.Identity} {phrase : Option String} {settings : ChainSettings}
      {world : ω} :
      start.yields c.options = .ok (identity, phrase) →
      c.client.settings.effect c.world = (.ok settings, world) →
      Ends start c (.ok (phrase.map Text.ofString))
        { c.begun identity settings world with mnemonic := phrase }

theorem effect_perform_undrawn {e : Failure} (h : start.source c.options = .error e) :
    start.perform.effect c = (.error e, c) := by
  cases start with
  | recover source => cases h
  | recoverFromPhrase words password account index => cases h
  | generate count entropy =>
      cases hdrawn : Key.Mnemonic.generate count entropy with
      | error found =>
          rw [source_generate, hdrawn] at h
          cases h
          unfold perform
          rw [effect_map, Controller.effect_generate_undrawn hdrawn]
          rfl
      | ok phrase =>
          rw [source_generate, hdrawn] at h
          cases h

/-- Every attempt recovers an identity from its source; a phrase that was generated is remembered
in the end. -/
theorem effect_perform {source : Key.Source} {phrase : Option String}
    (h : start.source c.options = .ok (source, phrase)) :
    start.perform.effect c =
      match (Controller.recover source).effect c with
      | (.ok _, c') =>
        (.ok (phrase.map Text.ofString), { c' with mnemonic := phrase.or c'.mnemonic })
      | (.error e, c') => (.error e, c') := by
  cases start with
  | recover found =>
      cases h
      unfold perform
      rw [effect_map]
      rcases (Controller.recover _).effect c with ⟨⟨e⟩ | ⟨identity⟩, c'⟩ <;> rfl
  | recoverFromPhrase words password account index =>
      cases h
      unfold perform
      rw [effect_map, Controller.effect_recoverFromPhrase]
      rcases (Controller.recover _).effect c with ⟨⟨e⟩ | ⟨identity⟩, c'⟩ <;> rfl
  | generate count entropy =>
      cases hdrawn : Key.Mnemonic.generate count entropy with
      | error e =>
          rw [source_generate, hdrawn] at h
          cases h
      | ok drawn =>
          rw [source_generate, hdrawn] at h
          cases h
          unfold perform
          rw [effect_map, Controller.effect_generate hdrawn]
          rcases (Controller.recover _).effect c with ⟨⟨e⟩ | ⟨identity⟩, c'⟩ <;> rfl

theorem perform_ends (start : Start) (c : Controller ω) :
    Ends start c (start.perform.effect c).1 (start.perform.effect c).2 := by
  have hyields : start.yields c.options = (start.source c.options).bind fun found =>
      found.1.identity.bind fun identity => .ok (identity, found.2) := rfl
  rcases hsource : start.source c.options with e | ⟨source, phrase⟩
  · rw [hsource] at hyields
    rw [effect_perform_undrawn hsource]
    exact .underived hyields
  · rw [hsource] at hyields
    dsimp only [Except.bind] at hyields
    rw [effect_perform hsource]
    cases hidentity : source.identity with
    | error e =>
        rw [hidentity] at hyields
        rw [Controller.effect_recover_underived hidentity]
        exact .underived hyields
    | ok identity =>
        rw [hidentity] at hyields
        rcases hanswer : c.client.settings.effect c.world with ⟨⟨e⟩ | ⟨settings⟩, world⟩
        · rw [Controller.effect_recover_unanswered hidentity hanswer]
          exact .unanswered hyields hanswer
        · rw [Controller.effect_recover hidentity hanswer]
          dsimp only [Controller.begun]
          rw [Option.or_none]
          exact .begun hyields hanswer

/-- All or nothing: an attempt that fails changes nothing, and the node is not even asked if there
is no identity; one that succeeds begins with an empty wallet, and remembers the phrase that was
generated, or none. -/
structure Whole (start : Start) (c : Controller ω) : Prop where
  refused : ∀ e, (start.perform.effect c).1 = .error e →
    ∃ world, (start.perform.effect c).2 = { c with world := world }
  underived : ∀ e, start.yields c.options = .error e → start.perform.effect c = (.error e, c)
  begun : ∀ phrase, (start.perform.effect c).1 = .ok phrase →
    ∃ identity settings world remembered, start.yields c.options = .ok (identity, remembered) ∧
      c.client.settings.effect c.world = (.ok settings, world) ∧
      (start.perform.effect c).2 = { c with
        session := some ⟨identity, settings⟩
        wallet := {}
        mnemonic := remembered
        world := world } ∧
      (start.perform.effect c).2.wallet.counter = 0 ∧
      (start.perform.effect c).2.wallet.balance = 0 ∧
      (start.perform.effect c).2.wallet.pending = [] ∧
      remembered.map Text.ofString = phrase

theorem effect_perform_underived {e : Failure} (h : start.yields c.options = .error e) :
    start.perform.effect c = (.error e, c) := by
  have hends := start.perform_ends c
  generalize start.perform.effect c = result at hends
  obtain ⟨result, c'⟩ := result
  cases hends with
  | underived hyields =>
      rw [h] at hyields
      cases hyields
      rfl
  | unanswered hyields _ =>
      rw [h] at hyields
      cases hyields
  | begun hyields _ =>
      rw [h] at hyields
      cases hyields

/-- A session begins if there is an identity for it and the node answers. -/
theorem effect_perform_begun {identity : Key.Identity} {phrase : Option String}
    {settings : ChainSettings} (h : start.yields c.options = .ok (identity, phrase))
    (hanswer : c.client.settings.effect c.world = (.ok settings, world)) :
    start.perform.effect c = (.ok (phrase.map Text.ofString),
      { c.begun identity settings world with mnemonic := phrase }) := by
  have hends := start.perform_ends c
  generalize start.perform.effect c = result at hends
  obtain ⟨result, c'⟩ := result
  cases hends with
  | underived hyields =>
      rw [h] at hyields
      cases hyields
  | unanswered _ hrefused =>
      rw [hanswer] at hrefused
      cases hrefused
  | begun hyields hanswered =>
      rw [h] at hyields
      rw [hanswer] at hanswered
      cases hyields
      cases hanswered
      rfl

theorem whole (start : Start) (c : Controller ω) : start.Whole c := by
  have hends := start.perform_ends c
  refine ⟨?_, fun e he => effect_perform_underived he, ?_⟩
  · intro e he
    generalize start.perform.effect c = result at hends he
    obtain ⟨result, c'⟩ := result
    cases hends with
    | underived _ => exact ⟨_, rfl⟩
    | unanswered _ _ => exact ⟨_, rfl⟩
    | begun _ _ => cases he
  · intro phrase hphrase
    generalize start.perform.effect c = result at hends hphrase
    obtain ⟨result, c'⟩ := result
    cases hends with
    | underived _ => cases hphrase
    | unanswered _ _ => cases hphrase
    | begun hyields hanswer =>
        exact ⟨_, _, _, _, hyields, hanswer, rfl, rfl, rfl, rfl, Except.ok.inj hphrase⟩

end Start

end BallotWallet.Wallet
