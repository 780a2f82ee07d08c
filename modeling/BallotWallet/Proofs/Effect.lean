import BallotWallet.Proofs.Settling
import BallotWallet.Wallet.Desk

/-!
# What actions do

The effect of an action is its result and the state it leaves, without the reports. Effects are
computed by equations, one for each way to build an action, and from them what an action keeps.
-/

namespace BallotWallet

namespace Action

variable {σ τ α β : Type}

/-- The result of an action and the state it leaves. -/
def effect (a : Action σ α) (s : σ) : Except Failure α × σ :=
  ((a.run s).result, (a.run s).state)

@[simp] theorem effect_pure (x : α) (s : σ) : (pure x : Action σ α).effect s = (.ok x, s) :=
  rfl

theorem effect_bind (a : Action σ α) (f : α → Action σ β) (s : σ) :
    (a >>= f).effect s =
      match a.effect s with
      | (.ok x, t) => (f x).effect t
      | (.error e, t) => (.error e, t) := by
  rcases h : a.run s with ⟨⟨e⟩ | ⟨x⟩, t, log⟩
  · have hbind := run_bind_error (f := f) h
    simp only [effect, h, hbind]
  · have hbind := run_bind_ok (f := f) h
    simp only [effect, h, hbind]

theorem effect_bind_ok {a : Action σ α} {f : α → Action σ β} {s t : σ} {x : α}
    (h : a.effect s = (.ok x, t)) : (a >>= f).effect s = (f x).effect t := by
  rw [effect_bind, h]

theorem effect_bind_error {a : Action σ α} {f : α → Action σ β} {s t : σ} {e : Failure}
    (h : a.effect s = (.error e, t)) : (a >>= f).effect s = (.error e, t) := by
  rw [effect_bind, h]

theorem effect_bind_assoc {γ : Type} (a : Action σ α) (f : α → Action σ β) (g : β → Action σ γ)
    (s : σ) : ((a >>= f) >>= g).effect s = (a >>= fun x => f x >>= g).effect s := by
  rw [effect_bind, effect_bind, effect_bind]
  rcases a.effect s with ⟨⟨e⟩ | ⟨x⟩, t⟩
  · rfl
  · exact (effect_bind (f x) g t).symm

/-- An action that succeeds has succeeded in its first part. -/
theorem exists_of_effect_bind {a : Action σ α} {f : α → Action σ β} {s t : σ} {y : β}
    (h : (a >>= f).effect s = (.ok y, t)) :
    ∃ x s', a.effect s = (.ok x, s') ∧ (f x).effect s' = (.ok y, t) := by
  rw [effect_bind] at h
  rcases ha : a.effect s with ⟨⟨e⟩ | ⟨x⟩, s'⟩
  · rw [ha] at h
    cases h
  · rw [ha] at h
    exact ⟨x, s', rfl, h⟩

@[simp] theorem effect_throw (e : Failure) (s : σ) :
    (throw e : Action σ α).effect s = (.error e, s) :=
  rfl

@[simp] theorem effect_get (s : σ) : (get : Action σ σ).effect s = (.ok s, s) :=
  rfl

@[simp] theorem effect_set (s t : σ) : (set t : Action σ PUnit).effect s = (.ok (), t) :=
  rfl

@[simp] theorem effect_modify (f : σ → σ) (s : σ) :
    (modify f : Action σ PUnit).effect s = (.ok (), f s) :=
  rfl

@[simp] theorem effect_lift (r : Except Failure α) (s : σ) :
    (liftM r : Action σ α).effect s = (r, s) :=
  rfl

theorem effect_lift_ok {r : Except Failure α} {x : α} (h : r = .ok x) (f : α → Action σ β)
    (s : σ) : ((liftM r : Action σ α) >>= f).effect s = (f x).effect s := by
  subst h
  exact effect_bind_ok rfl

theorem effect_lift_error {r : Except Failure α} {e : Failure} (h : r = .error e)
    (f : α → Action σ β) (s : σ) :
    ((liftM r : Action σ α) >>= f).effect s = (.error e, s) := by
  subst h
  exact effect_bind_error rfl

@[simp] theorem effect_step (f : σ → Except Failure α × σ) (s : σ) : (step f).effect s = f s :=
  rfl

@[simp] theorem effect_report (r : Log.Record) (s : σ) : (report r).effect s = (.ok (), s) :=
  rfl

theorem effect_map (f : α → β) (a : Action σ α) (s : σ) :
    (f <$> a).effect s = ((a.effect s).1.map f, (a.effect s).2) := by
  show (a >>= fun x => pure (f x)).effect s = _
  rw [effect_bind]
  rcases a.effect s with ⟨⟨e⟩ | ⟨x⟩, t⟩ <;> rfl

@[simp] theorem effect_zoom (view : τ → σ) (put : σ → τ → τ) (a : Action σ α) (t : τ) :
    (a.zoom view put).effect t = ((a.effect (view t)).1, put (a.effect (view t)).2 t) :=
  rfl

theorem effect_orOnFailure (a : Action σ α) (handle : Failure → Action σ α) (s : σ) :
    (a.orOnFailure handle).effect s =
      match a.effect s with
      | (.ok x, t) => (.ok x, t)
      | (.error e, t) => (handle e).effect t := by
  rcases h : a s with ⟨⟨e⟩ | ⟨x⟩, t, log⟩ <;>
    simp only [effect, run, orOnFailure, h]

/-- An action keeps what holds of every state that it leaves, whether it fails or not. -/
def Keeps (P : σ → Prop) (a : Action σ α) : Prop :=
  ∀ s, P s → P (a.effect s).2

theorem keeps_pure {P : σ → Prop} (x : α) : (pure x : Action σ α).Keeps P :=
  fun _ h => h

theorem keeps_throw {P : σ → Prop} (e : Failure) : (throw e : Action σ α).Keeps P :=
  fun _ h => h

theorem keeps_report {P : σ → Prop} (r : Log.Record) : (report r).Keeps P :=
  fun _ h => h

theorem keeps_bind {P : σ → Prop} {a : Action σ α} {f : α → Action σ β} (ha : a.Keeps P)
    (hf : ∀ x, (f x).Keeps P) : (a >>= f).Keeps P := by
  intro s hs
  have ht := ha s hs
  rw [effect_bind]
  rcases h : a.effect s with ⟨⟨e⟩ | ⟨x⟩, t⟩
  · rw [h] at ht
    exact ht
  · rw [h] at ht
    exact hf x t ht

theorem keeps_orOnFailure {P : σ → Prop} {a : Action σ α} {handle : Failure → Action σ α}
    (ha : a.Keeps P) (hh : ∀ e, (handle e).Keeps P) : (a.orOnFailure handle).Keeps P := by
  intro s hs
  have ht := ha s hs
  rw [effect_orOnFailure]
  rcases h : a.effect s with ⟨⟨e⟩ | ⟨x⟩, t⟩
  · rw [h] at ht
    exact hh e t ht
  · rw [h] at ht
    exact ht

end Action

namespace Wallet

open BallotWallet.Action

/-! ## At the desk -/

namespace Desk

variable {ω α : Type}

@[simp] theorem effect_book (a : Action State α) (d : Desk ω) :
    (book a).effect d = ((a.effect d.wallet).1, { d with wallet := (a.effect d.wallet).2 }) :=
  rfl

theorem effect_book_eq {a : Action State α} {d : Desk ω} {r : Except Failure α} {s : State}
    (h : a.effect d.wallet = (r, s)) : (book a).effect d = (r, { d with wallet := s }) := by
  rw [effect_book, h]

@[simp] theorem effect_request (a : Action ω α) (d : Desk ω) :
    (request a).effect d = ((a.effect d.world).1, { d with world := (a.effect d.world).2 }) :=
  rfl

@[simp] theorem effect_state (d : Desk ω) : state.effect d = (.ok d.wallet, d) :=
  rfl

@[simp] theorem effect_report (logger : Text) (level : Log.Level) (message : Text)
    (context : Log.Context) (d : Desk ω) :
    (report logger level message context).effect d = (.ok (), d) :=
  rfl

end Desk

/-! ## In the books -/

namespace Book

variable {s : State}

@[simp] theorem effect_report (level : Log.Level) (message : Text) (s : State) :
    (report level message).effect s = (.ok (), s) :=
  rfl

theorem effect_reserve {outstanding : List Int} (h : s.Disciplined outstanding) (value : Int) :
    (reserve value).effect s =
      (.ok { counter := some s.counter, value := value }, s.reserved value) :=
  h.reserve_eq value

theorem effect_release_reserved {outstanding : List Int} (h : s.Disciplined outstanding)
    (value : Int) :
    (release { counter := some s.counter, value := value }).effect (s.reserved value) =
      (.ok (), s) :=
  State.release_reserved h value

theorem effect_track {id : Text} (h : id ∉ s.pendingIds) (r : Option Reservation) :
    (track id r).effect s = (.ok (), s.tracked id r) := by
  unfold track
  rw [effect_bind_ok (effect_get s), State.track_eq h]
  rfl

@[simp] theorem effect_confirm (id : Text) (s : State) :
    (confirm id).effect s = (.ok (), s.confirm id) := by
  unfold confirm
  rw [effect_bind_ok (effect_get s)]
  by_cases h : id ∈ s.pendingIds
  · rw [if_pos (State.isPending_iff.mpr h)]
    rfl
  · rw [if_neg (fun hp => h (State.isPending_iff.mp hp)), State.confirm_absent h]
    rfl

@[simp] theorem effect_rollback (id : Text) (s : State) :
    (rollback id).effect s = s.rollback id := by
  unfold rollback
  rw [effect_bind, effect_step]
  rcases s.rollback id with ⟨⟨e⟩ | ⟨_ | r⟩, t⟩ <;> rfl

theorem effect_confirmEach (ids : List Text) (s : State) :
    (confirmEach ids).effect s = (.ok (), ids.foldl (fun s id => s.confirm id) s) := by
  induction ids generalizing s with
  | nil => rfl
  | cons id ids ih =>
      unfold confirmEach
      rw [effect_bind_ok (effect_confirm id s), ih]
      rfl

@[simp] theorem effect_confirmAll (s : State) :
    confirmAll.effect s = (.ok (), s.confirmAll) := by
  unfold confirmAll
  rw [effect_bind_ok (effect_get s), effect_confirmEach]
  rfl

@[simp] theorem effect_refresh (snapshot : AccountSnapshot) (s : State) :
    (refresh snapshot).effect s = (.ok (), s.refresh snapshot) := by
  unfold refresh
  rw [effect_bind_ok (effect_get s)]
  by_cases h : s.isOvertaken snapshot
  · simp only [h, if_true]
    rfl
  · simp only [h]
    rfl

end Book

end Wallet

end BallotWallet
