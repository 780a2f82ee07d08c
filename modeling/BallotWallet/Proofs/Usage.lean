import BallotWallet.Proofs.Balance
import BallotWallet.Proofs.Session

/-!
# Wallets in use

A wallet is used by the operations of a run. Besides, a reservation may be lost: a call fails
after it has reserved and before it submits, and nobody tracks the reservation or gives it back
any more. Whatever a session comes to, its wallet was used in this way.
-/

namespace BallotWallet.Wallet

namespace Run

/-- What the use of a wallet comes to: allowed operations from a first state on, and reservations
that are lost in between. -/
inductive Used : Run → Prop
  | start {counter balance : Int} {s : State} :
      State.start counter balance = .ok s → Used { wallet := s }
  | step {t : Run} (m : Move) : Used t → m.Allowed t → Used (t.step m)
  | lost {t : Run} {rest : List Reservation} :
      Used t → rest.Sublist t.outstanding → Used { t with outstanding := rest }

variable {s : State} {t : Run}

/-- Every run is a use in which nothing is lost. -/
theorem Reached.used {counter balance : Int} (hstart : State.start counter balance = .ok s)
    (h : Reached s t) : Used t := by
  induction h with
  | start => exact .start hstart
  | step m _ hm ih => exact .step m ih hm

instance (m : Move) (t : Run) : Decidable (m.Allowed t) :=
  match m with
  | .track _ r | .release r => inferInstanceAs (Decidable (r ∈ t.outstanding))
  | .refresh _ => inferInstanceAs (Decidable (t.outstanding = []))
  | .reserve _ | .trackBare _ | .confirm _ | .rollback _ | .confirmAll => isTrue trivial

/-- Whether operations are allowed one after another. -/
def AllAllowed : List Move → Run → Prop
  | [], _ => True
  | m :: ms, t => m.Allowed t ∧ AllAllowed ms (t.step m)

instance decidableAllAllowed : (ms : List Move) → (t : Run) → Decidable (AllAllowed ms t)
  | [], _ => isTrue trivial
  | m :: ms, t =>
    have := decidableAllAllowed ms (t.step m)
    inferInstanceAs (Decidable (m.Allowed t ∧ AllAllowed ms (t.step m)))

theorem Used.foldl {ms : List Move} (h : Used t) (hms : AllAllowed ms t) :
    Used (ms.foldl Run.step t) := by
  induction ms generalizing t with
  | nil => exact h
  | cons m ms ih => exact ih (h.step m hms.1) hms.2

/-! ## What holds in use -/

theorem Sound.lost (h : t.Sound) {rest : List Reservation} (hrest : rest.Sublist t.outstanding) :
    Sound { t with outstanding := rest } := by
  have hd := h.accounted.toDisciplined.sublist (hrest.filterMap (·.counter))
  exact ⟨h.accounted.of_same hd rfl rfl rfl rfl, fun r hr => h.numbered r (hrest.subset hr)⟩

/-- The balance stays accounted for: what is lost counts as spent. -/
theorem Used.audited (h : Used t) : ∃ a : Audit, a.run = t ∧ a.Balanced := by
  induction h with
  | start hstart => exact ⟨_, rfl, Audit.start_balanced hstart⟩
  | step m _ hm ih =>
      obtain ⟨a, rfl, ha⟩ := ih
      exact ⟨a.step m, rfl, Audit.step_balanced ha m hm⟩
  | @lost t rest _ hrest ih =>
      obtain ⟨a, rfl, ha⟩ := ih
      obtain ⟨gone, hperm⟩ := hrest.exists_perm_append
      refine ⟨⟨{ a.run with outstanding := rest }, a.base, gone ++ a.confirmed⟩, rfl,
        ha.sound.lost hrest, fun r hr => ha.fresh r (hrest.subset hr), ha.marked, ?_⟩
      have hbalance := ha.balance_eq
      rw [Reservation.charges_perm hperm, Reservation.charges_append] at hbalance
      simp only [Reservation.charges_append]
      omega

theorem Used.sound (h : Used t) : t.Sound := by
  obtain ⟨a, rfl, ha⟩ := h.audited
  exact ha.sound

theorem Used.disciplined (h : Used t) :
    t.wallet.Disciplined (Reservation.counters t.outstanding) :=
  h.sound.accounted.toDisciplined

/-- What is pending after an operation was so before, up to its mark, or it was outstanding, or it
was submitted without a reservation. -/
theorem mem_pending_step (h : t.Sound) {m : Move} (hm : m.Allowed t) {p : Text × Reservation}
    (hp : p ∈ (t.step m).wallet.pending) :
    (∃ q ∈ t.wallet.pending, p.2.counter = q.2.counter ∧ p.2.value = q.2.value) ∨
      p.2 ∈ t.outstanding ∨ p.2 = { counter := none } := by
  have hdisciplined := h.accounted.toDisciplined
  cases m with
  | reserve value =>
      simp only [step, hdisciplined.reserve_eq] at hp
      exact Or.inl ⟨p, hp, rfl, rfl⟩
  | track id r =>
      by_cases hid : id ∈ t.wallet.pendingIds
      · simp only [step, State.track_pending hid] at hp
        exact Or.inl ⟨p, hp, rfl, rfl⟩
      · simp only [step, State.track_eq hid] at hp
        rcases List.mem_append.mp hp with hp | hp
        · exact Or.inl ⟨p, hp, rfl, rfl⟩
        · obtain rfl := List.mem_singleton.mp hp
          exact Or.inr (Or.inl hm)
  | trackBare id =>
      by_cases hid : id ∈ t.wallet.pendingIds
      · simp only [step, State.track_pending hid] at hp
        exact Or.inl ⟨p, hp, rfl, rfl⟩
      · simp only [step, State.track_eq hid] at hp
        rcases List.mem_append.mp hp with hp | hp
        · exact Or.inl ⟨p, hp, rfl, rfl⟩
        · obtain rfl := List.mem_singleton.mp hp
          exact Or.inr (Or.inr rfl)
  | release r =>
      simp only [step, (h.taken hm).release_eq, State.unwound_pending] at hp
      exact Or.inl ⟨p, hp, rfl, rfl⟩
  | confirm id =>
      simp only [step, confirm, State.confirm_pending] at hp
      exact Or.inl ⟨p, (State.mem_forget.mp hp).1, rfl, rfl⟩
  | rollback id =>
      simp only [step, State.rollback_pending hdisciplined] at hp
      exact Or.inl ⟨p, (State.mem_forget.mp hp).1, rfl, rfl⟩
  | confirmAll =>
      simp only [step, t.wallet.confirmAll_frame.2.2] at hp
      exact absurd hp List.not_mem_nil
  | refresh snapshot =>
      simp only [step, State.refresh_pending] at hp
      obtain ⟨q, hq, rfl⟩ := List.mem_map.mp hp
      exact Or.inl ⟨q, hq, State.markApplied_counter _ _, State.markApplied_value _ _⟩

/-- A pending fragment without a counter holds no value. -/
theorem Used.bare (h : Used t) {p : Text × Reservation} (hp : p ∈ t.wallet.pending)
    (hnone : p.2.counter = none) : p.2.value = 0 := by
  induction h generalizing p with
  | start hstart =>
      rw [State.start_eq hstart] at hp
      cases hp
  | step m hused hm ih =>
      rcases mem_pending_step hused.sound hm hp with ⟨q, hq, hcounter, hvalue⟩ | hr | hr
      · rw [hvalue]
        exact ih hq (hcounter ▸ hnone)
      · -- what is outstanding has a counter
        obtain ⟨c, hc⟩ := hused.sound.numbered _ hr
        rw [hc] at hnone
        cases hnone
      · rw [hr]
  | lost _ _ ih => exact ih hp hnone

/-! ## Uses in sessions -/

/-- A wallet in use with nothing outstanding. -/
def Idle (s : State) : Prop :=
  ∃ t : Run, Used t ∧ t.wallet = s ∧ t.outstanding = []

theorem Used.idle (h : Used t) : Idle t.wallet :=
  ⟨_, h.lost (List.nil_sublist _), rfl, rfl⟩

/-- Values are reserved one after another. -/
theorem Used.reservedAll (h : Used t) (values : List Int) :
    ∃ t' : Run, Used t' ∧ t'.wallet = t.wallet.reservedAll values ∧
      t'.outstanding.Perm (t.wallet.reservations values ++ t.outstanding) := by
  induction values generalizing t with
  | nil => exact ⟨t, h, rfl, .refl _⟩
  | cons value values ih =>
      have hreserve := h.step (.reserve value) trivial
      simp only [Run.step, h.disciplined.reserve_eq] at hreserve
      obtain ⟨t', hused, hwallet, hperm⟩ := ih hreserve
      exact ⟨t', hused, hwallet, hperm.trans List.perm_middle⟩

/-- Fragments become pending one after another, with the outstanding reservations. -/
theorem Used.submitted (h : Used t) {ids : List Text} {rs : List (Option Reservation)}
    (hrs : t.outstanding.Perm (rs.filterMap id)) (hnodup : ids.Nodup)
    (hnew : ∀ id ∈ ids, id ∉ t.wallet.pendingIds) : Idle (t.wallet.submitted ids rs) := by
  induction ids generalizing t rs with
  | nil =>
      have hsame : t.wallet.submitted [] rs = t.wallet := by
        simp [State.submitted, State.entries]
      rw [hsame]
      exact h.idle
  | cons id ids ih =>
      have hid := hnew id List.mem_cons_self
      have hrest := State.tracked_not_pending rs.head?.join hnodup hnew
      rw [State.submitted_cons]
      cases hr : rs.head?.join with
      | none =>
          have hbare := h.step (.trackBare id) trivial
          simp only [Run.step, State.track_eq hid] at hbare
          rw [hr] at hrest
          refine ih hbare (hrs.trans ?_) (List.nodup_cons.mp hnodup).2 hrest
          rcases rs with _ | ⟨_ | r, rs⟩
          · exact .refl _
          · exact .refl _
          · cases hr
      | some r =>
          obtain ⟨rs, rfl⟩ : ∃ others, rs = some r :: others := by
            rcases rs with _ | ⟨_ | q, rs⟩
            · cases hr
            · cases hr
            · cases hr
              exact ⟨rs, rfl⟩
          have hmem : r ∈ t.outstanding := hrs.symm.subset List.mem_cons_self
          have htrack := h.step (.track id r) hmem
          simp only [Run.step, State.track_eq hid] at htrack
          refine ih htrack ?_ (List.nodup_cons.mp hnodup).2 hrest
          exact List.Perm.cons_inv ((List.perm_cons_erase hmem).symm.trans hrs)

theorem Idle.settles (h : Idle s) {s' : State} (hsettles : s.Settles s') : Idle s' := by
  induction hsettles with
  | refl => exact h
  | confirm id _ ih =>
      obtain ⟨t, hused, rfl, -⟩ := ih
      exact (hused.step (.confirm id) trivial).idle
  | rollback id _ ih =>
      obtain ⟨t, hused, rfl, -⟩ := ih
      exact (hused.step (.rollback id) trivial).idle

theorem Idle.refresh (h : Idle s) (snapshot : AccountSnapshot) : Idle (s.refresh snapshot) := by
  obtain ⟨t, hused, rfl, hnone⟩ := h
  exact (hused.step (.refresh snapshot) hnone).idle

theorem Idle.reservedAll (h : Idle s) (values : List Int) : Idle (s.reservedAll values) := by
  obtain ⟨t, hused, rfl, -⟩ := h
  obtain ⟨t', hused', hwallet, -⟩ := hused.reservedAll values
  exact hwallet ▸ hused'.idle

/-- However a submission ends for which values were reserved, or none, the wallet was used. -/
theorem Idle.ended {before wallet : State} (h : Idle before) {values : List Int} {count : Nat}
    {rs : List (Option Reservation)} (hrs : rs.filterMap id = before.reservations values)
    {answer result : Except Failure (List Text)}
    (hended : Submission.Ended before (before.reservedAll values) count rs answer result wallet) :
    Idle wallet := by
  cases hended with
  | accepted _ hfresh =>
      obtain ⟨t, hused, rfl, hnone⟩ := h
      obtain ⟨t', hused', hwallet, hperm⟩ := hused.reservedAll values
      rw [hnone, List.append_nil, ← hrs] at hperm
      rw [← hwallet] at hfresh ⊢
      exact hused'.submitted hperm hfresh.nodup hfresh.not_pending
  | refused _ _ => exact h
  | broken _ _ => exact h.reservedAll values

end Run

namespace Controller

variable {ω : Type} {c c' : Controller ω} {op : Operation ω}
  {result : Except Failure (List Text)}

theorem Transition.idle (h : Transition c op result c') (hc : Run.Idle c.wallet) :
    Run.Idle c'.wallet := by
  cases h with
  | quiet world hids => exact hc
  | switched hop => exact hc
  | built hop hsession hout =>
      cases hout with
      | failed e => exact hc
      | nothing => exact hc
      | lost he values => exact hc.reservedAll values
      | handed hbuilds hw hrequest hended =>
          refine hc.ended ?_ hended
          rw [List.filterMap_map]
          exact List.filterMap_some
  | raw hop hrequest hlen hnone hended =>
      have hrs : _ = c.wallet.reservations [] := hnone
      exact hc.ended hrs hended
  | refreshed snapshot world => exact hc.refresh snapshot
  | settled world hids hsettles => exact hc.settles hsettles

/-- Every wallet that a session comes to was used, and nothing is outstanding between two
operations. -/
theorem Reached.idle (h : Reached c) : Run.Idle c.wallet := by
  induction h with
  | fresh hfresh =>
      rw [hfresh.blank]
      exact ⟨_, .start (show State.start 0 0 = .ok {} from rfl), rfl, rfl⟩
  | operation op hreached ih =>
      exact (perform_transition hreached.disciplined op).idle ih
  | world world _ ih => exact ih

end Controller

end BallotWallet.Wallet
