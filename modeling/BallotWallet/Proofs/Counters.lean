import BallotWallet.Wallet.State

/-!
# Counters that come back

Sets of counters are canonical, so a set is known by its elements. Released counters at the top
are swallowed one after another; what is left of them, and how far the top comes down, is said
here once.
-/

namespace BallotWallet.Wallet

namespace CounterSet

theorem nodup_elements (s : CounterSet) : s.elements.Nodup :=
  s.ordered.imp fun h => Int.ne_of_lt h

/-- Sets with the same elements are equal: their lists are both in increasing order. -/
theorem ext_mem {s t : CounterSet} (h : ∀ c, c ∈ s ↔ c ∈ t) : s = t := by
  have hp : s.elements.Perm t.elements :=
    (List.perm_ext_iff_of_nodup s.nodup_elements t.nodup_elements).mpr h
  have he : s.elements = t.elements := by
    refine hp.eq_of_pairwise ?_ s.ordered t.ordered
    intro a b _ _ hab hba
    exact absurd (Int.lt_trans hab hba) (Int.lt_irrefl a)
  cases s
  cases t
  cases he
  rfl

theorem contains_eq_false {s : CounterSet} {c : Int} (h : c ∉ s) : s.contains c = false :=
  Bool.eq_false_iff.mpr fun hc => h (contains_iff.mp hc)

theorem least?_eq_none {s : CounterSet} : s.least? = none ↔ ∀ c, c ∉ s := by
  rw [least?, List.head?_eq_none_iff, List.eq_nil_iff_forall_not_mem]
  rfl

theorem least?_mem {s : CounterSet} {c : Int} (h : s.least? = some c) : c ∈ s :=
  List.mem_of_mem_head? h

/-- The first element is below all others. -/
theorem least?_le {s : CounterSet} {c d : Int} (h : s.least? = some c) (hd : d ∈ s) :
    c ≤ d := by
  obtain ⟨ds, ho⟩ := s
  cases ds with
  | nil => simp [least?] at h
  | cons e ds =>
      obtain rfl : e = c := by simpa [least?] using h
      rcases List.mem_cons.mp hd with rfl | hd
      · exact Int.le_refl _
      · exact Int.le_of_lt ((List.pairwise_cons.mp ho).1 d hd)

theorem size_erase_lt {s : CounterSet} {c : Int} (h : c ∈ s) : (s.erase c).size < s.size := by
  unfold size erase filter
  refine List.length_filter_lt_length_iff_exists.mpr ⟨c, h, ?_⟩
  simp

theorem not_mem_of_size {s : CounterSet} {c : Int} (h : s.size ≤ 0) : c ∉ s := by
  intro hc
  have := List.length_pos_of_mem hc
  unfold size at h
  omega

end CounterSet

namespace State

/-! ## The top comes down -/

theorem lower_le (fuel : Nat) (next : Int) (released : CounterSet) :
    (lower fuel next released).1 ≤ next := by
  induction fuel generalizing next released with
  | zero => exact Int.le_refl next
  | succ fuel ih =>
      rw [lower]
      split
      · have := ih (next - 1) (released.erase (next - 1))
        omega
      · exact Int.le_refl next

/-- Only released counters are swallowed. -/
theorem mem_of_lower_le {fuel : Nat} {next c : Int} {released : CounterSet}
    (h : (lower fuel next released).1 ≤ c) (hc : c < next) : c ∈ released := by
  induction fuel generalizing next released with
  | zero => exact absurd h (by simp only [lower]; omega)
  | succ fuel ih =>
      rw [lower] at h
      split at h
      · rename_i htop
        by_cases he : c = next - 1
        · subst he
          simpa using htop
        · have := ih h (by omega)
          exact (CounterSet.mem_erase.mp this).1
      · exact absurd h (by simp only; omega)

/-- What is left are the released counters below the new top. -/
theorem mem_lower (fuel : Nat) {next c : Int} {released : CounterSet}
    (hlt : ∀ d ∈ released, d < next) :
    c ∈ (lower fuel next released).2 ↔
      c ∈ released ∧ c < (lower fuel next released).1 := by
  induction fuel generalizing next released with
  | zero => exact ⟨fun h => ⟨h, hlt c h⟩, fun h => h.1⟩
  | succ fuel ih =>
      rw [lower]
      split
      · have hlt' : ∀ d ∈ released.erase (next - 1), d < next - 1 := by
          intro d hd
          have hd := CounterSet.mem_erase.mp hd
          have := hlt d hd.1
          omega
        rw [ih hlt', CounterSet.mem_erase]
        have hle := lower_le fuel (next - 1) (released.erase (next - 1))
        constructor
        · rintro ⟨⟨hc, _⟩, htop⟩
          exact ⟨hc, htop⟩
        · rintro ⟨hc, htop⟩
          exact ⟨⟨hc, by omega⟩, htop⟩
      · exact ⟨fun h => ⟨h, hlt c h⟩, fun h => h.1⟩

/-- With enough fuel nothing released is left directly below the top: every round swallows one
counter, so there are at most as many rounds as released counters. -/
theorem lower_top (fuel : Nat) (next : Int) (released : CounterSet)
    (h : released.size ≤ fuel) :
    (lower fuel next released).1 - 1 ∉ (lower fuel next released).2 := by
  induction fuel generalizing next released with
  | zero => exact CounterSet.not_mem_of_size h
  | succ fuel ih =>
      rw [lower]
      split
      · rename_i htop
        have := CounterSet.size_erase_lt (CounterSet.contains_iff.mp htop)
        exact ih (next - 1) (released.erase (next - 1)) (by omega)
      · rename_i htop
        simpa using htop

end State

end BallotWallet.Wallet
