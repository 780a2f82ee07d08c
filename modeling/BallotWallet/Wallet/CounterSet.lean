/-!
# Sets of counters

A finite set of counters is kept as its elements in increasing order, so that two sets with the
same elements are equal and the least element is the first one.
-/

namespace BallotWallet.Wallet

/-- A finite set of counters. -/
structure CounterSet where
  elements : List Int
  ordered : elements.Pairwise (· < ·)
  deriving DecidableEq

namespace CounterSet

def empty : CounterSet := ⟨[], List.Pairwise.nil⟩

instance : Inhabited CounterSet := ⟨empty⟩

/-- Whether the set has an element. -/
def contains (s : CounterSet) (c : Int) : Bool :=
  s.elements.contains c

instance : Membership Int CounterSet := ⟨fun s c => c ∈ s.elements⟩

theorem mem_iff {s : CounterSet} {c : Int} : c ∈ s ↔ c ∈ s.elements :=
  Iff.rfl

@[simp] theorem contains_iff {s : CounterSet} {c : Int} : s.contains c = true ↔ c ∈ s := by
  simp [contains, mem_iff]

/-- The least element, if there is any. -/
def least? (s : CounterSet) : Option Int :=
  s.elements.head?

def size (s : CounterSet) : Nat :=
  s.elements.length

/-- An increasing list with one more element. -/
def place (c : Int) : List Int → List Int
  | [] => [c]
  | d :: ds => if c < d then c :: d :: ds else if c = d then d :: ds else d :: place c ds

theorem mem_place {c x : Int} {ds : List Int} : x ∈ place c ds ↔ x = c ∨ x ∈ ds := by
  induction ds with
  | nil => simp [place]
  | cons d ds ih =>
    rw [place]
    split
    · simp
    · split
      · rename_i h
        subst h
        simp
      · simp only [List.mem_cons, ih]
        constructor
        · rintro (h | h | h) <;> simp [h]
        · rintro (h | h | h) <;> simp [h]

theorem pairwise_place {c : Int} {ds : List Int} (h : ds.Pairwise (· < ·)) :
    (place c ds).Pairwise (· < ·) := by
  induction ds with
  | nil => simp [place]
  | cons d ds ih =>
    rw [List.pairwise_cons] at h
    rw [place]
    split
    · rename_i hc
      refine List.pairwise_cons.mpr ⟨?_, List.pairwise_cons.mpr h⟩
      intro x hx
      rcases List.mem_cons.mp hx with rfl | hx
      · exact hc
      · exact Int.lt_trans hc (h.1 x hx)
    · split
      · exact List.pairwise_cons.mpr h
      · refine List.pairwise_cons.mpr ⟨?_, ih h.2⟩
        intro x hx
        rcases mem_place.mp hx with rfl | hx
        · omega
        · exact h.1 x hx

/-- The set with one more element. -/
def insert (s : CounterSet) (c : Int) : CounterSet :=
  ⟨place c s.elements, pairwise_place s.ordered⟩

/-- The elements that satisfy a condition. -/
def filter (s : CounterSet) (p : Int → Bool) : CounterSet :=
  ⟨s.elements.filter p, s.ordered.filter p⟩

def erase (s : CounterSet) (c : Int) : CounterSet :=
  s.filter (· != c)

@[simp] theorem mem_empty {c : Int} : ¬ c ∈ empty := by
  simp [mem_iff, empty]

@[simp] theorem mem_insert {s : CounterSet} {c x : Int} : x ∈ s.insert c ↔ x = c ∨ x ∈ s :=
  mem_place

@[simp] theorem mem_filter {s : CounterSet} {p : Int → Bool} {x : Int} :
    x ∈ s.filter p ↔ x ∈ s ∧ p x = true :=
  List.mem_filter

@[simp] theorem mem_erase {s : CounterSet} {c x : Int} : x ∈ s.erase c ↔ x ∈ s ∧ x ≠ c := by
  simp [erase]

end CounterSet

end BallotWallet.Wallet
