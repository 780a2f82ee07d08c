import BallotWallet.Text.Blank
import Mathlib.Data.List.TakeWhile

/-!
# Words and pieces

A text is cut at its separators, and what stands between them comes back in order. Words are read
back from any text in which they stand in order with white space between them, whatever the white
space is and however much of it stands around them.
-/

namespace BallotWallet.Text

variable {α : Type}

/-- A list is cut as the standard library splits it. -/
theorem cut_eq_splitOnP (p : α → Bool) (xs : List α) : cut p xs = xs.splitOnP p := by
  induction xs with
  | nil => rfl
  | cons x xs ih =>
      rw [List.splitOnP_cons_eq_if_modifyHead, ← ih, cut]
      split
      · rfl
      · cases hcut : cut p xs with
        | nil => exact absurd (ih.symm.trans hcut) (List.splitOnP_ne_nil p xs)
        | cons piece pieces => rfl

section Pieces

variable {sep : Char} {ps rest : List CodePoint}

theorem pieces_eq_splitOn (t : Text) : pieces sep t = (t.points.splitOn (.char sep)).map mk := by
  unfold pieces
  rw [cut_eq_splitOnP, List.splitOn_eq_splitOnP]

theorem pieces_of_notMem (h : .char sep ∉ ps) : pieces sep ⟨ps⟩ = [⟨ps⟩] := by
  rw [pieces_eq_splitOn, List.splitOn_eq_singleton h]
  rfl

theorem pieces_append (h : .char sep ∉ ps) :
    pieces sep ⟨ps ++ .char sep :: rest⟩ = ⟨ps⟩ :: pieces sep ⟨rest⟩ := by
  rw [pieces_eq_splitOn, pieces_eq_splitOn, List.splitOn_append_cons_self_of_not_mem h]
  rfl

end Pieces

/-! ## Words -/

/-- Nothing but white space. -/
def IsGap (ps : List CodePoint) : Prop :=
  ∀ p ∈ ps, p.isChar isBlank = true

/-- Something without white space in it. -/
structure IsWord (w : Text) : Prop where
  ne_nil : w.points ≠ []
  solid : ∀ p ∈ w.points, p.isChar isBlank = false

/-- Words that stand in order in some code points, with white space between and around them. What
follows a word begins with white space, if anything follows it. -/
inductive Typed : List Text → List CodePoint → Prop
  | nil {gap : List CodePoint} : IsGap gap → Typed [] gap
  | cons {gap rest : List CodePoint} {w : Text} {ws : List Text} :
      IsGap gap → IsWord w → Typed ws rest → (∀ p ∈ rest.head?, p.isChar isBlank = true) →
      Typed (w :: ws) (gap ++ (w.points ++ rest))

theorem words_gap_append {gap : List CodePoint} (h : IsGap gap) (ps : List CodePoint) :
    words ⟨gap ++ ps⟩ = words ⟨ps⟩ := by
  induction gap with
  | nil => rfl
  | cons p gap ih =>
      have hblank : p.isChar isBlank = true := h p List.mem_cons_self
      rw [← ih fun q hq => h q (List.mem_cons_of_mem _ hq)]
      unfold words
      rw [List.cons_append, cut, if_pos hblank]
      rfl

theorem words_word_append {w : Text} (h : IsWord w) {rest : List CodePoint}
    (hrest : ∀ p ∈ rest.head?, p.isChar isBlank = true) :
    words ⟨w.points ++ rest⟩ = w :: words ⟨rest⟩ := by
  have hfull : ∀ others : List (List CodePoint),
      (w.points :: others).filter (!·.isEmpty) = w.points :: others.filter (!·.isEmpty) :=
    fun others => List.filter_cons_of_pos (by simpa using h.ne_nil)
  unfold words
  cases rest with
  | nil =>
      rw [List.append_nil, cut_eq_splitOnP, List.splitOnP_eq_singleton h.solid, hfull]
      rfl
  | cons p rest =>
      have hblank : p.isChar isBlank = true := hrest p rfl
      rw [cut_eq_splitOnP, List.splitOnP_append_cons_of_forall_mem h.solid p hblank,
        ← cut_eq_splitOnP, hfull, cut, if_pos hblank]
      rfl

theorem Typed.words_eq {ws : List Text} {ps : List CodePoint} (h : Typed ws ps) :
    words ⟨ps⟩ = ws := by
  induction h with
  | nil hgap =>
      have hnone := words_gap_append hgap []
      rw [List.append_nil] at hnone
      exact hnone
  | cons hgap hword _ hrest ih =>
      rw [words_gap_append hgap, words_word_append hword hrest, ih]

/-- Code points begin with as many as there are that satisfy `q`. -/
theorem exists_front (q : CodePoint → Bool) (ps : List CodePoint) :
    ∃ front rest, ps = front ++ rest ∧ (∀ p ∈ front, q p = true) ∧
      ∀ p ∈ rest.head?, q p = false := by
  refine ⟨ps.takeWhile q, ps.dropWhile q, List.takeWhile_append_dropWhile.symm,
    fun p hp => List.mem_takeWhile_imp hp, fun p hp => ?_⟩
  have hhead := List.head?_dropWhile_not q ps
  rw [Option.mem_def.mp hp] at hhead
  exact hhead

/-- Every text has its words typed in it. -/
theorem typed_words (ps : List CodePoint) : Typed (words ⟨ps⟩) ps := by
  -- a text is white space, then nothing more, or a word and a shorter text
  induction hlength : ps.length using Nat.strongRecOn generalizing ps with
  | ind n ih =>
      obtain ⟨gap, body, rfl, hgap, hbody⟩ := exists_front (CodePoint.isChar isBlank) ps
      rw [words_gap_append hgap]
      cases body with
      | nil =>
          rw [List.append_nil]
          exact .nil hgap
      | cons p body =>
          obtain ⟨w, rest, hsplit, hsolid, hrest⟩ :=
            exists_front (fun q => !q.isChar isBlank) (p :: body)
          have hne : w ≠ [] := by
            rintro rfl
            rw [List.nil_append] at hsplit
            have hp := hrest p (hsplit ▸ rfl)
            rw [hbody p rfl] at hp
            exact absurd hp (by decide)
          have hword : IsWord ⟨w⟩ := ⟨hne, fun q hq => by simpa using hsolid q hq⟩
          have hnext : ∀ q ∈ rest.head?, q.isChar isBlank = true :=
            fun q hq => by simpa using hrest q hq
          rw [hsplit, words_word_append hword hnext]
          refine .cons hgap hword (ih rest.length ?_ rest rfl) hnext
          have hshorter := List.length_pos_iff.mpr hne
          rw [hsplit] at hlength
          simp only [List.length_append] at hlength
          omega

/-- A text has just the words that are typed in it. -/
theorem typed_iff {ws : List Text} {t : Text} : Typed ws t.points ↔ words t = ws :=
  ⟨Typed.words_eq, fun h => h ▸ typed_words t.points⟩

end BallotWallet.Text
