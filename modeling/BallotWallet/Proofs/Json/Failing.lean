import BallotWallet.Json.Reader
import BallotWallet.Proofs.Failing

/-!
# Texts that are no documents

What the reader of documents says of a text that it cannot read: the text is not well formed, has
a whole number of too many digits, or goes too deep.
-/

namespace BallotWallet.Json

open Text (CodePoint)

/-- What can be wrong with a text that is to be a document. -/
def Illegible (e : Failure) : Prop :=
  e = .badJson ∨ e = .badValue ∨ e = .tooDeep

theorem failsWithin_readText (ps : List CodePoint) : FailsWithin Illegible (readText ps) := by
  unfold readText
  split
  · exact .ok _
  · exact .error (.inl rfl)

theorem failsWithin_readNumber (negative : Bool) (ps : List CodePoint) :
    FailsWithin Illegible (readNumber negative ps) := by
  unfold readNumber
  dsimp only
  split
  · exact .error (.inl rfl)
  · split
    · split
      · exact .error (.inr (.inl rfl))
      · exact .ok _
    · split
      · exact .ok _
      · exact .error (.inl rfl)

theorem failsWithin_readPlain (ps : List CodePoint) : FailsWithin Illegible (readPlain ps) := by
  unfold readPlain
  split
  · exact .ok _
  · split <;> exact failsWithin_readNumber _ _

/-- The three readers call one another with less fuel, so one induction serves them all. -/
theorem failsWithin_readers (fuel : Nat) :
    (∀ depth ps, FailsWithin Illegible (readValue fuel depth ps)) ∧
    (∀ depth ps, FailsWithin Illegible (readItems fuel depth ps)) ∧
    (∀ depth before ps, FailsWithin Illegible (readFields fuel depth before ps)) := by
  induction fuel with
  | zero => exact ⟨fun _ _ => .error (.inl rfl), fun _ _ => .error (.inl rfl),
      fun _ _ _ => .error (.inl rfl)⟩
  | succ fuel ih =>
      obtain ⟨hvalue, hitems, hfields⟩ := ih
      refine ⟨fun depth ps => ?_, fun depth ps => ?_, fun depth before ps => ?_⟩
      · unfold readValue
        split
        · exact .bind (failsWithin_readText _) fun _ _ => .ok _
        · split
          · exact .error (.inr (.inr rfl))
          · exact .ok _
          · exact .bind (hitems _ _) fun _ _ => .ok _
        · split
          · exact .error (.inr (.inr rfl))
          · exact .ok _
          · exact .bind (hfields _ _ _) fun _ _ => .ok _
        · exact failsWithin_readPlain _
      · unfold readItems
        refine .bind (hvalue _ _) fun found _ => ?_
        dsimp only
        split
        · exact .ok _
        · exact .bind (hitems _ _) fun _ _ => .ok _
        · exact .error (.inl rfl)
      · unfold readFields
        split
        · refine .bind (failsWithin_readText _) fun found _ => ?_
          dsimp only
          split
          · refine .bind (hvalue _ _) fun found _ => ?_
            split
            · exact .ok _
            · exact hfields _ _ _
            · exact .error (.inl rfl)
          · exact .error (.inl rfl)
        · exact .error (.inl rfl)

theorem failsWithin_parse (t : Text) : FailsWithin Illegible (parse t) := by
  unfold parse
  split
  · exact .error ((failsWithin_readers _).1 _ _ _ ‹_›)
  · split
    · exact .ok _
    · exact .error (.inl rfl)

end BallotWallet.Json
