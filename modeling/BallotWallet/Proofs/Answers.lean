import BallotWallet.Ledger.Rest
import BallotWallet.Proofs.Failing

/-!
# Understanding answers

How the readers of a node's answers fail. Most of their failures tell that the answer was not what
it should be. The others come from a few sorts of answers: from infinite numbers where whole ones
should be, from a start of the chain that is too large for a number of seconds, from counters that
are kept by name, and from the details of a fragment's status.
-/

namespace BallotWallet

open Ledger (Rest)

variable {d x : Document} {name : Text} {e : Failure}

/-! ## Numbers -/

/-- What can go wrong with a document that holds whole numbers. -/
def Misread (d : Document) (e : Failure) : Prop :=
  Rest.isMisfit e = true ∨ e = .overflow ∧ d.HasInfinite

theorem Misread.mono (h : Misread x e) (hx : x.HasInfinite → d.HasInfinite) : Misread d e :=
  h.imp_right fun ⟨he, hinfinite⟩ => ⟨he, hx hinfinite⟩

theorem failsWithin_field (d : Document) (name : Text) (default : Document) :
    FailsWithin (Misread d) (d.field name default) := by
  intro e he
  rw [(Document.field_error.mp he).1]
  exact .inl rfl

theorem failsWithin_elements (d : Document) : FailsWithin (Misread d) d.elements := by
  intro e he
  rw [(Document.elements_error.mp he).1]
  exact .inl rfl

theorem failsWithin_toInt (d : Document) : FailsWithin (Misread d) d.toInt := by
  refine .mono d.failsWithin_toInt ?_
  rintro _ (rfl | rfl | ⟨rfl, hinfinite⟩)
  · exact .inl rfl
  · exact .inl rfl
  · exact .inr ⟨rfl, d, hinfinite, .here⟩

/-- A field that should be a whole number, and has one if it is missing. -/
theorem failsWithin_number (d : Document) (name : Text) (n : Int) :
    FailsWithin (Misread d) (d.field name (.int n) >>= Document.toInt) :=
  .bind (failsWithin_field d name _) fun x hx => .mono (failsWithin_toInt x) fun _ he =>
    he.mono fun h => .of_field hx (Document.not_hasInfinite_int n) h

/-! ## Settings -/

namespace LinearFee

theorem failsWithin_ofDocument (d : Document) : FailsWithin (Misread d) (ofDocument d) := by
  unfold ofDocument
  refine .bind (failsWithin_field d _ _) fun perVote hperVote => ?_
  have hpart : ∀ name,
      FailsWithin (Misread d) (number (perVote.orElse (.object [])) name) := by
    intro name
    refine .mono (failsWithin_number _ name 0) fun _ he => he.mono fun h => ?_
    exact .of_field hperVote Document.not_hasInfinite_null
      (.of_orElse Document.not_hasInfinite_object_nil h)
  refine .bind (failsWithin_number d _ 0) fun _ _ => ?_
  refine .bind (failsWithin_number d _ 0) fun _ _ => ?_
  refine .bind (failsWithin_number d _ 0) fun _ _ => ?_
  refine .bind (hpart _) fun _ _ => ?_
  exact .bind (hpart _) fun _ _ => .ok _

end LinearFee

namespace ChainSettings

/-- Whether the chain started after a number of seconds that is too large to be counted. -/
def StartsBeyond (d : Document) : Prop :=
  ∃ n, d.field "block0Time" (.int 0) = .ok (.int n) ∧ Binary64.ofInt? n = none

theorem failsWithin_readTime (d : Document) :
    FailsWithin (fun e => Rest.isMisfit e = true ∨
      e = .overflow ∧ ∃ n, d = .int n ∧ Binary64.ofInt? n = none) (readTime d) := by
  cases d with
  | int n =>
      unfold readTime secondsOfInt
      dsimp only
      split
      · exact .ok _
      · exact .error (.inr ⟨rfl, n, rfl, ‹_›⟩)
  | bool b => exact .ok _
  | float x => exact .ok x
  | text t =>
      unfold readTime readTimeText
      dsimp only
      split
      · exact .ok _
      · exact .error (.inl rfl)
  | _ => exact .error (.inl rfl)

theorem failsWithin_ofDocument (d : Document) :
    FailsWithin (fun e => Misread d e ∨ e = .overflow ∧ StartsBeyond d) (ofDocument d) := by
  have hfield : ∀ name default, FailsWithin (fun e => Misread d e ∨ e = .overflow ∧ StartsBeyond d)
      (d.field name default) :=
    fun name default => .mono (failsWithin_field d name default) fun _ => .inl
  have hnumber : ∀ name n, FailsWithin (fun e => Misread d e ∨ e = .overflow ∧ StartsBeyond d)
      (d.field name (.int n) >>= Document.toInt) :=
    fun name n => .mono (failsWithin_number d name n) fun _ => .inl
  unfold ofDocument
  refine .bind (hfield _ _) fun _ _ => ?_
  refine .bind (.bind (hfield _ _) fun start hstart => .mono (failsWithin_readTime start) ?_)
    fun _ _ => ?_
  · rintro e (hmisfit | ⟨rfl, n, rfl, hn⟩)
    · exact .inl (.inl hmisfit)
    · exact .inr ⟨rfl, n, hstart, hn⟩
  refine .bind (hnumber _ _) fun _ _ => ?_
  refine .bind (hnumber _ _) fun _ _ => ?_
  refine .bind (hfield _ _) fun _ _ => ?_
  refine .bind (hfield _ _) fun fees hfees => ?_
  refine .bind (.mono (LinearFee.failsWithin_ofDocument _) fun _ he => ?_) fun _ _ => .ok _
  exact .inl (he.mono fun h => .of_field hfees Document.not_hasInfinite_null
    (.of_orElse Document.not_hasInfinite_object_nil h))

end ChainSettings

/-! ## Accounts -/

namespace AccountSnapshot

/-- Whether the counters of an account are kept by name, and none of them is its only one. -/
def NamesCounters (d : Document) : Prop :=
  d.field "counter" = .ok .null ∧
    ∃ lane lanes, d.field "counters" = .ok (.object (lane :: lanes))

/-- The first element of a value that counts as present. -/
theorem failsWithin_first {x : Document} (hx : x.truthy = true) :
    FailsWithin (fun e => e = .wrongKind ∨
      e = .missingKey ∧ ∃ lane lanes, x = .object (lane :: lanes)) x.first := by
  cases x with
  | list items =>
      cases items with
      | nil => cases hx
      | cons item items => exact .ok item
  | text t =>
      obtain ⟨points⟩ := t
      cases points with
      | nil => cases hx
      | cons p points => exact .ok _
  | object fields =>
      cases fields with
      | nil => cases hx
      | cons lane lanes => exact .error (.inr ⟨rfl, lane, lanes, rfl⟩)
  | _ => exact .error (.inl rfl)

theorem hasInfinite_of_first {x y : Document} (hxy : x.first = .ok y) (h : y.HasInfinite) :
    x.HasInfinite := by
  unfold Document.first at hxy
  split at hxy <;> cases hxy
  · exact h.item List.mem_cons_self
  · exact absurd h (Document.not_hasInfinite_text _)

theorem failsWithin_readCounter (d : Document) :
    FailsWithin (fun e => Misread d e ∨ e = .missingKey ∧ NamesCounters d) (readCounter d) := by
  have hfield : ∀ name, FailsWithin (fun e => Misread d e ∨ e = .missingKey ∧ NamesCounters d)
      (d.field name) :=
    fun name => .mono (failsWithin_field d name .null) fun _ => .inl
  unfold readCounter
  refine .bind (hfield _) fun counter hcounter => ?_
  split
  · refine .bind (hfield _) fun counters hcounters => ?_
    have hpresent : (counters.orElse (.list [.int 0])).truthy = true := by
      unfold Document.orElse
      split
      · assumption
      · rfl
    refine .mono (failsWithin_first hpresent) ?_
    rintro _ (rfl | ⟨rfl, lane, lanes, hlanes⟩)
    · exact .inl (.inl rfl)
    · refine .inr ⟨rfl, hcounter, lane, lanes, ?_⟩
      unfold Document.orElse at hlanes
      split at hlanes
      · rw [← hlanes]
        exact hcounters
      · cases hlanes
  · exact .ok _

theorem hasInfinite_of_readCounter {counter : Document} (hread : readCounter d = .ok counter)
    (h : counter.HasInfinite) : d.HasInfinite := by
  obtain ⟨found, hfound, hread⟩ := exists_of_bind_ok hread
  split at hread
  · obtain ⟨counters, hcounters, hfirst⟩ := exists_of_bind_ok hread
    refine .of_field hcounters Document.not_hasInfinite_null (.of_orElse ?_
      (hasInfinite_of_first hfirst h))
    refine Document.not_hasInfinite_list fun d hd => ?_
    rw [List.mem_singleton.mp hd]
    exact Document.not_hasInfinite_int 0
  · cases hread
    exact .of_field hfound Document.not_hasInfinite_null h

theorem failsWithin_ofDocument (d : Document) :
    FailsWithin (fun e => Misread d e ∨ e = .missingKey ∧ NamesCounters d) (ofDocument d) := by
  have hfield : ∀ name, FailsWithin (fun e => Misread d e ∨ e = .missingKey ∧ NamesCounters d)
      (d.field name) :=
    fun name => .mono (failsWithin_field d name .null) fun _ => .inl
  unfold ofDocument
  refine .bind (failsWithin_readCounter d) fun counter hcounter => ?_
  refine .bind (.mono (failsWithin_number d _ 0) fun _ => .inl) fun _ _ => ?_
  refine .bind (.mono (failsWithin_toInt counter) fun _ he => .inl (he.mono ?_)) fun _ _ => ?_
  · exact hasInfinite_of_readCounter hcounter
  · exact .bind (hfield _) fun _ _ => .bind (hfield _) fun _ _ => .ok _

end AccountSnapshot

/-! ## Fragment logs -/

namespace FragmentStatus

/-- Whether the details of a status lack the form that they should have: they are no object, or
the date of a block is there and no text. Nothing is expected of a fragment that is pending. -/
def IsLoose (detail : Document) : FragmentStatus → Prop
  | .pending => False
  | .rejected _ => ∀ fields, detail ≠ .object fields
  | .inABlock _ _ => (∀ fields, detail ≠ .object fields) ∨
      ∃ date, detail.field "date" = .ok date ∧ date.truthy = true ∧ ∀ t, date ≠ .text t

/-- Whether a status is described with loose details. -/
def DescribedLoosely (d : Document) : Prop :=
  ∃ name detail status, d = .object [(name, detail)] ∧ named name = .ok status ∧
    status.IsLoose (detail.orElse (.object []))

theorem failsWithin_named (name : Text) : FailsWithin (·.isBadValue = true) (named name) := by
  unfold named
  split
  · exact .ok _
  · split
    · exact .ok _
    · split
      · exact .ok _
      · exact .error rfl

/-- A date that is a text is read as a value, and no other date is read. -/
theorem failsWithin_date (d : Document) :
    FailsWithin (fun e => e.isBadValue = true ∨ e = .noMember ∧ ∀ t, d ≠ .text t)
      (BlockDate.ofDocument d) := by
  have hnumber : ∀ t, FailsWithin (fun e => e.isBadValue = true ∨ e = .noMember ∧ ∀ t, d ≠ .text t)
      (Document.text t).toInt := by
    intro t
    unfold Document.toInt
    dsimp only
    split
    · exact .ok _
    · exact .error (.inl rfl)
  cases d with
  | text t =>
      refine .bind (hnumber _) fun _ _ => ?_
      dsimp only
      split
      · exact .ok _
      · exact .bind (hnumber _) fun _ _ => .ok _
  | _ => exact .error (.inr ⟨rfl, by rintro _ ⟨⟩⟩)

theorem failsWithin_detailed (status : FragmentStatus) (detail : Document) :
    FailsWithin (fun e => e.isBadValue = true ∨ e = .noMember ∧ status.IsLoose detail)
      (status.detailed detail) := by
  cases status with
  | pending => exact .ok _
  | rejected reason =>
      exact .bind (fun e he => .inr (Document.field_error.mp he)) fun _ _ => .ok _
  | inABlock date block =>
      have hdetail : ∀ name default, FailsWithin
          (fun e => e.isBadValue = true ∨
            e = .noMember ∧ (inABlock date block).IsLoose detail)
          (detail.field name default) := by
        intro name default e he
        obtain ⟨rfl, hobject⟩ := Document.field_error.mp he
        exact .inr ⟨rfl, .inl hobject⟩
      refine .bind (hdetail _ _) fun found hfound => ?_
      dsimp only
      split
      · refine .bind (.bind (.mono (failsWithin_date found) ?_) fun _ _ => .ok _) fun _ _ =>
          .bind (hdetail _ _) fun _ _ => .ok _
        exact fun _ he => he.imp_right fun ⟨he, htext⟩ => ⟨he, .inr ⟨found, hfound, ‹_›, htext⟩⟩
      · exact .bind (.ok _) fun _ _ => .bind (hdetail _ _) fun _ _ => .ok _

theorem failsWithin_ofDocument (d : Document) :
    FailsWithin (fun e => e.isBadValue = true ∨ e = .noMember ∧ DescribedLoosely d)
      (ofDocument d) := by
  unfold ofDocument
  split
  · exact .mono (failsWithin_named _) fun _ => .inl
  · rename_i name detail
    refine .bind (.mono (failsWithin_named name) fun _ => .inl) fun status hstatus => ?_
    refine .mono (failsWithin_detailed status _) fun _ he => he.imp_right ?_
    exact fun ⟨he, hloose⟩ => ⟨he, name, detail, status, rfl, hstatus, hloose⟩
  · exact .error (.inl rfl)

end FragmentStatus

namespace FragmentLog

/-- Whether an entry of a fragment log describes its status with loose details. -/
def HasLooseStatus (d : Document) : Prop :=
  ∃ status, d.field "status" (.text "Pending") = .ok status ∧
    FragmentStatus.DescribedLoosely status

theorem failsWithin_ofDocument (d : Document) :
    FailsWithin (fun e => Rest.isLogMisfit e = true ∨ e = .noMember ∧ HasLooseStatus d)
      (ofDocument d) := by
  cases d with
  | object fields =>
      -- an object has all fields but the one that it must have
      refine .bind ?_ fun _ _ => .bind (.bind (.ok _) fun status hstatus => ?_) fun _ _ => .ok _
      · unfold Document.required
        dsimp only
        split
        · exact .ok _
        · exact .error (.inl rfl)
      · refine .mono (FragmentStatus.failsWithin_ofDocument status) ?_
        rintro e (hbad | ⟨rfl, hloose⟩)
        · refine .inl ?_
          unfold Rest.isLogMisfit
          rw [hbad]
          rfl
        · exact .inr ⟨rfl, status, hstatus, hloose⟩
  | _ => exact .error (.inl rfl)

end FragmentLog

namespace Ledger.Rest

/-- Whether an entry of a fragment log describes its status with loose details. -/
def LogsLoosely (d : Document) : Prop :=
  ∃ entries, d.elements = .ok entries ∧ ∃ entry ∈ entries, FragmentLog.HasLooseStatus entry

theorem failsWithin_readLogs (d : Document) :
    FailsWithin (fun e => isLogMisfit e = true ∨ e = .noMember ∧ LogsLoosely d) (readLogs d) := by
  refine .bind (.bind ?_ fun entries hentries => .mapM fun entry hentry => ?_) fun _ _ => .ok _
  · intro e he
    rw [(Document.elements_error.mp he).1]
    exact .inl rfl
  · refine .mono (FragmentLog.failsWithin_ofDocument entry) fun _ he => he.imp_right ?_
    exact fun ⟨he, hloose⟩ => ⟨he, entries, hentries, entry, hentry, hloose⟩

end Ledger.Rest

/-! ## Proposals and votes -/

namespace Proposal

theorem failsWithin_readOptions {fields : List (Text × Document)}
    (h : ∀ f ∈ fields, f.2.HasInfinite → d.HasInfinite) :
    FailsWithin (Misread d) (readOptions fields) := by
  induction fields with
  | nil => exact .ok _
  | cons f fields ih =>
      refine .bind (.mono (failsWithin_toInt f.2) fun _ he => ?_) fun _ _ => .bind ?_ fun _ _ => ?_
      · exact he.mono (h f List.mem_cons_self)
      · exact ih fun f hf => h f (List.mem_cons_of_mem _ hf)
      · exact .ok _

theorem failsWithin_ofDocument (d : Document) : FailsWithin (Misread d) (ofDocument d) := by
  unfold ofDocument
  refine .bind (failsWithin_field d _ _) fun options hoptions => ?_
  refine .bind (failsWithin_field d _ _) fun _ _ => ?_
  refine .bind (failsWithin_field d _ _) fun _ _ => ?_
  refine .bind (failsWithin_field d _ _) fun _ _ => ?_
  refine .bind (failsWithin_number d _ 0) fun _ _ => ?_
  refine .bind (.bind ?_ fun fields hfields => failsWithin_readOptions fun f hf h => ?_)
    fun _ _ => ?_
  · refine .mono (Document.failsWithin_entries _) ?_
    rintro _ rfl
    exact .inl rfl
  · refine .of_field hoptions Document.not_hasInfinite_null
      (.of_orElse Document.not_hasInfinite_object_nil ?_)
    unfold Document.entries at hfields
    split at hfields
    · rename_i hobject
      cases hfields
      rw [hobject]
      exact h.field hf
    · cases hfields
  · exact .bind (failsWithin_field d _ _) fun _ _ => .bind (failsWithin_field d _ _) fun _ _ =>
      .ok _

end Proposal

namespace VoteStatus

theorem failsWithin_ofDocument (d : Document) : FailsWithin (Misread d) (ofDocument d) := by
  unfold ofDocument
  refine .bind (failsWithin_field d _ _) fun _ _ => ?_
  refine .bind (failsWithin_field d _ _) fun votes hvotes => ?_
  have hpart : ∀ e, Misread votes e → Misread d e := fun _ he => he.mono fun h =>
    .of_field hvotes (Document.not_hasInfinite_list (by rintro _ ⟨⟩)) h
  refine .bind (.mono (failsWithin_elements votes) hpart) fun xs hxs => ?_
  refine .bind (.mapM fun x hx => .mono (failsWithin_toInt x) fun _ he => ?_) fun _ _ => .ok _
  exact hpart _ (he.mono (.of_elements hxs hx))

end VoteStatus

namespace Ledger.Rest

theorem failsWithin_readAll {α : Type} {read : Document → Except Failure α}
    (hread : ∀ x, FailsWithin (Misread x) (read x)) (d : Document) :
    FailsWithin (Misread d) (readAll read d) :=
  .bind (failsWithin_elements d) fun _ hxs => .mapM fun x hx => .mono (hread x) fun _ he =>
    he.mono (.of_elements hxs hx)

end Ledger.Rest

end BallotWallet
