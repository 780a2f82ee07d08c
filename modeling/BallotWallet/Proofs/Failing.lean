import BallotWallet.Document

/-!
# Ways to fail

A reader of documents fails in few of the many ways there are. What a computation may fail with
is a predicate that its parts hand on, so each reader needs one lemma for each of its steps.
-/

namespace BallotWallet

/-- A computation that fails only in ways that a predicate allows. -/
def FailsWithin (P : Failure → Prop) {α : Type} (a : Except Failure α) : Prop :=
  ∀ e, a = .error e → P e

namespace FailsWithin

variable {P Q : Failure → Prop} {α β : Type} {a : Except Failure α}

theorem ok (x : α) : FailsWithin P (.ok x) := by
  rintro e ⟨⟩

theorem error {e : Failure} (he : P e) : FailsWithin P (.error e : Except Failure α) := by
  rintro _ ⟨⟩
  exact he

theorem mono (ha : FailsWithin P a) (h : ∀ e, P e → Q e) : FailsWithin Q a :=
  fun e he => h e (ha e he)

theorem bind {f : α → Except Failure β} (ha : FailsWithin P a)
    (hf : ∀ x, a = .ok x → FailsWithin P (f x)) : FailsWithin P (a >>= f) := by
  cases a with
  | error e => exact error (ha e rfl)
  | ok x => exact hf x rfl

theorem mapM {f : α → Except Failure β} {xs : List α} (h : ∀ x ∈ xs, FailsWithin P (f x)) :
    FailsWithin P (xs.mapM f) := by
  induction xs with
  | nil => exact ok []
  | cons x xs ih =>
      rw [List.mapM_cons]
      refine bind (h x List.mem_cons_self) fun y _ => ?_
      exact bind (ih fun x hx => h x (List.mem_cons_of_mem _ hx)) fun ys _ => ok _

end FailsWithin

/-- A computation that succeeds has succeeded in its first part. -/
theorem exists_of_bind_ok {α β : Type} {a : Except Failure α} {f : α → Except Failure β} {y : β}
    (h : (a >>= f) = .ok y) : ∃ x, a = .ok x ∧ f x = .ok y := by
  cases a with
  | error e => cases h
  | ok x => exact ⟨x, rfl, h⟩

theorem exists_of_map_ok {α β : Type} {a : Except Failure α} {f : α → β} {y : β}
    (h : f <$> a = .ok y) : ∃ x, a = .ok x ∧ f x = y := by
  cases a with
  | error e => cases h
  | ok x => exact ⟨x, rfl, Except.ok.inj h⟩

theorem bind_ok_iff {α β : Type} {a : Except Failure α} {f : α → Except Failure β} {y : β} :
    (a >>= f) = .ok y ↔ ∃ x, a = .ok x ∧ f x = .ok y := by
  refine ⟨exists_of_bind_ok, ?_⟩
  rintro ⟨x, rfl, h⟩
  exact h

/-- A computation fails in its first part, or after it. -/
theorem bind_error_iff {α β : Type} {a : Except Failure α} {f : α → Except Failure β}
    {e : Failure} :
    (a >>= f) = .error e ↔ a = .error e ∨ ∃ x, a = .ok x ∧ f x = .error e := by
  cases a with
  | error found =>
      constructor
      · rintro ⟨⟩
        exact .inl rfl
      · rintro (⟨⟨⟩⟩ | ⟨x, ⟨⟩, _⟩)
        rfl
  | ok x =>
      constructor
      · exact fun h => .inr ⟨x, rfl, h⟩
      · rintro (⟨⟨⟩⟩ | ⟨_, ⟨⟩, h⟩)
        exact h

namespace Document

variable {d x y : Document} {name : Text} {fields : List (Text × Document)}

/-! ## Values in documents -/

/-- A value that stands somewhere in a document. -/
inductive Occurs (x : Document) : Document → Prop
  | here : Occurs x x
  | item {d : Document} {items : List Document} : d ∈ items → Occurs x d → Occurs x (.list items)
  | field {name : Text} {d : Document} {fields : List (Text × Document)} :
      (name, d) ∈ fields → Occurs x d → Occurs x (.object fields)

/-- An infinite number. -/
def IsInfinite : Document → Prop
  | float x => x.magnitude = Binary64.infinity
  | _ => False

/-- Whether an infinite number stands somewhere in a document. -/
def HasInfinite (d : Document) : Prop :=
  ∃ x : Document, x.IsInfinite ∧ x.Occurs d

theorem HasInfinite.item {items : List Document} (hd : d ∈ items) (h : d.HasInfinite) :
    (list items).HasInfinite := by
  obtain ⟨x, hx, hoccurs⟩ := h
  exact ⟨x, hx, .item hd hoccurs⟩

theorem HasInfinite.field (hd : (name, d) ∈ fields) (h : d.HasInfinite) :
    (object fields).HasInfinite := by
  obtain ⟨x, hx, hoccurs⟩ := h
  exact ⟨x, hx, .field hd hoccurs⟩

theorem mem_of_getField? (h : getField? name fields = some d) : (name, d) ∈ fields := by
  unfold getField? at h
  induction fields with
  | nil => cases h
  | cons f fields ih =>
      rw [List.lookup_cons] at h
      split at h
      · rename_i heq
        cases h
        rw [eq_of_beq heq]
        exact List.mem_cons_self
      · exact List.mem_cons_of_mem _ (ih h)

/-- What a field holds is in the object, if it is not the default. -/
theorem HasInfinite.of_field (hfield : d.field name y = .ok x) (hy : ¬y.HasInfinite)
    (h : x.HasInfinite) : d.HasInfinite := by
  unfold Document.field at hfield
  split at hfield
  · cases hfound : getField? name _ with
    | none =>
        rw [hfound] at hfield
        cases hfield
        exact absurd h hy
    | some found =>
        rw [hfound] at hfield
        cases hfield
        exact h.field (mem_of_getField? hfound)
  · cases hfield

theorem HasInfinite.of_orElse (hy : ¬y.HasInfinite) (h : (x.orElse y).HasInfinite) :
    x.HasInfinite := by
  unfold orElse at h
  split at h
  · exact h
  · exact absurd h hy

/-- Values without parts are infinite or finite themselves. -/
theorem HasInfinite.isInfinite (hlist : ∀ items, d ≠ list items)
    (hobject : ∀ fields, d ≠ object fields) (h : d.HasInfinite) : d.IsInfinite := by
  obtain ⟨x, hx, hoccurs⟩ := h
  cases hoccurs with
  | here => exact hx
  | item => exact absurd rfl (hlist _)
  | field => exact absurd rfl (hobject _)

theorem not_hasInfinite_null : ¬null.HasInfinite :=
  fun h => h.isInfinite (by rintro _ ⟨⟩) (by rintro _ ⟨⟩)

theorem not_hasInfinite_int (n : Int) : ¬(int n).HasInfinite :=
  fun h => h.isInfinite (by rintro _ ⟨⟩) (by rintro _ ⟨⟩)

theorem not_hasInfinite_text (t : Text) : ¬(text t).HasInfinite :=
  fun h => h.isInfinite (by rintro _ ⟨⟩) (by rintro _ ⟨⟩)

theorem not_hasInfinite_list {items : List Document} (h : ∀ d ∈ items, ¬d.HasInfinite) :
    ¬(list items).HasInfinite := by
  rintro ⟨x, hx, hoccurs⟩
  cases hoccurs with
  | here => exact hx
  | item hd hoccurs => exact h _ hd ⟨x, hx, hoccurs⟩

theorem not_hasInfinite_object_nil : ¬(object []).HasInfinite := by
  rintro ⟨x, hx, hoccurs⟩
  cases hoccurs with
  | here => exact hx
  | field hd => cases hd

theorem HasInfinite.of_elements {xs : List Document} (hxs : d.elements = .ok xs) (hx : x ∈ xs)
    (h : x.HasInfinite) : d.HasInfinite := by
  cases d with
  | list items =>
      cases hxs
      exact h.item hx
  | object fields =>
      cases hxs
      obtain ⟨f, _, rfl⟩ := List.mem_map.mp hx
      exact absurd h (not_hasInfinite_text _)
  | text t =>
      cases hxs
      obtain ⟨p, _, rfl⟩ := List.mem_map.mp hx
      exact absurd h (not_hasInfinite_text _)
  | _ => cases hxs

/-! ## How conversions fail -/

/-- Only an object has fields, and it has every field, if only by default. -/
theorem field_error {default : Document} {e : Failure} :
    d.field name default = .error e ↔ e = .noMember ∧ ∀ fields, d ≠ .object fields := by
  cases d with
  | object fields =>
      refine iff_of_false (by rintro ⟨⟩) ?_
      exact fun h => h.2 fields rfl
  | _ =>
      constructor
      · rintro ⟨⟩
        exact ⟨rfl, by rintro _ ⟨⟩⟩
      · rintro ⟨rfl, _⟩
        rfl

/-- A value that consists of others: a list, an object or a text. -/
def IsCollection : Document → Prop
  | list _ | object _ | text _ => True
  | _ => False

theorem elements_error {e : Failure} :
    d.elements = .error e ↔ e = .wrongKind ∧ ¬d.IsCollection := by
  cases d with
  | list items => exact iff_of_false (by rintro ⟨⟩) fun h => h.2 trivial
  | object fields => exact iff_of_false (by rintro ⟨⟩) fun h => h.2 trivial
  | text t => exact iff_of_false (by rintro ⟨⟩) fun h => h.2 trivial
  | _ =>
      constructor
      · rintro ⟨⟩
        exact ⟨rfl, id⟩
      · rintro ⟨rfl, _⟩
        rfl

theorem failsWithin_entries (d : Document) : FailsWithin (· = .noMember) d.entries := by
  cases d with
  | object fields => exact .ok _
  | _ => exact .error rfl

/-- The number that cannot be cut to a whole one is infinite, or is none. -/
theorem isInfinite_of_truncate? {x : Binary64} (h : x.truncate? = none) (hnan : x.isNaN = false) :
    (float x).IsInfinite := by
  have hle : x.magnitude ≤ Binary64.infinity := by
    simpa [Binary64.isNaN] using hnan
  rcases Nat.lt_or_eq_of_le hle with hlt | heq
  · unfold Binary64.truncate? Binary64.view at h
    simp only [Nat.not_lt.mpr hle, if_false, Nat.ne_of_lt hlt] at h
    split at h
    · cases h
    · rename_i hview
      split at hview
      · exact absurd rfl (hview _ _ _)
      · exact absurd rfl (hview _ _ _)
  · exact heq

theorem failsWithin_toInt (d : Document) :
    FailsWithin (fun e => e = .badValue ∨ e = .wrongKind ∨ e = .overflow ∧ d.IsInfinite)
      d.toInt := by
  cases d with
  | int n => exact .ok n
  | bool b => exact .ok _
  | float x =>
      unfold toInt
      dsimp only
      split
      · exact .ok _
      · rename_i hcut
        cases hnan : x.isNaN with
        | true => exact .error (.inl rfl)
        | false => exact .error (.inr (.inr ⟨rfl, isInfinite_of_truncate? hcut hnan⟩))
  | text t =>
      unfold toInt
      dsimp only
      split
      · exact .ok _
      · exact .error (.inl rfl)
  | _ => exact .error (.inr (.inl rfl))

end Document

end BallotWallet
