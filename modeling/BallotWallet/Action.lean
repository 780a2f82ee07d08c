import BallotWallet.Failure
import BallotWallet.Log.Record

/-!
# Actions

An action works on a state, may fail, and reports what it does. A failure does not undo what was
done before it: the state and the reports that it leaves behind are part of the outcome.
-/

namespace BallotWallet

/-- What an action leads to. -/
structure Outcome (σ α : Type) where
  result : Except Failure α
  state : σ
  log : List Log.Record := []

/-- A computation on a state that may fail and reports what it does. -/
def Action (σ α : Type) : Type :=
  σ → Outcome σ α

namespace Action

variable {σ τ α β : Type}

/-- What an action leads to from a state. -/
def run (a : Action σ α) (s : σ) : Outcome σ α :=
  a s

/-- The action that does nothing and yields a value. -/
protected def pure (x : α) : Action σ α := fun s =>
  ⟨.ok x, s, []⟩

/-- One action after another, unless the first one fails. -/
protected def bind (a : Action σ α) (f : α → Action σ β) : Action σ β := fun s =>
  match a s with
  | ⟨.ok x, s, log⟩ =>
    let next := f x s
    ⟨next.result, next.state, log ++ next.log⟩
  | ⟨.error e, s, log⟩ => ⟨.error e, s, log⟩

instance : Monad (Action σ) where
  pure := Action.pure
  bind := Action.bind

def fail (e : Failure) : Action σ α := fun s =>
  ⟨.error e, s, []⟩

/-- One action, and another one from where it failed. -/
def orOnFailure (a : Action σ α) (handle : Failure → Action σ α) : Action σ α := fun s =>
  match a s with
  | ⟨.error e, s, log⟩ =>
    let next := handle e s
    ⟨next.result, next.state, log ++ next.log⟩
  | outcome => outcome

instance : MonadExcept Failure (Action σ) where
  throw := fail
  tryCatch := orOnFailure

instance : MonadStateOf σ (Action σ) where
  get := fun s => ⟨.ok s, s, []⟩
  set s := fun _ => ⟨.ok (), s, []⟩
  modifyGet f := fun s => ⟨.ok (f s).1, (f s).2, []⟩

/-- A result that is already there. -/
def ofExcept (r : Except Failure α) : Action σ α := fun s =>
  ⟨r, s, []⟩

instance : MonadLift (Except Failure) (Action σ) where
  monadLift := ofExcept

/-- An action that replaces the state and may fail. -/
def step (f : σ → Except Failure α × σ) : Action σ α := fun s =>
  ⟨(f s).1, (f s).2, []⟩

def report (r : Log.Record) : Action σ Unit := fun s =>
  ⟨.ok (), s, [r]⟩

/-- An action on a part of the state. -/
def zoom (view : τ → σ) (put : σ → τ → τ) (a : Action σ α) : Action τ α := fun t =>
  let outcome := a (view t)
  ⟨outcome.result, put outcome.state t, outcome.log⟩

@[simp] theorem run_pure (x : α) (s : σ) : (pure x : Action σ α).run s = ⟨.ok x, s, []⟩ :=
  rfl

theorem run_bind_ok {a : Action σ α} {f : α → Action σ β} {s s' : σ} {x : α}
    {log : List Log.Record} (h : a.run s = ⟨.ok x, s', log⟩) :
    (a >>= f).run s =
      ⟨((f x).run s').result, ((f x).run s').state, log ++ ((f x).run s').log⟩ := by
  show Action.bind a f s = _
  simp only [run] at h
  simp only [Action.bind, h, run]

theorem run_bind_error {a : Action σ α} {f : α → Action σ β} {s s' : σ} {e : Failure}
    {log : List Log.Record} (h : a.run s = ⟨.error e, s', log⟩) :
    (a >>= f).run s = ⟨.error e, s', log⟩ := by
  show Action.bind a f s = _
  simp only [run] at h
  simp only [Action.bind, h]

end Action

end BallotWallet
