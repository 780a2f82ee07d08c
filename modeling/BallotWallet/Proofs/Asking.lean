import BallotWallet.Ledger.Rest
import BallotWallet.Proofs.Effect
import BallotWallet.Proofs.Json.Failing

/-!
# Asking a node

What becomes of a request over HTTP, for every outcome of sending it. There is a reply or there is
none; the node may refuse; the body may be no document. All that is a failure of the node, unless
the body goes too deep for the reader of documents. What is left to a service is to make sense of
the document.
-/

namespace BallotWallet.Ledger

open BallotWallet.Action

/-- A transport that has an outcome for every request: a reply, or the reason why there is none. -/
def Transport.Delivers {ω : Type} (transport : Transport ω) : Prop :=
  ∀ request w, ∃ outcome w', (transport.send request).effect w = (.ok outcome, w')

namespace Rest

variable {ω : Type} (rest : Rest)

/-- What comes of a request with an outcome. -/
def received (method : Method) (path : Text) : Except Text Reply → Except Failure Reply
  | .error reason =>
    .error (.backend (method.text ++ " " ++ rest.url method path ++ " failed: " ++ reason) none "")
  | .ok reply =>
    if reply.isRefusal then
      .error (.backend (method.text ++ " " ++ rest.url method path ++ " refused")
        (some reply.status) reply.text)
    else .ok reply

theorem effect_report (message : Text) (w : ω) : (rest.report message).effect w = (.ok (), w) := by
  unfold report
  split <;> rfl

theorem effect_ask {transport : Transport ω} {method : Method} {path : Text} {payload : Payload}
    {outcome : Except Text Reply} {w w' : ω}
    (h : (transport.send ⟨method, rest.url method path, rest.timeout, payload⟩).effect w =
      (.ok outcome, w')) :
    (rest.ask transport method path payload).effect w =
      (rest.received method path outcome, w') := by
  unfold ask received
  dsimp only
  rw [effect_bind_ok (rest.effect_report _ w), effect_bind_ok h]
  cases outcome with
  | error reason => rfl
  | ok reply =>
      dsimp only
      rw [effect_bind_ok (rest.effect_report _ w')]
      split <;> rfl

theorem received_ok {method : Method} {path : Text} {outcome : Except Text Reply} {reply : Reply} :
    rest.received method path outcome = .ok reply ↔
      outcome = .ok reply ∧ reply.isRefusal = false := by
  unfold received
  cases outcome with
  | error reason => simp
  | ok found =>
      dsimp only
      split
      · rename_i hrefusal
        refine iff_of_false (by rintro ⟨⟩) ?_
        rintro ⟨⟨⟩, hno⟩
        rw [hno] at hrefusal
        cases hrefusal
      · rename_i hrefusal
        rw [Except.ok.injEq, Except.ok.injEq]
        refine ⟨?_, And.left⟩
        rintro rfl
        exact ⟨rfl, Bool.eq_false_iff.mpr hrefusal⟩

theorem failsWithin_received (method : Method) (path : Text) (outcome : Except Text Reply) :
    FailsWithin (·.isBackend = true) (rest.received method path outcome) := by
  unfold received
  split
  · exact .error rfl
  · split
    · exact .error rfl
    · exact .ok _

end Rest

namespace Reply

variable {reply : Reply} {summary : Text}

theorem document_ok {d : Document} :
    reply.document summary = .ok d ↔ Json.parse reply.text = .ok d := by
  unfold Reply.document
  cases Json.parse reply.text with
  | error e => simp
  | ok found => exact Iff.rfl

/-- A body that is no document is a failure of the node, unless it goes too deep. -/
theorem document_foreign {e : Failure} (he : e.isBackend = false) :
    reply.document summary = .error e ↔ e = .tooDeep ∧ Json.parse reply.text = .error .tooDeep := by
  unfold Reply.document
  cases hparse : Json.parse reply.text with
  | ok d => simp
  | error found =>
      rcases Json.failsWithin_parse _ _ hparse with rfl | rfl | rfl
      · refine iff_of_false ?_ (by simp)
        rintro ⟨⟩
        cases he
      · refine iff_of_false ?_ (by simp)
        rintro ⟨⟩
        cases he
      · refine ⟨?_, ?_⟩
        · rintro ⟨⟩
          exact ⟨rfl, rfl⟩
        · rintro ⟨rfl, _⟩
          rfl

end Reply

/-! ## Services -/

/-- The outcomes of a request that a client is not prepared for, and the failures that come of
them: documents that go too deep, and those that a service makes a failure of that is not the
node's. -/
inductive Baffles (strays : Document → Failure → Prop) : Except Text Reply → Failure → Prop
  | deep {reply : Reply} : reply.isRefusal = false → Json.parse reply.text = .error .tooDeep →
      Baffles strays (.ok reply) .tooDeep
  | stray {reply : Reply} {d : Document} {e : Failure} : reply.isRefusal = false →
      Json.parse reply.text = .ok d → strays d e → Baffles strays (.ok reply) e

namespace Rest

variable {α : Type}

/-- What comes of a request whose reply is to hold a document. -/
def answered (rest : Rest) (method : Method) (path summary : Text)
    (read : Reply → Document → Except Failure α) (outcome : Except Text Reply) :
    Except Failure α := do
  let reply ← rest.received method path outcome
  let d ← reply.document summary
  read reply d

theorem effect_answered {ω : Type} (rest : Rest) {transport : Transport ω} {method : Method}
    {path : Text} {payload : Payload} (summary : Text)
    (read : Reply → Document → Except Failure α) {outcome : Except Text Reply} {w w' : ω}
    (h : (transport.send ⟨method, rest.url method path, rest.timeout, payload⟩).effect w =
      (.ok outcome, w')) :
    (do
      let reply ← rest.ask transport method path payload
      let d ← reply.document summary
      read reply d : Action ω α).effect w =
      (rest.answered method path summary read outcome, w') := by
  unfold answered
  rw [effect_bind, rest.effect_ask h]
  rcases rest.received method path outcome with e | reply
  · rfl
  · show _ = (reply.document summary >>= _, w')
    dsimp only
    rcases reply.document summary with e | d <;> rfl

/-- A service fails in a way that is not the node's just if the outcome is one that it is not
prepared for. -/
theorem answered_foreign (rest : Rest) (method : Method) (path summary : Text)
    {read : Reply → Document → Except Failure α} {strays : Document → Failure → Prop}
    (hread : ∀ reply d e, e.isBackend = false → (read reply d = .error e ↔ strays d e))
    {outcome : Except Text Reply} {e : Failure} (he : e.isBackend = false) :
    rest.answered method path summary read outcome = .error e ↔ Baffles strays outcome e := by
  unfold answered
  simp only [bind_error_iff, received_ok, Reply.document_ok, Reply.document_foreign he]
  constructor
  · rintro (hreceived | ⟨reply, ⟨rfl, hrefusal⟩, ⟨rfl, hdeep⟩ | ⟨d, hparse, hfails⟩⟩)
    · have hbackend : e.isBackend = true := rest.failsWithin_received _ _ _ _ hreceived
      rw [he] at hbackend
      cases hbackend
    · exact .deep hrefusal hdeep
    · exact .stray hrefusal hparse ((hread _ _ _ he).mp hfails)
  · intro h
    cases h with
    | deep hrefusal hparse => exact .inr ⟨_, ⟨rfl, hrefusal⟩, .inl ⟨rfl, hparse⟩⟩
    | stray hrefusal hparse hstrays =>
        exact .inr ⟨_, ⟨rfl, hrefusal⟩, .inr ⟨_, hparse, (hread _ _ _ he).mpr hstrays⟩⟩

end Rest

/-- What a client is not prepared for, if it is not the node's, is no failure of the node. -/
theorem Baffles.foreign {strays : Document → Failure → Prop} {outcome : Except Text Reply}
    {e : Failure} (h : Baffles strays outcome e)
    (hstrays : ∀ d e, strays d e → e.isBackend = false) : e.isBackend = false := by
  cases h with
  | deep => rfl
  | stray _ _ h => exact hstrays _ _ h

/-! ## Replies to all requests -/

/-- A transport that gets the same reply to all requests. -/
def replying (reply : Reply) : Transport Unit where
  send _ := pure (.ok reply)
  close := pure ()

theorem replying_delivers (reply : Reply) : (replying reply).Delivers :=
  fun _ _ => ⟨.ok reply, (), rfl⟩

/-- A good reply with a body. -/
def goodReply (body : String) : Reply where
  status := 200
  body := body.toList.map fun c => UInt8.ofNat c.toNat

def node : Rest where
  address := "http://node"

end BallotWallet.Ledger
